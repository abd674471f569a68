import Mathlib.Data.List.Forall2
/-!
# The script that creates a wrapped token

The `main` of the token-creation script. It refuses four flags left at their defaults, parses
the admin key, the members' private keys and the supply keys, builds the threshold key list and
asks `WrappedFungibleToken` for a token with a fixed supply. The Hedera SDK and the script's
`client` and `wrapped_create` packages are not part of this model: the functions `main` calls are
the fields of `Sdk`, over the SDK's own key and id types, and `client.Init` is represented by its
three arguments. A `panic` is the error of the result, carrying the value it panics with; what
the script prints is left out.

The members' private keys are parsed whatever the source of the supply keys, so every entry of
`-memberPrKeys` has to parse even when the supply keys come from `-supplyKeys`: at the flag's
default, the empty string, the script parses one empty key.
-/
namespace HashportValidator.WrappedTokenScript

/-- The flags after `flag.Parse`; `flag.Uint` values are 64-bit. -/
structure Flags where
  privateKey : String
  accountID : String
  network : String
  bridgeID : String
  adminKey : String
  threshold : UInt64
  supplyKeys : String
  memberPrKeys : String
  generateSupplyKeysFromMemberPrKeys : Bool
  name : String
  symbol : String
  decimals : UInt64
  deriving DecidableEq, Repr

def Flags.default : Flags where
  privateKey := "0x0"
  accountID := "0.0"
  network := ""
  bridgeID := "0.0"
  adminKey := ""
  threshold := 1
  supplyKeys := ""
  memberPrKeys := ""
  generateSupplyKeysFromMemberPrKeys := false
  name := "Wrapped Generic"
  symbol := "WG"
  decimals := 8

/-- `hedera.KeyListWithThreshold(threshold)` after its `Add`s. -/
structure KeyList (PublicKey : Type) where
  threshold : UInt64
  keys : List PublicKey

/-- The arguments of `wrapped_create.WrappedFungibleToken`. -/
structure WrappedToken (PublicKey PrivateKey AccountID : Type) where
  client : String × String × String
  bridgeID : AccountID
  adminKey : PublicKey
  supplyKey : KeyList PublicKey
  custodianKey : List PrivateKey
  name : String
  symbol : String
  decimals : UInt64
  supply : UInt64

/-- The SDK functions and the token creation that `main` calls. -/
structure Sdk (PublicKey PrivateKey AccountID TokenID : Type) where
  publicKeyFromString : String → Except String PublicKey
  privateKeyFromString : String → Except String PrivateKey
  publicKey : PrivateKey → PublicKey
  accountIDFromString : String → Except String AccountID
  wrappedFungibleToken : WrappedToken PublicKey PrivateKey AccountID → Except String TokenID

/-- The flags `main` refuses at their default, in the order it checks them, with the value it
panics with. -/
def requiredFlags : List ((Flags → String) × String × String) :=
  [(Flags.privateKey, "0x0", "Private key was not provided"),
    (Flags.accountID, "0.0", "Account id was not provided"),
    (Flags.bridgeID, "0.0", "Bridge id was not provided"),
    (Flags.adminKey, "", "admin key not provided")]

def checkFlags (f : Flags) : List ((Flags → String) × String × String) → Except String Unit
  | [] => .ok ()
  | (flag, default, message) :: rest => if flag f = default then .error message else checkFlags f rest

/-- Every flag the script checks is refused at the default `flag` gives it. -/
theorem requiredFlags_default : ∀ c ∈ requiredFlags, c.1 Flags.default = c.2.1 := by
  simp [requiredFlags, Flags.default]

theorem checkFlags_eq_ok {f : Flags} {cs : List ((Flags → String) × String × String)} :
    checkFlags f cs = .ok () ↔ ∀ c ∈ cs, c.1 f ≠ c.2.1 := by
  induction cs with
  | nil => simp [checkFlags]
  | cons c cs ih =>
    unfold checkFlags
    split <;> simp_all

theorem mapM_eq_ok_iff_forall₂ {α β : Type} {p : α → Except String β} {xs : List α}
    {ys : List β} : xs.mapM p = .ok ys ↔ List.Forall₂ (fun x y => p x = .ok y) xs ys := by
  induction xs generalizing ys with
  | nil =>
    rw [List.mapM_nil]
    cases ys <;> simp [pure, Except.pure]
  | cons x xs ih =>
    simp only [List.mapM_cons, List.forall₂_cons_left_iff, ← ih]
    cases p x <;> cases xs.mapM p <;> simp [bind, Except.bind, pure, Except.pure, eq_comm]

theorem bind_eq_ok {α β : Type} {x : Except String α} {g : α → Except String β} {b : β} :
    x >>= g = .ok b ↔ ∃ a, x = .ok a ∧ g a = .ok b := by
  cases x <;> simp [bind, Except.bind]

section
variable {PublicKey PrivateKey AccountID TokenID : Type}
  (sdk : Sdk PublicKey PrivateKey AccountID TokenID)

/-- The loop over the supply keys: a key that does not parse panics with the key and the
error. -/
def parseSupplyKeys (supplyKeys : String) : Except String (List PublicKey) :=
  (supplyKeys.splitOn ",").mapM fun sk =>
    (sdk.publicKeyFromString sk).mapError fun err =>
      "failed to parse supply key [" ++ sk ++ "]. error [" ++ err ++ "]"

/-- `main` up to its call of `WrappedFungibleToken`: the arguments of that call. -/
def tokenArgs (f : Flags) : Except String (WrappedToken PublicKey PrivateKey AccountID) := do
  checkFlags f requiredFlags
  let membersSlice := f.memberPrKeys.splitOn ","
  let adminPublicKey ← sdk.publicKeyFromString f.adminKey
  let custodianKey ← membersSlice.mapM sdk.privateKeyFromString
  let keys ← (if f.generateSupplyKeysFromMemberPrKeys then pure (custodianKey.map sdk.publicKey)
    else parseSupplyKeys sdk f.supplyKeys)
  let bridgeIDFromString ← sdk.accountIDFromString f.bridgeID
  pure
    { client := (f.privateKey, f.accountID, f.network)
      bridgeID := bridgeIDFromString
      adminKey := adminPublicKey
      supplyKey := ⟨f.threshold, keys⟩
      custodianKey := custodianKey
      name := f.name
      symbol := f.symbol
      decimals := f.decimals
      supply := 100000000000000 }

/-- The script's `main`: the token it creates, or the value it panics with. -/
def main (f : Flags) : Except String TokenID :=
  (tokenArgs sdk f).bind sdk.wrappedFungibleToken

theorem parseSupplyKeys_eq_ok {supplyKeys : String} {keys : List PublicKey} :
    parseSupplyKeys sdk supplyKeys = .ok keys ↔
      List.Forall₂ (fun s k => sdk.publicKeyFromString s = .ok k) (supplyKeys.splitOn ",") keys := by
  have hparse : (fun s k => ((sdk.publicKeyFromString s).mapError fun err =>
      "failed to parse supply key [" ++ s ++ "]. error [" ++ err ++ "]") = .ok k) =
      fun s k => sdk.publicKeyFromString s = .ok k := by
    funext s k
    cases sdk.publicKeyFromString s <;> simp [Except.mapError]
  rw [parseSupplyKeys, mapM_eq_ok_iff_forall₂, hparse]

/-- What the script asks `WrappedFungibleToken` for: none of the checked flags at its default,
the custodian keys the entries of `-memberPrKeys` parsed one by one, in order, and a supply key
list with the flag's threshold and either the custodian keys' public keys or the entries of
`-supplyKeys` parsed one by one. -/
theorem tokenArgs_spec {f : Flags} {args : WrappedToken PublicKey PrivateKey AccountID}
    (h : tokenArgs sdk f = .ok args) :
    (∀ c ∈ requiredFlags, c.1 f ≠ c.2.1) ∧
      sdk.publicKeyFromString f.adminKey = .ok args.adminKey ∧
      List.Forall₂ (fun s k => sdk.privateKeyFromString s = .ok k) (f.memberPrKeys.splitOn ",")
        args.custodianKey ∧
      args.supplyKey.threshold = f.threshold ∧
      (if f.generateSupplyKeysFromMemberPrKeys then
          args.supplyKey.keys = args.custodianKey.map sdk.publicKey
        else List.Forall₂ (fun s k => sdk.publicKeyFromString s = .ok k) (f.supplyKeys.splitOn ",")
          args.supplyKey.keys) ∧
      sdk.accountIDFromString f.bridgeID = .ok args.bridgeID ∧
      args.supply = 100000000000000 := by
  obtain ⟨⟨⟩, hc, h⟩ := bind_eq_ok.mp h
  obtain ⟨admin, ha, h⟩ := bind_eq_ok.mp h
  obtain ⟨custodian, hm, h⟩ := bind_eq_ok.mp h
  obtain ⟨keys, hk, h⟩ := bind_eq_ok.mp h
  obtain ⟨bridge, hb, h⟩ := bind_eq_ok.mp h
  cases h
  refine ⟨checkFlags_eq_ok.mp hc, ha, mapM_eq_ok_iff_forall₂.mp hm, rfl, ?_, hb, rfl⟩
  split <;> rename_i hg
  · rw [if_pos hg] at hk
    exact (Except.ok.inj hk).symm
  · rw [if_neg hg] at hk
    exact (parseSupplyKeys_eq_ok sdk).mp hk

end

end HashportValidator.WrappedTokenScript
