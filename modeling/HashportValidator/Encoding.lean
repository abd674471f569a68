import HashportValidator.GoInt
import Mathlib.Data.Nat.Digits

/-!
# Hashes and the identifiers built from them

A lock or burn transfer is identified by `fmt.Sprintf("%s-%d", TxHash, Index)`. go-ethereum
formats a `common.Hash` under `%s` as `0x` followed by 64 lowercase hex digits, and `%d` writes
the log index in decimal. The hex part has a fixed width, so the separator sits at a fixed
place and the string determines both the hash and the index: `transferId_inj`.

Decimal and hex rendering use Lean's own `Nat.toDigits` and `Nat.digitChar`; both are inverted
here by reading the digits back.
-/
namespace HashportValidator

/-- go-ethereum's `common.Hash`: exactly 32 bytes. -/
structure Hash where
  bytes : List UInt8
  length_bytes : bytes.length = 32
  deriving DecidableEq

/-- Two lowercase hex digits of a byte, the high nibble first. -/
def hexByte (b : UInt8) : List Char :=
  [Nat.digitChar (b.toNat / 16), Nat.digitChar (b.toNat % 16)]

/-- `%s` of a `common.Hash`. -/
def Hash.hex (h : Hash) : String := ⟨'0' :: 'x' :: h.bytes.flatMap hexByte⟩

/-- `fmt.Sprintf("%s-%d", txHash, index)`, the identifier of a lock or burn transfer. -/
def transferId (txHash : Hash) (index : UInt64) : String :=
  txHash.hex ++ "-" ++ toString index

/-! ## Reading digits back -/

/-- The value of a hex digit written by `Nat.digitChar`. -/
def hexDigitValue (c : Char) : Nat := if c.toNat < 58 then c.toNat - 48 else c.toNat - 87

/-- The value of a decimal numeral, most significant digit first. -/
def decimalValue (cs : List Char) : Nat := cs.foldl (fun n c => 10 * n + (c.toNat - 48)) 0

theorem hexDigitValue_digitChar : ∀ d, d < 16 → hexDigitValue (Nat.digitChar d) = d := by
  decide

theorem decimalValue_append_singleton (cs : List Char) (c : Char) :
    decimalValue (cs ++ [c]) = 10 * decimalValue cs + (c.toNat - 48) := by
  simp [decimalValue]

theorem toDigitsCore_eq_append (f n : Nat) (ds : List Char) :
    Nat.toDigitsCore 10 f n ds = Nat.toDigitsCore 10 f n [] ++ ds := by
  induction f generalizing n ds with
  | zero => rfl
  | succ f ih =>
      simp only [Nat.toDigitsCore]
      split
      · rfl
      · rw [ih _ (_ :: ds), ih _ [_], List.append_assoc, List.singleton_append]

theorem decimalValue_toDigitsCore (f n : Nat) (hn : n < f) :
    decimalValue (Nat.toDigitsCore 10 f n []) = n := by
  induction f generalizing n with
  | zero => omega
  | succ f ih =>
      have hd : (Nat.digitChar (n % 10)).toNat - 48 = n % 10 :=
        (by decide : ∀ d, d < 10 → (Nat.digitChar d).toNat - 48 = d) _ (Nat.mod_lt _ (by omega))
      simp only [Nat.toDigitsCore]
      split
      · rw [← List.nil_append [_], decimalValue_append_singleton, hd,
          show decimalValue [] = 0 from rfl]
        omega
      · rw [toDigitsCore_eq_append, decimalValue_append_singleton, hd, ih _ (by omega)]
        omega

theorem decimalValue_toString (n : Nat) : decimalValue (toString n).data = n :=
  decimalValue_toDigitsCore (n + 1) n (by omega)

/-! ## Injectivity -/

theorem hexByte_inj {a b : UInt8} (h : hexByte a = hexByte b) : a = b := by
  have ha : a.toNat < 256 := a.toBitVec.isLt
  have hb : b.toNat < 256 := b.toBitVec.isLt
  simp only [hexByte, List.cons.injEq, and_true] at h
  have hhi := congrArg hexDigitValue h.1
  have hlo := congrArg hexDigitValue h.2
  rw [hexDigitValue_digitChar _ (by omega), hexDigitValue_digitChar _ (by omega)] at hhi
  rw [hexDigitValue_digitChar _ (Nat.mod_lt _ (by omega)),
    hexDigitValue_digitChar _ (Nat.mod_lt _ (by omega))] at hlo
  exact UInt8.toNat.inj (by omega)

theorem flatMap_hexByte_inj :
    ∀ {xs ys : List UInt8}, xs.flatMap hexByte = ys.flatMap hexByte → xs = ys
  | [], [], _ => rfl
  | [], _ :: _, h => by simp [hexByte] at h
  | _ :: _, [], h => by simp [hexByte] at h
  | x :: xs, y :: ys, h => by
      simp only [List.flatMap_cons] at h
      obtain ⟨hxy, hrest⟩ := List.append_inj h rfl
      rw [hexByte_inj hxy, flatMap_hexByte_inj hrest]

theorem length_flatMap_hexByte (xs : List UInt8) :
    (xs.flatMap hexByte).length = 2 * xs.length := by
  induction xs with
  | nil => rfl
  | cons x xs ih =>
    have hx : (hexByte x).length = 2 := rfl
    rw [List.flatMap_cons, List.length_append, ih, hx, List.length_cons]
    omega

theorem length_hex (h : Hash) : h.hex.data.length = 66 := by
  simp only [Hash.hex, List.length_cons, length_flatMap_hexByte, h.length_bytes]

theorem hex_inj {h₁ h₂ : Hash} (h : h₁.hex = h₂.hex) : h₁ = h₂ := by
  have hb := flatMap_hexByte_inj (List.cons.inj (List.cons.inj (congrArg String.data h)).2).2
  cases h₁; cases h₂; cases hb; rfl

/-- The identifier determines the log's transaction hash and index. -/
theorem transferId_inj {h₁ h₂ : Hash} {i₁ i₂ : UInt64} :
    transferId h₁ i₁ = transferId h₂ i₂ ↔ h₁ = h₂ ∧ i₁ = i₂ := by
  refine ⟨fun h => ?_, fun ⟨rfl, rfl⟩ => rfl⟩
  have hd := congrArg String.data h
  simp only [transferId, String.data_append, List.append_assoc] at hd
  obtain ⟨hhex, hrest⟩ := List.append_inj hd (by rw [length_hex, length_hex])
  have hidx := congrArg decimalValue (List.cons.inj hrest).2
  exact ⟨hex_inj (String.ext hhex), UInt64.toNat.inj
    ((decimalValue_toString _).symm.trans (hidx.trans (decimalValue_toString _)))⟩

end HashportValidator
