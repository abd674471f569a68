import Mathlib.Data.List.Basic

/-!
# Go's machine integers

The watcher does its block arithmetic in Go's `uint64` and `int64`. A `uint64` is Lean's
`UInt64`, whose subtraction wraps exactly as Go's does. Lean 4.14 has no signed 64-bit type,
so an `int64` is an integer that carries its range, and each Go operation on it reduces the
exact result with the two's-complement `wrap`. A `*big.Int` is an `Int`; its `Int64()` keeps
the low 64 bits of the value, which is `wrap` again.

The constants 2^63 and 2^64 are written as literals so that `omega` reads them.
-/
namespace HashportValidator

/-- Two's-complement reduction onto `[-2^63, 2^63)`: the residue mod 2^64, less 2^64 when its
top bit is set. The test is on `Nat`, so that Lean never evaluates `Int` order on a symbolic
residue (that runs the unary recursion of `Nat.sub` through the 2^63 literal). -/
def wrap (x : Int) : Int :=
  if (x % 18446744073709551616).toNat < 9223372036854775808 then x % 18446744073709551616
  else x % 18446744073709551616 - 18446744073709551616

theorem wrap_lower (x : Int) : -9223372036854775808 ≤ wrap x := by unfold wrap; split <;> omega

theorem wrap_upper (x : Int) : wrap x < 9223372036854775808 := by unfold wrap; split <;> omega

theorem wrap_of_mem {x : Int} (h₁ : -9223372036854775808 ≤ x) (h₂ : x < 9223372036854775808) :
    wrap x = x := by
  unfold wrap; split <;> omega

/-- Go's `int64`: an integer of `[-2^63, 2^63)`. -/
structure Int64 where
  val : Int
  lower : -9223372036854775808 ≤ val
  upper : val < 9223372036854775808
  deriving DecidableEq

namespace Int64

/-- The `int64` a Go operation stores for the exact integer result `x`; also
`(*big.Int).Int64()`. -/
def ofInt (x : Int) : Int64 := ⟨wrap x, wrap_lower x, wrap_upper x⟩

instance : Add Int64 := ⟨fun a b => ofInt (a.val + b.val)⟩
instance : Sub Int64 := ⟨fun a b => ofInt (a.val - b.val)⟩
instance : LT Int64 := ⟨fun a b => a.val < b.val⟩
instance : LE Int64 := ⟨fun a b => a.val ≤ b.val⟩
instance : OfNat Int64 n := ⟨ofInt n⟩
instance (a b : Int64) : Decidable (a < b) := inferInstanceAs (Decidable (a.val < b.val))
instance (a b : Int64) : Decidable (a ≤ b) := inferInstanceAs (Decidable (a.val ≤ b.val))

/-- Go's conversion `int64(u)`: the bits of a `uint64` read as signed. -/
def ofUInt64 (u : UInt64) : Int64 := ofInt u.toNat

@[ext] theorem ext {a b : Int64} (h : a.val = b.val) : a = b := by
  cases a; cases b; cases h; rfl

@[simp] theorem val_ofInt (x : Int) : (ofInt x).val = wrap x := rfl
@[simp] theorem val_add (a b : Int64) : (a + b).val = wrap (a.val + b.val) := rfl
@[simp] theorem val_sub (a b : Int64) : (a - b).val = wrap (a.val - b.val) := rfl
@[simp] theorem lt_iff (a b : Int64) : a < b ↔ a.val < b.val := .rfl
@[simp] theorem le_iff (a b : Int64) : a ≤ b ↔ a.val ≤ b.val := .rfl
@[simp] theorem val_ofUInt64 (u : UInt64) : (ofUInt64 u).val = wrap u.toNat := rfl

theorem val_ofInt_of_mem {x : Int} (h₁ : -9223372036854775808 ≤ x)
    (h₂ : x < 9223372036854775808) : (ofInt x).val = x := wrap_of_mem h₁ h₂

/-- An exact sum is kept whenever it fits. -/
theorem val_add_of_mem {a b : Int64} (h₁ : -9223372036854775808 ≤ a.val + b.val)
    (h₂ : a.val + b.val < 9223372036854775808) : (a + b).val = a.val + b.val :=
  wrap_of_mem h₁ h₂

theorem val_sub_of_mem {a b : Int64} (h₁ : -9223372036854775808 ≤ a.val - b.val)
    (h₂ : a.val - b.val < 9223372036854775808) : (a - b).val = a.val - b.val :=
  wrap_of_mem h₁ h₂

end Int64

/-- Go's conversion `uint64(i)` of an `int64`. -/
def Int64.toUInt64 (i : Int64) : UInt64 := UInt64.ofNat (i.val % 18446744073709551616).toNat

/-- Go's `uint64` subtraction, as a natural number. -/
theorem toNat_usub (a b : UInt64) :
    (a - b).toNat = (18446744073709551616 - b.toNat + a.toNat) % 18446744073709551616 := rfl

theorem toNat_lt_size (a : UInt64) : a.toNat < 18446744073709551616 := a.toBitVec.isLt

/-- `int64(a - b)` on `uint64`s is the exact difference when that fits in an `int64`. -/
theorem val_ofUInt64_usub {a b : UInt64}
    (h₁ : -9223372036854775808 ≤ (a.toNat : Int) - b.toNat)
    (h₂ : (a.toNat : Int) - b.toNat < 9223372036854775808) :
    (Int64.ofUInt64 (a - b)).val = (a.toNat : Int) - b.toNat := by
  have ha := toNat_lt_size a
  have hb := toNat_lt_size b
  rw [Int64.val_ofUInt64, toNat_usub]
  unfold wrap
  split <;> omega

end HashportValidator
