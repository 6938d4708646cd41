/-!
Machine words. Sizes, offsets and addresses are unsigned 64-bit numbers. The plain operators wrap;
the ones that end in a question mark refuse a result that does not fit.
-/

namespace Foreign

abbrev Word := UInt64

namespace Word

/-- The least multiple of `align` that is not below `value`, modulo 2^64. -/
def alignUp (value align : Word) : Word :=
  let top := value + (align - 1)
  top - top % align

def add? (a b : Word) : Option Word :=
  if a.toNat + b.toNat < UInt64.size then some (a + b) else none

def mul? (a b : Word) : Option Word :=
  if a.toNat * b.toNat < UInt64.size then some (a * b) else none

/-- The word whose bits are those of `n` in two's complement, reduced modulo 2^64. -/
def ofInt (n : Int) : Word :=
  UInt64.ofNat (n % (UInt64.size : Int)).toNat

/-- The signed number with the same bits. -/
def toInt (a : Word) : Int :=
  if a.toNat < 0x8000000000000000 then a.toNat else (a.toNat : Int) - UInt64.size

/-- Lowercase hexadecimal digits, without leading zeros. -/
def hexDigits (a : Word) : String :=
  String.ofList (Nat.toDigits 16 a.toNat)

theorem add?_eq_some_iff {a b c : Word} :
    add? a b = some c ↔ a.toNat + b.toNat < UInt64.size ∧ a + b = c := by
  unfold add?
  split <;> rename_i h <;> simp [h]

theorem add?_eq_none_iff {a b : Word} :
    add? a b = none ↔ UInt64.size ≤ a.toNat + b.toNat := by
  unfold add?
  split <;> simp_all

theorem mul?_eq_some_iff {a b c : Word} :
    mul? a b = some c ↔ a.toNat * b.toNat < UInt64.size ∧ a * b = c := by
  unfold mul?
  split <;> rename_i h <;> simp [h]

theorem mul?_eq_none_iff {a b : Word} :
    mul? a b = none ↔ UInt64.size ≤ a.toNat * b.toNat := by
  unfold mul?
  split <;> simp_all

end Word
end Foreign
