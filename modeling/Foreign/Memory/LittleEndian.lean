/-!
Numbers as bytes, the least significant first. Main statements: the two directions are inverse on numbers
that fit and on byte lists of the right length.
-/

namespace Foreign.LittleEndian

/-- The lowest `size` bytes of `n`. -/
def encode : Nat → Nat → List UInt8
  | 0, _ => []
  | size + 1, n => UInt8.ofNat n :: encode size (n / 256)

def decode : List UInt8 → Nat
  | [] => 0
  | byte :: rest => byte.toNat + 256 * decode rest

@[simp] theorem length_encode (size n : Nat) : (encode size n).length = size := by
  induction size generalizing n with
  | zero => rfl
  | succ size ih => simp [encode, ih]

theorem getElem_encode {size i : Nat} (n : Nat) (h : i < (encode size n).length) :
    (encode size n)[i] = UInt8.ofNat (n >>> (8 * i)) := by
  induction size generalizing n i with
  | zero => cases h
  | succ size ih =>
    cases i with
    | zero => rfl
    | succ i =>
      have hshift : n >>> (8 * (i + 1)) = (n / 256) >>> (8 * i) := by
        rw [Nat.mul_succ, Nat.add_comm, Nat.shiftRight_add, Nat.shiftRight_eq_div_pow n 8]
      simp only [encode, List.getElem_cons_succ, ih, hshift]

theorem decode_encode (size n : Nat) : decode (encode size n) = n % Nat.pow 256 size := by
  induction size generalizing n with
  | zero => exact (Nat.mod_one n).symm
  | succ size ih =>
    have h : n % (256 * Nat.pow 256 size) = n % 256 + 256 * (n / 256 % Nat.pow 256 size) := Nat.mod_mul
    have hpow : Nat.pow 256 (size + 1) = 256 * Nat.pow 256 size := Nat.mul_comm _ _
    rw [encode, decode, ih, UInt8.toNat_ofNat', hpow, h]

theorem decode_lt (bytes : List UInt8) : decode bytes < Nat.pow 256 bytes.length := by
  induction bytes with
  | nil => exact Nat.one_pos
  | cons byte rest ih =>
    have := byte.toNat_lt
    have hpow : Nat.pow 256 (rest.length + 1) = 256 * Nat.pow 256 rest.length := Nat.mul_comm _ _
    rw [decode, List.length_cons, hpow]
    omega

theorem encode_decode (bytes : List UInt8) : encode bytes.length (decode bytes) = bytes := by
  induction bytes with
  | nil => rfl
  | cons byte rest ih =>
    have h := byte.toNat_lt
    rw [List.length_cons, encode, decode]
    congr 1
    · apply UInt8.toNat_inj.1
      rw [UInt8.toNat_ofNat']
      omega
    · rw [show (byte.toNat + 256 * decode rest) / 256 = decode rest by omega, ih]

end Foreign.LittleEndian
