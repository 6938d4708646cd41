import Foreign.CType.Basic
import Foreign.Memory.LittleEndian

/-!
Fixed-width numbers that memory can hold. A scalar is its kind and its bits, so a floating-point number
keeps the sign of its zero and the payload of its NaN. Main statements: encoding and decoding are inverse.
-/

namespace Foreign

inductive ScalarKind where
  | i8
  | u8
  | i16
  | u16
  | i32
  | u32
  | i64
  | u64
  | f32
  | f64
  deriving DecidableEq, Repr

namespace ScalarKind

/-- Bytes of a scalar of the kind. -/
def size : ScalarKind → Nat
  | i8 | u8 => 1
  | i16 | u16 => 2
  | i32 | u32 | f32 => 4
  | i64 | u64 | f64 => 8

def width (kind : ScalarKind) : Nat :=
  8 * kind.size

def isSigned : ScalarKind → Bool
  | i8 | i16 | i32 | i64 => true
  | _ => false

def isFloat : ScalarKind → Bool
  | f32 | f64 => true
  | _ => false

def name : ScalarKind → String
  | i8 => "i8"
  | u8 => "u8"
  | i16 => "i16"
  | u16 => "u16"
  | i32 => "i32"
  | u32 => "u32"
  | i64 => "i64"
  | u64 => "u64"
  | f32 => "f32"
  | f64 => "f64"

/-- The C type with the same values. -/
def type : ScalarKind → CType
  | i8 => .int .w8 true
  | u8 => .int .w8 false
  | i16 => .int .w16 true
  | u16 => .int .w16 false
  | i32 => .int .w32 true
  | u32 => .int .w32 false
  | i64 => .int .w64 true
  | u64 => .int .w64 false
  | f32 => .float
  | f64 => .double

def all : List ScalarKind :=
  [i8, u8, i16, u16, i32, u32, i64, u64, f32, f64]

def ofName? (name : String) : Option ScalarKind :=
  all.find? (·.name == name)

end ScalarKind

/-- The scalars that a type holds; `long` holds those of the 64-bit integer. -/
def CType.scalarKind? : CType → Option ScalarKind
  | .int .w8 true => some .i8
  | .int .w8 false => some .u8
  | .int .w16 true => some .i16
  | .int .w16 false => some .u16
  | .int .w32 true => some .i32
  | .int .w32 false => some .u32
  | .int .w64 true | .int .long true => some .i64
  | .int .w64 false | .int .long false => some .u64
  | .float => some .f32
  | .double => some .f64
  | _ => none

structure Scalar where
  kind : ScalarKind
  bits : BitVec kind.width
  deriving DecidableEq

namespace Scalar

/-- The scalar with the low bits of `n`. -/
def ofNat (kind : ScalarKind) (n : Nat) : Scalar :=
  ⟨kind, BitVec.ofNat kind.width n⟩

/-- The integer modulo the kind's range; for a floating-point kind, its bits. -/
def ofInt (kind : ScalarKind) (n : Int) : Scalar :=
  ⟨kind, BitVec.ofInt kind.width n⟩

def zero (kind : ScalarKind) : Scalar :=
  ofNat kind 0

/-- The number that an integer scalar stands for. -/
def toInt (scalar : Scalar) : Int :=
  if scalar.kind.isSigned then scalar.bits.toInt else scalar.bits.toNat

def encode (scalar : Scalar) : List UInt8 :=
  LittleEndian.encode scalar.kind.size scalar.bits.toNat

def decode (kind : ScalarKind) (bytes : List UInt8) : Scalar :=
  ofNat kind (LittleEndian.decode bytes)

/-- An integer in 64 bits; an unsigned one of 64 bits keeps its bits. -/
def integer? (scalar : Scalar) : Option (BitVec 64) :=
  if scalar.kind.isFloat then none
  else if scalar.kind.isSigned then some (scalar.bits.signExtend 64)
  else some (scalar.bits.setWidth 64)

@[simp] theorem length_encode (scalar : Scalar) : scalar.encode.length = scalar.kind.size := by
  simp [encode]

theorem decode_encode (scalar : Scalar) : decode scalar.kind scalar.encode = scalar := by
  obtain ⟨kind, bits⟩ := scalar
  have hlt : bits.toNat < 256 ^ kind.size := by
    have h : bits.toNat < 2 ^ (8 * kind.size) := bits.isLt
    rwa [Nat.pow_mul] at h
  simp [decode, encode, ofNat, LittleEndian.decode_encode, Nat.mod_eq_of_lt hlt]

theorem encode_decode (kind : ScalarKind) (bytes : List UInt8) (h : bytes.length = kind.size) :
    (decode kind bytes).encode = bytes := by
  have hlt := LittleEndian.decode_lt bytes
  rw [h] at hlt
  have hmod : LittleEndian.decode bytes % 2 ^ kind.width = LittleEndian.decode bytes := by
    apply Nat.mod_eq_of_lt
    rwa [show 2 ^ kind.width = 256 ^ kind.size from Nat.pow_mul 2 8 kind.size]
  simp only [decode, encode, ofNat, BitVec.toNat_ofNat, hmod, ← h]
  exact LittleEndian.encode_decode bytes

end Scalar
end Foreign
