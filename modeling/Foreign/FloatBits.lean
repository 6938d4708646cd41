/-!
Arithmetic on floating-point numbers given by their bits. A NaN operand is passed on with its payload and
made quiet; an operation on numbers that has no value gives the negative quiet NaN without payload.
-/

namespace Foreign.FloatBits

def isNaN32 (bits : BitVec 32) : Bool :=
  bits &&& 0x7fffffff > 0x7f800000

def isNaN64 (bits : BitVec 64) : Bool :=
  bits &&& 0x7fffffffffffffff > 0x7ff0000000000000

def quiet (bits : BitVec 64) : BitVec 64 :=
  bits ||| 0x0008000000000000

def undefinedResult : BitVec 64 := 0xfff8000000000000

def ofFloat (x : Float) : BitVec 64 :=
  if x.isNaN then undefinedResult else x.toBits.toBitVec

def toFloat (bits : BitVec 64) : Float :=
  Float.ofBits (UInt64.ofBitVec bits)

/-- The result of a binary operation, the first NaN operand taking precedence. -/
def combine (op : Float → Float → Float) (a b : BitVec 64) : BitVec 64 :=
  if isNaN64 a then quiet a
  else if isNaN64 b then quiet b
  else ofFloat (op (toFloat a) (toFloat b))

def add : BitVec 64 → BitVec 64 → BitVec 64 :=
  combine (· + ·)

def mul : BitVec 64 → BitVec 64 → BitVec 64 :=
  combine (· * ·)

def ofInt (n : Int) : BitVec 64 :=
  ofFloat (Float.ofInt n)

def widen (bits : BitVec 32) : BitVec 64 :=
  if isNaN32 bits then
    let sign := (bits.extractLsb' 31 1).setWidth 64 <<< 63
    let payload := (bits.extractLsb' 0 23).setWidth 64 <<< 29
    quiet (sign ||| 0x7ff0000000000000 ||| payload)
  else ofFloat (Float32.ofBits (UInt32.ofBitVec bits)).toFloat

/-- The nearest single-precision number. -/
def narrow (bits : BitVec 64) : BitVec 32 :=
  if isNaN64 bits then
    let sign := (bits.extractLsb' 63 1).setWidth 32 <<< 31
    let payload := (bits.extractLsb' 29 23).setWidth 32
    sign ||| 0x7fc00000 ||| payload
  else (toFloat bits).toFloat32.toBits.toBitVec

/-- Numeric equality: the two zeros are equal and a NaN equals nothing. -/
def equal32 (a b : BitVec 32) : Bool :=
  !isNaN32 a && !isNaN32 b && (a == b || (a ||| b) &&& 0x7fffffff == 0)

def equal64 (a b : BitVec 64) : Bool :=
  !isNaN64 a && !isNaN64 b && (a == b || (a ||| b) &&& 0x7fffffffffffffff == 0)

end Foreign.FloatBits
