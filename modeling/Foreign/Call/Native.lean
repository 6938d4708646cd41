import Foreign.Call.Frame

/-!
Machine code that libraries export, by what it does with the bytes of its arguments and with memory.
Integer arithmetic wraps. Memory that is not there makes a call undefined, as do missing arguments.
-/

namespace Foreign

inductive Native where
  /-- Sum of two `int32_t`. -/
  | add
  /-- Calls its first argument, an `int32_t (*)(int32_t)`, with its second. -/
  | applyInt
  /-- Sum of an array of `int64_t`, given with its length. -/
  | sumArray
  /-- `tag + count * weight` of a record. -/
  | recordScore
  | makeRecord
  /-- Sets the `count` of a record in memory. -/
  | fill
  /-- Bytes before the zero byte that ends a text. -/
  | textLength
  /-- The successor of a `uint8_t`. -/
  | wrapByte
  | abs
  | longAbs
  /-- The capital of an ASCII letter, and the unsigned number of a byte that is negative with a sign, apart
  from the one that marks the end of a file; any other number as it is. -/
  | toUpper
  deriving DecidableEq, Repr

namespace Native

abbrev Bytes := List UInt8

/-- A scalar extended to a word, as a register holds it. -/
def extend (s : Scalar) : Bytes :=
  match s.integer? with
  | some bits => LittleEndian.encode Slot.wordSize bits.toNat
  | none => overlay (List.replicate Slot.wordSize 0) s.encode

def scalar (arguments : List Bytes) (index : Nat) (kind : ScalarKind) : Outcome Scalar :=
  match arguments[index]? with
  | some bytes => if kind.size ≤ bytes.length then .ok (.decode kind (bytes.take kind.size))
    else .error .undefined
  | none => .error .undefined

def integer (arguments : List Bytes) (index : Nat) (kind : ScalarKind) : Outcome Int := do
  let s ← scalar arguments index kind
  return s.toInt

def address (arguments : List Bytes) (index : Nat) : Outcome Word := do
  let s ← scalar arguments index .u64
  return UInt64.ofNat s.bits.toNat

/-- Offsets of the last two fields of a record; its `int16_t` tag, its `int32_t` count and its `double`
weight lie in this order. -/
def countOffset : Nat := 4

def weightOffset : Nat := 8

def load (store : Store) (address size : Word) : Outcome Bytes :=
  match store.load? address size with
  | some bytes => .ok bytes
  | none => .error .undefined

/-- What a count of numbers from `address` on add to `total`. -/
def sumFrom (store : Store) (total : Int) : Nat → Word → Outcome Int
  | 0, _ => .ok total
  | count + 1, address => do
    let bytes ← load store address 8
    sumFrom store (total + (Scalar.decode .i64 bytes).toInt) count (address + 8)

/-- Bytes from `address` to the first zero byte, which is within the block around `address`. -/
def textLengthAt (store : Store) (address : Word) : Outcome Nat :=
  match store.blockAt? address with
  | some block =>
    let bytes := store.memory.read address (block.extent.stop - address).toNat
    match bytes.findIdx? (· == 0) with
    | some length => .ok length
    | none => .error .undefined
  | none => .error .undefined

def score (record : Bytes) : Outcome (BitVec 64) := do
  let tag ← integer [record] 0 .i16
  let count ← integer [record.drop countOffset] 0 .i32
  let weight ← scalar [record.drop weightOffset] 0 .u64
  return FloatBits.add (FloatBits.ofInt tag)
    (FloatBits.mul (FloatBits.ofInt count) (weight.bits.setWidth 64))

def capital (n : Int) : Int :=
  if 97 ≤ n ∧ n ≤ 122 then n - 32
  else if -128 ≤ n ∧ n < -1 then n + 256
  else n

/-- What the code does by itself; calling another function is left to the machine. -/
def run (native : Native) (arguments : List Bytes) (store : Store) : Outcome (Bytes × Store) := do
  match native with
  | add =>
    let a ← integer arguments 0 .i32
    let b ← integer arguments 1 .i32
    return (extend (.ofInt .i32 (a + b)), store)
  | applyInt => .error .undefined
  | sumArray =>
    let start ← address arguments 0
    let count ← integer arguments 1 .u32
    let total ← sumFrom store 0 count.toNat start
    return (extend (.ofInt .i64 total), store)
  | recordScore =>
    let total ← score (arguments.headD [])
    return (LittleEndian.encode 8 total.toNat, store)
  | makeRecord =>
    let tag ← scalar arguments 0 .i16
    let count ← scalar arguments 1 .i32
    let weight ← scalar arguments 2 .f64
    return (tag.encode ++ [0, 0] ++ count.encode ++ weight.encode, store)
  | fill =>
    let start ← address arguments 0
    let count ← scalar arguments 1 .i32
    match store.save? (start + UInt64.ofNat countOffset) count.encode with
    | some store => return (List.replicate Slot.wordSize 0, store)
    | none => .error .undefined
  | textLength =>
    let start ← address arguments 0
    let length ← textLengthAt store start
    return (extend (.ofNat .u64 length), store)
  | wrapByte =>
    let n ← integer arguments 0 .u8
    return (extend (.ofInt .u8 (n + 1)), store)
  | abs =>
    let n ← integer arguments 0 .i32
    return (extend (.ofInt .i32 n.natAbs), store)
  | longAbs =>
    let n ← integer arguments 0 .i64
    return (extend (.ofInt .i64 n.natAbs), store)
  | toUpper =>
    let n ← integer arguments 0 .i32
    return (extend (.ofInt .i32 (capital n)), store)

end Native
end Foreign
