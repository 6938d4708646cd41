import Foreign.Failure

/-!
How calling conventions pass arguments. Each argument goes to registers of its class while enough of
them are left, and to the stack otherwise; an aggregate that is too large for registers goes to the
stack or, under some conventions, travels as the address of a copy.
-/

namespace Foreign

inductive Convention where
  /-- The plain convention of an unknown platform. -/
  | c
  | sysV
  | win64
  | aapcs
  | aarch64
  deriving DecidableEq, Repr

namespace Convention

/-- The convention of x86-64 outside Windows. -/
def platform : Convention := .sysV

def registers : Convention → Word
  | c => 6
  | sysV => 6
  | win64 => 4
  | aapcs => 4
  | aarch64 => 8

def hasFloatRegisters : Convention → Bool
  | sysV | win64 | aarch64 => true
  | c | aapcs => false

/-- Whether an aggregate of `size` bytes is passed as the address of a copy. -/
def passesByReference (convention : Convention) (size : Word) : Bool :=
  match convention with
  | win64 => !(size == 1 || size == 2 || size == 4 || size == 8)
  | aarch64 => size > 16
  | sysV | c | aapcs => false

/-- Bytes of the largest aggregate that can travel in registers. -/
def largestInRegisters : Convention → Word
  | win64 => 8
  | sysV | aarch64 => 16
  | aapcs | c => 32

end Convention

inductive ArgumentClass where
  | integer
  | float
  | aggregate
  deriving DecidableEq, Repr

namespace ArgumentClass

def text : ArgumentClass → String
  | integer => "Integer"
  | float => "Float"
  | aggregate => "Aggregate"

end ArgumentClass

inductive Placement where
  | register
  | stack
  deriving DecidableEq, Repr

namespace Placement

def text : Placement → String
  | register => "Register"
  | stack => "Stack"

end Placement

structure Shape where
  argumentClass : ArgumentClass
  /-- Machine words that the value takes. -/
  words : Word
  placement : Placement
  byReference : Bool
  deriving DecidableEq, Repr

namespace Shape

def text (shape : Shape) : String :=
  s!"ArgShape \x7b class: {shape.argumentClass.text}, words: {shape.words.toNat}, " ++
    s!"placement: {shape.placement.text}, by_reference: {shape.byReference} \x7d"

end Shape

/-- Machine words of a value; even an empty one takes a word. -/
def CType.words (type : CType) : Word :=
  max 1 (type.size / 8 + if type.size % 8 = 0 then 0 else 1)

/-- The registers that the arguments so far have taken. -/
structure RegisterFile where
  convention : Convention
  integers : Word
  floats : Word
  deriving DecidableEq, Repr

namespace RegisterFile

def fresh (convention : Convention) : RegisterFile := ⟨convention, 0, 0⟩

def countsFloat (file : RegisterFile) (isFloat : Bool) : Bool :=
  isFloat && file.convention.hasFloatRegisters

def taken (file : RegisterFile) (isFloat : Bool) : Word :=
  if file.countsFloat isFloat then file.floats else file.integers

def canTake (file : RegisterFile) (isFloat : Bool) (count : Word) : Outcome Bool := do
  let total ← Outcome.sum (file.taken isFloat) count
  return total ≤ file.convention.registers

/-- Take `count` registers of the class, whether or not they are there. -/
def take (file : RegisterFile) (isFloat : Bool) (count : Word) : Outcome RegisterFile := do
  let total ← Outcome.sum (file.taken isFloat) count
  return if file.countsFloat isFloat then { file with floats := total }
    else { file with integers := total }

/-- The class of an argument under a convention, and whether it travels by reference. -/
def classOf (convention : Convention) : CType → ArgumentClass × Bool
  | .float | .double => (.float, false)
  | .struct layout => (.aggregate, convention.passesByReference layout.size)
  | _ => (.integer, false)

def need (type : CType) (argumentClass : ArgumentClass) (byReference : Bool) : Word :=
  match argumentClass with
  | .float => 1
  | .integer => type.words
  | .aggregate => if byReference then 1 else type.words

def eligible (convention : Convention) (type : CType) (argumentClass : ArgumentClass)
    (byReference : Bool) : Bool :=
  argumentClass != .aggregate || byReference || type.size ≤ convention.largestInRegisters

/-- The shape of the next argument, and the registers taken after it. -/
def classify (file : RegisterFile) (type : CType) : Outcome (Shape × RegisterFile) := do
  let (argumentClass, byReference) := classOf file.convention type
  let isFloat := argumentClass == .float
  let count := need type argumentClass byReference
  let shape := fun placement => (⟨argumentClass, type.words, placement, byReference⟩ : Shape)
  if eligible file.convention type argumentClass byReference then
    if ← file.canTake isFloat count then
      return (shape .register, ← file.take isFloat count)
  return (shape .stack, file)

def classifyAll (file : RegisterFile) : List CType → Outcome (List Shape × RegisterFile)
  | [] => .ok ([], file)
  | type :: rest => do
    let (shape, file) ← file.classify type
    let (shapes, file) ← file.classifyAll rest
    return (shape :: shapes, file)

end RegisterFile

def Convention.shapes (convention : Convention) (types : List CType) : Outcome (List Shape) := do
  let (shapes, _) ← (RegisterFile.fresh convention).classifyAll types
  return shapes

end Foreign
