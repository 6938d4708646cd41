import Foreign.Call.Convention

/-!
Call interfaces: a signature prepared for calling. Preparing describes every type as the machine passes
it; a `void` parameter, a struct without fields and a struct with too many members cannot be passed.
Interfaces are kept by signature, so that equal signatures share one.
-/

namespace Foreign

/-- A type as the machine passes it: a word of some size and alignment, or members in memory order, each
with its repetitions. -/
inductive MachineType where
  | void
  | word (size align : Word)
  | aggregate (members : List (Word × MachineType))

namespace MachineType

/-- The members of an aggregate are listed by their addresses, array elements one by one, and no list
has more bytes than the largest signed number. So many members are too many. -/
def memberLimit : Nat := 0x1000000000000000

/-- Members with more behind them. -/
def grow (members : Nat) (count : Word) : Outcome Nat :=
  if members + count.toNat < memberLimit then .ok (members + count.toNat)
  else .error (.fault .capacityOverflow)

end MachineType

mutual

/-- The machine's description of a type, or the first thing that is wrong with a struct in it. -/
def CType.machineType : CType → Outcome MachineType
  | .void => .ok .void
  | .int width _ => .ok (.word width.size width.size)
  | .float => .ok (.word 4 4)
  | .double => .ok (.word 8 8)
  | .pointer _ => .ok (.word 8 8)
  | .struct layout => layout.machineType

def Layout.machineType : Layout → Outcome MachineType
  | ⟨name, [], _, _⟩ => .error (.fault (.emptyStruct name))
  | ⟨_, fields, _, _⟩ => (machineMembers 0 fields).map .aggregate

def Field.machineType : Field → Outcome (Word × MachineType)
  | ⟨_, type, count, _⟩ => (type.machineType).map fun member => (count, member)

/-- The members that fields make behind so many others. A field's type is described before there is
made room for its elements. -/
def machineMembers : Nat → List Field → Outcome (List (Word × MachineType))
  | _, [] => .ok []
  | members, field :: rest => do
    let member ← field.machineType
    let others ← machineMembers (← MachineType.grow members member.1) rest
    return member :: others

end

/-- A prepared signature. `serial` tells interfaces apart. -/
structure Interface where
  serial : Nat
  signature : Signature
  shapes : List Shape
  arguments : List MachineType
  result : MachineType

namespace Interface

def text (interface : Interface) : String :=
  s!"CallInterface \x7b signature: {interface.signature.text}, shapes: [" ++
    ", ".intercalate (interface.shapes.map Shape.text) ++ "] \x7d"

def voidParameter? (signature : Signature) : Option Nat :=
  signature.parameters.findIdx? CType.isVoid

def prepare (serial : Nat) (signature : Signature) : Outcome Interface :=
  match voidParameter? signature with
  | some index => .error (.fault (.voidParameter index signature))
  | none => do
    let arguments ← signature.parameters.mapM CType.machineType
    let result ← signature.result.machineType
    let shapes ← Convention.platform.shapes signature.parameters
    return ⟨serial, signature, shapes, arguments, result⟩

end Interface

/-- The interfaces built so far, the newest first. -/
abbrev Interfaces := List Interface

/-- The interface for a signature: the one already there, or a new one. -/
def Interfaces.build (interfaces : Interfaces) (signature : Signature) :
    Outcome (Interface × Interfaces) :=
  match interfaces.find? (·.signature = signature) with
  | some interface => .ok (interface, interfaces)
  | none => do
    let interface ← Interface.prepare interfaces.length signature
    return (interface, interface :: interfaces)

end Foreign
