import Foreign.View.Access

/-!
Storage on the two sides of a call. An argument travels in a slot of eight bytes of its own, or, if it is
a struct, as the address of its bytes. A result travels in storage that holds at least a word: an integer
narrower than that is extended to it on the way in and cut off again on the way out.
-/

namespace Foreign

/-- Where the callee finds an argument. -/
inductive Slot where
  | word (bytes : List UInt8)
  | memory (address : Word)
  deriving DecidableEq

def overlay (storage bytes : List UInt8) : List UInt8 :=
  bytes ++ storage.drop bytes.length

namespace Slot

def wordSize : Nat := 8

def ofValue? (type : CType) (value : Value) : Option Slot :=
  if value.fits type then
    match value with
    | .struct view => some (.memory view.address)
    | .void => none
    | _ => some (.word (overlay (List.replicate wordSize 0) value.encode))
  else none

/-- The bytes of the argument, if memory has them. -/
def load? (slot : Slot) (type : CType) (store : Store) : Option (List UInt8) :=
  match slot with
  | .word bytes => some (bytes.take type.size.toNat)
  | .memory address => store.load? address type.size

end Slot

namespace Marshal

/-- Slots for arguments that start at position `index`. -/
def slotsFrom (index : Nat) : List CType → List Value → Outcome (List Slot)
  | type :: types, value :: values =>
    match Slot.ofValue? type value with
    | some slot => (slotsFrom (index + 1) types values).map (slot :: ·)
    | none => .error (.invocation (.argumentType index type value.kindName))
  | _, _ => .ok []

/-- One slot for each argument, or what is wrong with the first that does not fit. -/
def slots (types : List CType) (values : List Value) : Outcome (List Slot) :=
  if types.length = values.length then slotsFrom 0 types values
  else .error (.invocation (.argumentCount types.length values.length))

def load (store : Store) : List CType → List Slot → Outcome (List (List UInt8))
  | type :: types, slot :: slots =>
    match slot.load? type store with
    | some bytes => (load store types slots).map (bytes :: ·)
    | none => .error .undefined
  | _, _ => .ok []

/-- Bytes of the result storage that a result of the type covers. -/
def resultWidth (type : CType) : Nat :=
  match type with
  | .struct layout => layout.size.toNat
  | _ => max type.size.toNat Slot.wordSize

/-- What became of a callback's result. -/
structure Written where
  accepted : Bool
  storage : List UInt8

/-- Put a callback's result into its storage. A value of another type than the result's leaves zeros; a
struct outside its own buffer leaves the storage alone. Neither is accepted. -/
def writeResult (store : Store) (type : CType) (value : Value) (storage : List UInt8) :
    Outcome Written :=
  if type.isVoid then .ok ⟨true, storage⟩
  else if !value.fits type then
    .ok ⟨false, overlay storage (List.replicate (resultWidth type) 0)⟩
  else match value with
    | .struct source =>
      match source.ensureExtent source.address type.size, source.ensureLive store source.address type.size with
      | .error _, _ => .ok ⟨false, storage⟩
      | .ok _, .error failure => .error failure
      | .ok _, .ok _ =>
        .ok ⟨true, overlay storage (store.memory.read source.address type.size.toNat)⟩
    | _ =>
      match value.integer? with
      | some bits => .ok ⟨true, overlay storage (LittleEndian.encode Slot.wordSize bits.toNat)⟩
      | none => .ok ⟨true, overlay storage value.encode⟩

/-- A result that is not a struct, from storage that holds at least its bytes. -/
def readResult (storage : List UInt8) (type : CType) : Value :=
  .decode type (storage.take type.size.toNat)

end Marshal
end Foreign
