import Foreign.Failure
import Foreign.Scalar

/-!
Views: an address together with the type of the elements found there and a record of who owns the bytes.
A view can be moved, retyped and narrowed to a field without touching memory.
-/

namespace Foreign

/-- Who owns the bytes behind a view. A heap view releases its block; a buffer view keeps inside its
buffer; a borrowed view does neither. -/
inductive Backing where
  | borrowed
  | heap
  | buffer (extent : Buffer)
  deriving DecidableEq, Repr

namespace Backing

/-- The backing of a view made from one with this backing. Ownership is not passed on. -/
def share : Backing → Backing
  | .buffer extent => .buffer extent
  | _ => .borrowed

def text : Backing → String
  | .borrowed => "borrowed"
  | .heap => "heap"
  | .buffer _ => "buffer"

end Backing

/-- How an element is read and written. -/
inductive Access where
  | void
  | scalar (kind : ScalarKind)
  /-- The platform's `long`, which is read as a 64-bit integer. -/
  | long (signed : Bool)
  | pointer
  | struct
  /-- Reading goes one level down without touching memory. -/
  | indirect (levels : UInt8)
  deriving DecidableEq

namespace Access

def text : Access → String
  | .void => "Void"
  | .scalar kind => kind.name.capitalize
  | .long signed => s!"Long \x7b signed: {signed} \x7d"
  | .pointer => "Pointer"
  | .struct => "Struct"
  | .indirect levels => s!"Indirect \x7b levels: {levels.toNat} \x7d"

end Access

def CType.access : CType → Access
  | .void => .void
  | .int .w8 true => .scalar .i8
  | .int .w8 false => .scalar .u8
  | .int .w16 true => .scalar .i16
  | .int .w16 false => .scalar .u16
  | .int .w32 true => .scalar .i32
  | .int .w32 false => .scalar .u32
  | .int .w64 true => .scalar .i64
  | .int .w64 false => .scalar .u64
  | .int .long signed => .long signed
  | .float => .scalar .f32
  | .double => .scalar .f64
  | .pointer _ => .pointer
  | .struct _ => .struct

/-- A window on memory. `levels` counts the references taken of the view: while it is not zero, the
outermost pointers of `element` are not in memory and are taken off one by one by reading. -/
structure View where
  address : Word
  element : CType
  levels : UInt8
  backing : Backing

namespace View

instance : Inhabited View := ⟨⟨0, .void, 0, .borrowed⟩⟩

def wrap (address : Word) (element : CType) : View :=
  ⟨address, element, 0, .borrowed⟩

def null (element : CType) : View :=
  wrap 0 element

def ofBuffer (extent : Buffer) (element : CType) : View :=
  ⟨extent.start, element, 0, .buffer extent⟩

def isNull (view : View) : Bool :=
  view.address == 0

def access (view : View) : Access :=
  if view.levels = 0 then view.element.access else .indirect view.levels

/-- Bytes between consecutive elements. Elements of type `void` are one byte apart. -/
def step (view : View) : Word :=
  match view.access with
  | .void => 1
  | .indirect _ => 8
  | _ => view.element.stride

/-- Whether dropping the view releases memory. -/
def isOwner (view : View) : Bool :=
  view.backing == .heap

/-- Bytes from the view to the end of its buffer. -/
def extent? (view : View) : Option Word :=
  match view.backing with
  | .buffer extent => some (if view.address ≤ extent.stop then extent.stop - view.address else 0)
  | _ => none

def borrow (view : View) : View :=
  { view with backing := view.backing.share }

/-- A view made from this one at another address and of another type. -/
def derive (view : View) (address : Word) (element : CType) : View :=
  ⟨address, element, 0, view.backing.share⟩

/-- The view `n` elements on, modulo the address space. -/
def offset (view : View) (n : Int64) : View :=
  { view.borrow with address := view.address + n.toUInt64 * view.step }

def cast (view : View) (element : CType) : View :=
  view.derive view.address element

/-- A view one indirection deeper over the same address. Reading it gives the view back. -/
def reference (view : View) : View :=
  { view.borrow with
    element := .pointer view.element
    levels := if view.levels = 255 then 255 else view.levels + 1 }

/-- The view that reading a reference gives, `address` being that of the element read. -/
def dereference (view : View) (address : Word) : View :=
  { view.borrow with
    address
    element := view.element.pointee?.getD .void
    levels := view.levels - 1 }

/-- The view of a field; of the first element, if the field is an array. -/
def field (view : View) (name : String) : Outcome View :=
  match view.access, view.element with
  | .struct, .struct layout =>
    match layout.fields.find? (·.name == name) with
    | some field => do
      let address ← Outcome.sum view.address field.offset
      return view.derive address field.type
    | none => .error (.value (.unknownField layout.name name))
  | _, _ => .error (.value (.notAStruct view.element))

def elementAddress (view : View) (index : Word) : Word :=
  view.address + index * view.step

/-- Views are equal when their addresses are. -/
def same (view other : View) : Bool :=
  view.address == other.address

end View
end Foreign
