import Foreign.View.Basic
import Foreign.FloatBits

/-!
Values that a program exchanges with memory and with functions. Pointers and structs are views: a
pointer's view is of what it points to, a struct's is of the struct's own bytes.
-/

namespace Foreign

inductive Value where
  | void
  | scalar (s : Scalar)
  | pointer (view : View)
  | struct (view : View)

namespace Value

instance : Inhabited Value := ⟨.void⟩

def null (pointee : CType) : Value :=
  .pointer (.null pointee)

def kindName : Value → String
  | .void => "void"
  | .scalar s => s.kind.name
  | .pointer _ => "pointer"
  | .struct _ => "struct"

/-- Whether the value can be stored as `type` without conversion. A pointer is stored whatever it
points to; a struct only where its layout is the very one wanted. -/
def fits : Value → CType → Bool
  | .void, .void => true
  | .scalar s, type => type.scalarKind? == some s.kind
  | .pointer _, .pointer _ => true
  | .struct view, .struct layout => view.element.layout? == some layout
  | _, _ => false

/-- The value as a 64-bit integer, if it is an integer. -/
def integer? : Value → Option (BitVec 64)
  | .scalar s => s.integer?
  | _ => none

/-- The value as the bits of a double, if it is a floating-point number. -/
def double? : Value → Option (BitVec 64)
  | .scalar ⟨.f32, bits⟩ => some (FloatBits.widen bits)
  | .scalar ⟨.f64, bits⟩ => some bits
  | _ => none

/-- The bytes of a scalar or a pointer. A struct's bytes are in memory, and `void` has none. -/
def encode : Value → List UInt8
  | .scalar s => s.encode
  | .pointer view => LittleEndian.encode 8 view.address.toNat
  | .void | .struct _ => []

/-- The scalar or pointer of type `type` with the given bytes; `void` for any other type. A pointer
comes back as a borrowed view. -/
def decode (type : CType) (bytes : List UInt8) : Value :=
  match type with
  | .pointer pointee => .pointer (.wrap (UInt64.ofNat (LittleEndian.decode bytes)) pointee)
  | type =>
    match type.scalarKind? with
    | some kind => .scalar (Scalar.decode kind bytes)
    | none => .void

def pointer? : Value → Option View
  | .pointer view => some view
  | _ => none

def struct? : Value → Option View
  | .struct view => some view
  | _ => none

/-- Scalars of one kind compare as numbers, pointers and structs by address. -/
def same : Value → Value → Bool
  | .void, .void => true
  | .scalar ⟨.f32, a⟩, .scalar ⟨.f32, b⟩ => FloatBits.equal32 a b
  | .scalar ⟨.f64, a⟩, .scalar ⟨.f64, b⟩ => FloatBits.equal64 a b
  | .scalar a, .scalar b => a == b
  | .pointer a, .pointer b => a.same b
  | .struct a, .struct b => a.same b
  | _, _ => false

end Value
end Foreign
