import Foreign.Word

/-!
C types as a call or a struct sees them on a 64-bit platform where `long` has eight bytes. A struct
type carries its layout, and a layout carries the types of its fields, so the three are defined together.
-/

namespace Foreign

inductive Width where
  | w8
  | w16
  | w32
  | w64
  /-- Width of the platform's `long`. -/
  | long
  deriving DecidableEq, Repr

mutual

/-- A type of the C language. `void` is the result of a call without one and the target of an
untyped pointer. -/
inductive CType where
  | void
  | int (width : Width) (signed : Bool)
  | float
  | double
  | pointer (pointee : CType)
  | struct (layout : Layout)

/-- A struct whose fields have been placed. -/
structure Layout where
  name : String
  fields : List Field
  size : Word
  align : Word

/-- A field at its offset. `count` is the length of an array field and 1 for any other. -/
structure Field where
  name : String
  type : CType
  count : Word
  offset : Word

end

instance : Inhabited CType := ⟨.void⟩

namespace Width

def size : Width → Word
  | .w8 => 1
  | .w16 => 2
  | .w32 => 4
  | .w64 => 8
  | .long => 8

end Width

namespace CType

/-- Bytes of one value; `void` has none. -/
def size : CType → Word
  | .void => 0
  | .int width _ => width.size
  | .float => 4
  | .double => 8
  | .pointer _ => 8
  | .struct layout => layout.size

def align : CType → Word
  | .void => 1
  | .int width _ => width.size
  | .float => 4
  | .double => 8
  | .pointer _ => 8
  | .struct layout => layout.align

def stride (type : CType) : Word :=
  Word.alignUp type.size type.align

def depth : CType → Nat
  | .pointer pointee => pointee.depth + 1
  | _ => 0

def pointee? : CType → Option CType
  | .pointer pointee => some pointee
  | _ => none

def layout? : CType → Option Layout
  | .struct layout => some layout
  | _ => none

def isVoid : CType → Bool
  | .void => true
  | _ => false

theorem isVoid_iff {type : CType} : type.isVoid = true ↔ type = .void := by
  cases type <;> simp [isVoid]

def isIntegral : CType → Bool
  | .int _ _ => true
  | _ => false

def isFloat : CType → Bool
  | .float | .double => true
  | _ => false

def isSigned : CType → Bool
  | .int _ signed => signed
  | .float | .double => true
  | _ => false

/-- Whether a value of the type can be stored. -/
def isComplete (type : CType) : Bool :=
  !type.isVoid

def pointers (type : CType) : Nat → CType
  | 0 => type
  | depth + 1 => .pointer (type.pointers depth)

def voidPointer : CType := .pointer .void

/-- The C spelling. -/
def text : CType → String
  | .void => "void"
  | .int .w8 true => "int8_t"
  | .int .w8 false => "uint8_t"
  | .int .w16 true => "int16_t"
  | .int .w16 false => "uint16_t"
  | .int .w32 true => "int32_t"
  | .int .w32 false => "uint32_t"
  | .int .w64 true => "int64_t"
  | .int .w64 false => "uint64_t"
  | .int .long true => "long"
  | .int .long false => "unsigned long"
  | .float => "float"
  | .double => "double"
  | .pointer pointee => pointee.text ++ "*"
  | .struct layout => "struct " ++ layout.name

end CType

namespace Field

/-- Bytes of all the field's elements. -/
def size (field : Field) : Word :=
  field.type.stride * field.count

def align (field : Field) : Word :=
  field.type.align

end Field
end Foreign
