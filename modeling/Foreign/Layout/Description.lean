import Foreign.Layout.Registry

/-!
Descriptions of structs by the names of C types. A field of struct type names its target, which must
already be defined to be embedded; a pointer to a struct that is not defined yet is an untyped pointer of
the same depth.
-/

namespace Foreign

inductive TypeName where
  | char
  | unsignedChar
  | short
  | unsignedShort
  | int
  | unsignedInt
  | long
  | unsignedLong
  | longLong
  | unsignedLongLong
  | float
  | double
  | pointer
  | struct
  | void
  deriving DecidableEq, Repr

namespace TypeName

def spelling : TypeName → String
  | char => "char"
  | unsignedChar => "unsigned_char"
  | short => "short"
  | unsignedShort => "unsigned_short"
  | int => "int"
  | unsignedInt => "unsigned_int"
  | long => "long"
  | unsignedLong => "unsigned_long"
  | longLong => "long_long"
  | unsignedLongLong => "unsigned_long_long"
  | float => "float"
  | double => "double"
  | pointer => "pointer"
  | struct => "struct"
  | void => "void"

def all : List TypeName :=
  [char, unsignedChar, short, unsignedShort, int, unsignedInt, long, unsignedLong, longLong,
    unsignedLongLong, float, double, pointer, struct, void]

def ofSpelling? (text : String) : Option TypeName :=
  all.find? (·.spelling == text)

/-- The type that the name stands for by itself; a struct needs a target. -/
def type? : TypeName → Option CType
  | char => some (.int .w8 true)
  | unsignedChar => some (.int .w8 false)
  | short => some (.int .w16 true)
  | unsignedShort => some (.int .w16 false)
  | int => some (.int .w32 true)
  | unsignedInt => some (.int .w32 false)
  | long => some (.int .long true)
  | unsignedLong => some (.int .long false)
  | longLong => some (.int .w64 true)
  | unsignedLongLong => some (.int .w64 false)
  | float => some .float
  | double => some .double
  | pointer => some .voidPointer
  | void => some .void
  | struct => none

end TypeName

structure FieldDescription where
  name : String
  type : TypeName
  /-- Levels of indirection on top of the named type. -/
  pointers : Nat
  target : Option String
  count : Word
  deriving DecidableEq, Repr

structure StructDescription where
  name : String
  fields : List FieldDescription
  deriving DecidableEq, Repr

/-- Descriptions in the order in which their structs are defined. -/
structure DescriptionSet where
  structs : List StructDescription
  deriving DecidableEq, Repr

/-- The type of a field of `struct` among the structs of `registry`. -/
def FieldDescription.resolve (field : FieldDescription) (struct : String) (registry : Registry) :
    Outcome CType :=
  match field.type.type?, field.target with
  | some type, _ => .ok (type.pointers field.pointers)
  | none, none => .error (.layout (.missingTarget struct field.name))
  | none, some target =>
    match registry.get? target, field.pointers with
    | some layout, depth => .ok ((CType.struct layout).pointers depth)
    | none, 0 => .error (.layout (.unknownStruct struct field.name target))
    | none, depth + 1 => .ok (CType.voidPointer.pointers depth)

/-- The fields with their types resolved, or the failure of the first that does not resolve. -/
def StructDescription.specs (description : StructDescription) (registry : Registry) :
    Outcome (List FieldSpec) :=
  description.fields.mapM fun field => do
    let type ← field.resolve description.name registry
    return ⟨field.name, type, field.count⟩

namespace Registry

def defineDescribed (registry : Registry) (description : StructDescription) : Effect Layout :=
  match description.specs registry with
  | .ok specs => registry.define description.name specs
  | .error failure => ⟨.error failure, registry, []⟩

/-- Define structs one after the other, up to the first that fails. -/
def defineAll (registry : Registry) : List StructDescription → Effect (List Layout)
  | [] => ⟨.ok [], registry, []⟩
  | description :: rest =>
    match registry.defineDescribed description with
    | ⟨.error failure, registry', events⟩ => ⟨.error failure, registry', events⟩
    | ⟨.ok layout, registry', events⟩ =>
      let following := registry'.defineAll rest
      ⟨following.outcome.map (layout :: ·), following.registry, events ++ following.events⟩

end Registry
end Foreign
