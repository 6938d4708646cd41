import Foreign.Failure

/-!
Placing the fields of a struct. Each field goes to the first multiple of its alignment behind the field
before it; the struct takes the strictest alignment of its fields, and its size is rounded up to it.
Sums and products that do not fit a word are faults. Rounding up is not checked.
-/

namespace Foreign

/-- A field as declared. `count` is the length of an array field and 1 for any other. -/
structure FieldSpec where
  name : String
  type : CType
  count : Word
  deriving DecidableEq

namespace Layout

/-- The fields placed so far, the end of the last and the strictest alignment. -/
structure Placed where
  fields : List Field
  stop : Word
  align : Word

/-- Why a field cannot be placed at all, `seen` being the names before it. -/
def defect? (struct : String) (seen : List String) (spec : FieldSpec) : Option LayoutError :=
  if spec.type.isVoid then some (.incompleteField struct spec.name)
  else if spec.count = 0 then some (.zeroCardinality struct spec.name)
  else if seen.contains spec.name then some (.duplicateField struct spec.name)
  else none

/-- Place fields from `offset` on. -/
def place (struct : String) (seen : List String) (offset align : Word) :
    List FieldSpec → Outcome Placed
  | [] => .ok ⟨[], offset, align⟩
  | spec :: rest =>
    match defect? struct seen spec with
    | some cause => .error (.layout cause)
    | none => do
      let start := Word.alignUp offset spec.type.align
      let size ← Outcome.product spec.type.stride spec.count
      let stop ← Outcome.sum start size
      let placed ← place struct (spec.name :: seen) stop (max align spec.type.align) rest
      return { placed with fields := ⟨spec.name, spec.type, spec.count, start⟩ :: placed.fields }

def compute (name : String) (specs : List FieldSpec) : Outcome Layout := do
  let placed ← place name [] 0 1 specs
  return ⟨name, placed.fields, Word.alignUp placed.stop placed.align, placed.align⟩

def isEmpty (layout : Layout) : Bool :=
  layout.fields.isEmpty

def field? (layout : Layout) (name : String) : Option Field :=
  layout.fields.find? (·.name == name)

def offset? (layout : Layout) (name : String) : Option Word :=
  (layout.field? name).map (·.offset)

/-- The fields as they were declared. -/
def specs (layout : Layout) : List FieldSpec :=
  layout.fields.map fun field => ⟨field.name, field.type, field.count⟩

end Layout
end Foreign
