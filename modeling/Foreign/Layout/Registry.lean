import Foreign.Layout.Placement
import Foreign.Log.Event

/-!
The layouts known by name. A struct is placed when it is first defined; defining it again gives the same
layout if the fields are the same, and is an error otherwise.
-/

namespace Foreign

def Event.ofLayout (layout : Layout) : Event :=
  .layoutComputed layout.name layout.size layout.align

/-- A layout, and the event of having placed it. -/
def Layout.report (name : String) (specs : List FieldSpec) : TracedOutcome Layout := do
  let layout ← TracedOutcome.ofOutcome (Layout.compute name specs)
  liftM (Traced.record (.ofLayout layout))
  return layout

/-- Layouts in the order of their definition. -/
structure Registry where
  layouts : List Layout

namespace Registry

def empty : Registry := ⟨[]⟩

instance : Inhabited Registry := ⟨empty⟩

def get? (registry : Registry) (name : String) : Option Layout :=
  registry.layouts.find? (·.name == name)

def size (registry : Registry) : Nat :=
  registry.layouts.length

def isEmpty (registry : Registry) : Bool :=
  registry.layouts.isEmpty

/-- What came of an operation on a registry: its outcome, the registry afterwards and the events. -/
structure Effect (α : Type) where
  outcome : Outcome α
  registry : Registry
  events : List Event

/-- Define a struct, or give the layout it already has. -/
def define (registry : Registry) (name : String) (specs : List FieldSpec) : Effect Layout :=
  match registry.get? name with
  | some layout =>
    if layout.specs = specs then ⟨.ok layout, registry, []⟩
    else ⟨.error (.layout (.redefined name)), registry, []⟩
  | none =>
    match Layout.report name specs with
    | ⟨.ok layout, events⟩ => ⟨.ok layout, ⟨registry.layouts ++ [layout]⟩, events⟩
    | ⟨.error failure, events⟩ => ⟨.error failure, registry, events⟩

end Registry
end Foreign
