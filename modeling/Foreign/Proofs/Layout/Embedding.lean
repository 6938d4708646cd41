import Mathlib.Logic.Relation
import Foreign.Proofs.Layout.Sequence

/-!
Structs that lie in one another. A layout holds the layouts of the structs that its fields embed, so it is
larger than each of them, and a layout that is registered stays the one of its name. A set of
descriptions in which embedding leads from a name back to it is therefore never defined, even where all
its names were known before.
-/

namespace Foreign

theorem Layout.sizeOf_lt_of_mem_specs {layout inner : Layout} {spec : FieldSpec}
    (h : spec ∈ layout.specs) (type : spec.type = .struct inner) : sizeOf inner < sizeOf layout := by
  obtain ⟨field, hfield, rfl⟩ := List.mem_map.mp h
  have htype : field.type = .struct inner := type
  calc sizeOf inner
      < sizeOf field.type := by rw [htype, CType.struct.sizeOf_spec]; omega
    _ < sizeOf field := by cases field; simp only [Field.mk.sizeOf_spec]; omega
    _ < sizeOf layout.fields := List.sizeOf_lt_of_mem hfield
    _ < sizeOf layout := by cases layout; simp only [Layout.mk.sizeOf_spec]; omega

/-- A struct of the set with the first name embeds the struct with the second. -/
def DescriptionSet.Embeds (set : DescriptionSet) (name target : String) : Prop :=
  ∃ description ∈ set.structs, description.name = name ∧
    ∃ field ∈ description.fields, field.Embeds target

theorem FieldDescription.Embeds.resolve {field : FieldDescription} {struct target : String}
    {registry : Registry} {type : CType} (embeds : field.Embeds target)
    (resolved : field.resolve struct registry = .ok type) :
    ∃ layout, registry.get? target = some layout ∧ type = .struct layout := by
  cases FieldDescription.resolve_eq_iff.mp resolved with
  | plain named =>
      rw [TypeName.type?_eq_none_iff.mpr embeds.struct] at named
      cases named
  | typed _ name known =>
      cases embeds.target.symm.trans name
      rw [embeds.direct]
      exact ⟨_, known, rfl⟩
  | untyped points => exact absurd embeds.direct points.pointer

namespace Registry

variable {registry : Registry} {set : DescriptionSet} {layouts : List Layout}

/-- Once a set is defined, what a struct of it embeds has the smaller layout. -/
theorem sizeOf_lt_of_embeds (defined : (registry.defineAll set.structs).outcome = .ok layouts)
    {name target : String} (embeds : set.Embeds name target) :
    ∃ layout inner, (registry.defineAll set.structs).registry.get? name = some layout ∧
      (registry.defineAll set.structs).registry.get? target = some inner ∧
      sizeOf inner < sizeOf layout := by
  obtain ⟨description, hdescription, rfl, field, hfield, embeds⟩ := embeds
  obtain ⟨layout, -, known, turn, grown, resolved⟩ :=
    exists_of_forall₂ (defineAll_layouts defined) hdescription
  obtain ⟨spec, hspec, type, htype, rfl⟩ :=
    exists_of_forall₂ (StructDescription.specs_eq_ok_iff.mp resolved) hfield
  obtain ⟨inner, hinner, rfl⟩ := embeds.resolve htype
  exact ⟨layout, inner, known, grown _ _ hinner, Layout.sizeOf_lt_of_mem_specs hspec rfl⟩

theorem sizeOf_lt_of_chain (defined : (registry.defineAll set.structs).outcome = .ok layouts)
    {name target : String} (chain : Relation.TransGen set.Embeds name target) :
    ∃ layout inner, (registry.defineAll set.structs).registry.get? name = some layout ∧
      (registry.defineAll set.structs).registry.get? target = some inner ∧
      sizeOf inner < sizeOf layout := by
  induction chain with
  | single embeds => exact sizeOf_lt_of_embeds defined embeds
  | tail _ embeds ih =>
      obtain ⟨layout, middle, known, hmiddle, hlt⟩ := ih
      obtain ⟨again, inner, hagain, hinner, hlt'⟩ := sizeOf_lt_of_embeds defined embeds
      obtain rfl := Option.some.inj (hagain.symm.trans hmiddle)
      exact ⟨layout, inner, known, hinner, Nat.lt_trans hlt' hlt⟩

/-- No registry takes a set in which a struct comes to lie in itself, over however many others. -/
theorem defineAll_of_cycle (registry : Registry) {set : DescriptionSet} {name : String}
    (cycle : Relation.TransGen set.Embeds name name) :
    ∃ failure, (registry.defineAll set.structs).outcome = .error failure := by
  cases defined : (registry.defineAll set.structs).outcome with
  | error failure => exact ⟨failure, rfl⟩
  | ok layouts =>
      obtain ⟨layout, inner, known, again, hlt⟩ := sizeOf_lt_of_chain defined cycle
      obtain rfl := Option.some.inj (known.symm.trans again)
      exact absurd hlt (Nat.lt_irrefl _)

/-- A number in a case. -/
def nested : DescriptionSet :=
  ⟨[⟨"number", [⟨"value", .int, 0, none, 1⟩]⟩,
    ⟨"case", [⟨"inside", .struct, 0, some "number", 1⟩]⟩]⟩

/-- The same case, in a number that holds it. -/
def ring : DescriptionSet :=
  ⟨[⟨"case", [⟨"inside", .struct, 0, some "number", 1⟩]⟩,
    ⟨"number", [⟨"value", .struct, 0, some "case", 1⟩]⟩]⟩

/-- With both names known before, every field resolves and the case is even accepted. -/
theorem defineAll_of_cycle_sample :
    Relation.TransGen ring.Embeds "number" "number" ∧
      (∀ description ∈ ring.structs,
        ∃ specs, description.specs (empty.defineAll nested.structs).registry = .ok specs) ∧
      ∃ failure, ((empty.defineAll nested.structs).registry.defineAll ring.structs).outcome =
        .error failure := by
  have cycle : Relation.TransGen ring.Embeds "number" "number" :=
    .tail (.single ⟨_, .tail _ (.head _), rfl, _, .head _, rfl, rfl, rfl⟩)
      ⟨_, .head _, rfl, _, .head _, rfl, rfl, rfl⟩
  refine ⟨cycle, ?_, defineAll_of_cycle _ cycle⟩
  intro description hdescription
  simp only [ring, List.mem_cons, List.not_mem_nil, or_false] at hdescription
  obtain rfl | rfl := hdescription <;> exact ⟨_, rfl⟩

end Registry
end Foreign
