import Foreign.Proofs.Layout.Description

/-!
The structs of a set are defined one after the other, up to the first that fails: it leaves the registry
as the structs before it did, and nothing behind it counts. A struct fails by the first of its fields
that has no type, before anything is asked about its fields as they lie in memory. If no struct fails, each
has its layout under its name, and no other name is new.
-/

namespace Foreign

/-- How the definition of a struct fails: by its first field without a type, whatever else there is to
say about its fields, or, where every field has one, by what the registry says to the fields together. -/
inductive StructDescription.Fails (registry : Registry) (description : StructDescription) :
    Failure → Prop
  | field {before after : List FieldDescription} {field : FieldDescription} {failure : Failure}
      (split : description.fields = before ++ field :: after)
      (earlier : ∀ other ∈ before, ∃ type, other.Resolved registry description.name (.ok type))
      (failed : field.Resolved registry description.name (.error failure)) :
      Fails registry description failure
  | definition {specs : List FieldSpec} {failure : Failure}
      (resolved : description.specs registry = .ok specs)
      (failed : (registry.define description.name specs).outcome = .error failure) :
      Fails registry description failure

section

variable {registry : Registry}

theorem StructDescription.specs_eq_error_iff {description : StructDescription} {failure : Failure} :
    description.specs registry = .error failure ↔
      ∃ before field after, description.fields = before ++ field :: after ∧
        (∀ other ∈ before, ∃ type, other.Resolved registry description.name (.ok type)) ∧
        field.Resolved registry description.name (.error failure) := by
  rw [StructDescription.specs, Outcome.mapM_eq_error_iff]
  simp only [Outcome.bind_eq_error_iff, Outcome.bind_eq_ok_iff, pure, Except.pure, Except.ok.injEq,
    reduceCtorEq, and_false, exists_false, or_false, FieldDescription.resolve_eq_iff,
    exists_comm (α := FieldSpec), exists_eq_right']

namespace Registry

variable {description : StructDescription} {failure : Failure}

theorem defineDescribed_of_fails (fails : description.Fails registry failure) :
    registry.defineDescribed description = ⟨.error failure, registry, []⟩ := by
  cases fails with
  | field split earlier failed =>
      rw [defineDescribed, StructDescription.specs_eq_error_iff.mpr ⟨_, _, _, split, earlier, failed⟩]
  | definition resolved failed =>
      rw [defineDescribed_of_ok resolved]
      exact (defined registry description.name _).of_error failed

theorem defineDescribed_cases (registry : Registry) (description : StructDescription) :
    (∃ layout next events, registry.defineDescribed description = ⟨.ok layout, next, events⟩) ∨
      ∃ failure, description.Fails registry failure := by
  cases resolved : description.specs registry with
  | error failure =>
      obtain ⟨before, field, after, split, earlier, failed⟩ :=
        StructDescription.specs_eq_error_iff.mp resolved
      exact .inr ⟨failure, .field split earlier failed⟩
  | ok specs =>
      cases hdefine : registry.define description.name specs with
      | mk outcome next events =>
          cases outcome with
          | ok layout => exact .inl ⟨layout, next, events, (defineDescribed_of_ok resolved).trans hdefine⟩
          | error failure => exact .inr ⟨failure, .definition resolved (congrArg Effect.outcome hdefine)⟩

/-- Defining one list behind another, all of which could be defined. -/
theorem defineAll_append {earlier : List StructDescription} {layouts : List Layout}
    (defined : (registry.defineAll earlier).outcome = .ok layouts) (later : List StructDescription) :
    registry.defineAll (earlier ++ later) =
      ⟨((registry.defineAll earlier).registry.defineAll later).outcome.map (layouts ++ ·),
        ((registry.defineAll earlier).registry.defineAll later).registry,
        (registry.defineAll earlier).events ++
          ((registry.defineAll earlier).registry.defineAll later).events⟩ := by
  induction earlier generalizing registry layouts with
  | nil =>
      cases defined
      change registry.defineAll later = ⟨(registry.defineAll later).outcome.map id, _, _⟩
      rw [Except.map_id]
      rfl
  | cons description rest ih =>
      obtain ⟨layout, next, events, others, described, hrest, rfl, -⟩ := defineAll_cons_eq_ok defined
      rw [List.cons_append, defineAll_cons_of_ok described, defineAll_cons_of_ok described, ih hrest,
        List.append_assoc]
      cases ((next.defineAll rest).registry.defineAll later).outcome <;> rfl

theorem defineAll_of_fails (fails : description.Fails registry failure)
    (rest : List StructDescription) :
    registry.defineAll (description :: rest) = ⟨.error failure, registry, []⟩ :=
  defineAll_cons_of_error (defineDescribed_of_fails fails) rest

theorem exists_fails_of_defineAll {structs : List StructDescription}
    (failed : (registry.defineAll structs).outcome = .error failure) :
    ∃ earlier description later layouts, structs = earlier ++ description :: later ∧
      (registry.defineAll earlier).outcome = .ok layouts ∧
      description.Fails (registry.defineAll earlier).registry failure := by
  induction structs generalizing registry with
  | nil => cases failed
  | cons first rest ih =>
      obtain ⟨layout, next, events, described⟩ | ⟨other, fails⟩ := registry.defineDescribed_cases first
      · rw [defineAll_cons_of_ok described] at failed
        have hrest : (next.defineAll rest).outcome = .error failure := by
          cases houtcome : (next.defineAll rest).outcome with
          | ok others => rw [houtcome] at failed; cases failed
          | error other => rw [houtcome] at failed; exact failed
        obtain ⟨earlier, description, later, layouts, rfl, hearlier, fails⟩ := ih hrest
        refine ⟨first :: earlier, description, later, layout :: layouts, rfl, ?_, ?_⟩
        · rw [defineAll_cons_of_ok described, hearlier]
          rfl
        · rw [defineAll_cons_of_ok described]
          exact fails
      · rw [defineAll_of_fails fails] at failed
        cases failed
        exact ⟨[], first, rest, [], rfl, rfl, fails⟩

/-- With every struct of the list comes its layout, and the registry that its fields were resolved in. -/
theorem defineAll_layouts {structs : List StructDescription} {layouts : List Layout}
    (defined : (registry.defineAll structs).outcome = .ok layouts) :
    List.Forall₂ (fun description layout =>
      (registry.defineAll structs).registry.get? description.name = some layout ∧
        ∃ turn : Registry, turn.Extends (registry.defineAll structs).registry ∧
          description.specs turn = .ok layout.specs) structs layouts := by
  generalize hfinal : (registry.defineAll structs).registry = final
  induction structs generalizing registry layouts with
  | nil =>
      cases defined
      exact .nil
  | cons description rest ih =>
      have hall := (defineAll_registry defined).1
      obtain ⟨layout, next, events, others, described, hrest, rfl, hregistry⟩ :=
        defineAll_cons_eq_ok defined
      rw [hregistry] at hfinal hall
      obtain ⟨specs, resolved, hdefined⟩ := defineDescribed_eq_ok described
      obtain ⟨rfl, known, -⟩ := hdefined.of_ok rfl
      have hlater := (defineAll_registry hrest).1
      rw [hfinal] at hall hlater
      exact .cons ⟨hlater _ _ known, registry, hall, resolved⟩ (ih hrest hfinal)

/-- All structs of the list have been defined. -/
structure Completes (registry : Registry) (structs : List StructDescription) (layouts : List Layout) :
    Prop where
  registered : List.Forall₂ (fun description layout =>
    (registry.defineAll structs).registry.get? description.name = some layout) structs layouts
  kept : registry.Extends (registry.defineAll structs).registry
  names : ∀ name, (registry.defineAll structs).registry.get? name = none ↔
    registry.get? name = none ∧ name ∉ structs.map (·.name)

/-- The definition of the list comes to its end at `description`, with all structs before it defined. -/
structure StopsAt (registry : Registry) (structs : List StructDescription) (failure : Failure)
    (earlier : List StructDescription) (description : StructDescription) : Prop where
  reached : ∃ later, structs = earlier ++ description :: later
  before : ∃ layouts, (registry.defineAll earlier).outcome = .ok layouts
  cause : description.Fails (registry.defineAll earlier).registry failure
  alone : (registry.defineAll earlier).registry.defineAll [description] =
    ⟨.error failure, (registry.defineAll earlier).registry, []⟩
  left : (registry.defineAll structs).registry = (registry.defineAll earlier).registry
  rest : ∀ others, registry.defineAll (earlier ++ description :: others) = registry.defineAll structs

/-- A set is defined to its end, or up to the first struct that fails. -/
theorem defineAll_in_order (registry : Registry) (set : DescriptionSet) :
    match (registry.defineAll set.structs).outcome with
    | .ok layouts => registry.Completes set.structs layouts
    | .error failure =>
        ∃ earlier description, registry.StopsAt set.structs failure earlier description := by
  split
  · rename_i layouts defined
    obtain ⟨kept, names⟩ := defineAll_registry defined
    exact ⟨(defineAll_layouts defined).imp fun _ _ => And.left, kept, names⟩
  · rename_i failure failed
    obtain ⟨earlier, description, later, layouts, hsplit, before, cause⟩ :=
      exists_fails_of_defineAll failed
    have stops : ∀ others, registry.defineAll (earlier ++ description :: others) =
        ⟨.error failure, (registry.defineAll earlier).registry, (registry.defineAll earlier).events⟩ := by
      intro others
      rw [defineAll_append before, defineAll_of_fails cause, List.append_nil]
      rfl
    rw [hsplit]
    refine ⟨earlier, description, ⟨later, rfl⟩, ⟨layouts, before⟩, cause,
      defineAll_of_fails cause [], ?_, fun others => ?_⟩
    · rw [stops]
    · rw [stops, stops]

end Registry
end
end Foreign
