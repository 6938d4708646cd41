import Mathlib.Data.Finset.Card
import Foreign.Layout.Registry
import Foreign.Proofs.Layout.Placement

/-!
Registries over whole runs. A definition comes to one of four things, and only one of them changes the
registry: fields are placed under a name that was not known. From that one step it follows, for every run
of operations, which layouts a registry holds and what it answers to the next definition.
-/

namespace Foreign

namespace Layout

theorem report_of_ok {name : String} {specs : List FieldSpec} {layout : Layout}
    (computed : compute name specs = .ok layout) :
    report name specs = (⟨.ok layout, [.ofLayout layout]⟩ : Traced (Outcome Layout)) := by
  rw [report, computed]
  rfl

theorem report_of_error {name : String} {specs : List FieldSpec} {failure : Failure}
    (computed : compute name specs = .error failure) :
    report name specs = (⟨.error failure, []⟩ : Traced (Outcome Layout)) := by
  rw [report, computed]
  rfl

end Layout

namespace Registry

theorem name_of_get? {registry : Registry} {name : String} {layout : Layout}
    (known : registry.get? name = some layout) : layout.name = name :=
  beq_iff_eq.mp (List.find?_some known :)

theorem get?_eq_none_iff {registry : Registry} {name : String} :
    registry.get? name = none ↔ name ∉ registry.layouts.map (·.name) := by
  rw [get?, List.find?_eq_none, List.mem_map]
  simp

theorem get?_push (registry : Registry) (layout : Layout) (name : String) :
    Registry.get? ⟨registry.layouts ++ [layout]⟩ name =
      (registry.get? name).or (if layout.name = name then some layout else none) := by
  rw [get?, List.find?_append, List.find?_singleton, get?]
  simp only [beq_iff_eq]

/-- `later` knows what `registry` knows, with the same layouts. -/
def Extends (registry later : Registry) : Prop :=
  ∀ name layout, registry.get? name = some layout → later.get? name = some layout

theorem Extends.refl (registry : Registry) : registry.Extends registry :=
  fun _ _ known => known

theorem Extends.trans {registry next later : Registry} (first : registry.Extends next)
    (second : next.Extends later) : registry.Extends later :=
  fun name layout known => second name layout (first name layout known)

/-- What the definition of a struct can come to. -/
inductive Defined (registry : Registry) (name : String) (specs : List FieldSpec) :
    Effect Layout → Prop
  | kept {layout : Layout} (known : registry.get? name = some layout) (same : layout.specs = specs) :
      Defined registry name specs ⟨.ok layout, registry, []⟩
  | refused {layout : Layout} (known : registry.get? name = some layout)
      (other : layout.specs ≠ specs) :
      Defined registry name specs ⟨.error (.layout (.redefined name)), registry, []⟩
  | placed {layout : Layout} (new : registry.get? name = none)
      (computed : Layout.compute name specs = .ok layout) :
      Defined registry name specs ⟨.ok layout, ⟨registry.layouts ++ [layout]⟩, [.ofLayout layout]⟩
  | failed {failure : Failure} (new : registry.get? name = none)
      (computed : Layout.compute name specs = .error failure) :
      Defined registry name specs ⟨.error failure, registry, []⟩

section

variable {registry : Registry} {name : String} {specs : List FieldSpec}

theorem define_of_same {layout : Layout} (known : registry.get? name = some layout)
    (same : layout.specs = specs) : registry.define name specs = ⟨.ok layout, registry, []⟩ := by
  rw [define, known]
  exact if_pos same

theorem define_of_other {layout : Layout} (known : registry.get? name = some layout)
    (other : layout.specs ≠ specs) :
    registry.define name specs = ⟨.error (.layout (.redefined name)), registry, []⟩ := by
  rw [define, known]
  exact if_neg other

theorem define_of_ok {layout : Layout} (new : registry.get? name = none)
    (computed : Layout.compute name specs = .ok layout) :
    registry.define name specs =
      ⟨.ok layout, ⟨registry.layouts ++ [layout]⟩, [.ofLayout layout]⟩ := by
  rw [define, new, Layout.report_of_ok computed]

theorem define_of_error {failure : Failure} (new : registry.get? name = none)
    (computed : Layout.compute name specs = .error failure) :
    registry.define name specs = ⟨.error failure, registry, []⟩ := by
  rw [define, new, Layout.report_of_error computed]

theorem defined (registry : Registry) (name : String) (specs : List FieldSpec) :
    Defined registry name specs (registry.define name specs) := by
  cases known : registry.get? name with
  | some layout =>
      by_cases same : layout.specs = specs
      · rw [define_of_same known same]
        exact .kept known same
      · rw [define_of_other known same]
        exact .refused known same
  | none =>
      cases computed : Layout.compute name specs with
      | ok layout =>
          rw [define_of_ok known computed]
          exact .placed known computed
      | error failure =>
          rw [define_of_error known computed]
          exact .failed known computed

theorem extends_push (registry : Registry) (layout : Layout) :
    registry.Extends ⟨registry.layouts ++ [layout]⟩ := by
  intro name found known
  rw [get?_push, known, Option.some_or]

theorem Defined.extends {effect : Effect Layout} (defined : Defined registry name specs effect) :
    registry.Extends effect.registry := by
  cases defined with
  | kept | refused | failed => exact .refl registry
  | placed => exact extends_push registry _

/-- A definition concerns no name but its own. -/
theorem Defined.get?_of_ne {effect : Effect Layout} (defined : Defined registry name specs effect)
    {other : String} (h : other ≠ name) : effect.registry.get? other = registry.get? other := by
  cases defined with
  | kept | refused | failed => rfl
  | placed _ computed =>
      rw [get?_push, Layout.name_of_compute computed, if_neg h.symm, Option.or_none]

theorem Defined.of_error {effect : Effect Layout} {failure : Failure}
    (defined : Defined registry name specs effect) (failed : effect.outcome = .error failure) :
    effect = ⟨.error failure, registry, []⟩ := by
  cases defined with
  | kept | placed => cases failed
  | refused | failed =>
      cases failed
      rfl

/-- A definition that succeeds makes its name known, and no other. -/
theorem Defined.of_ok {effect : Effect Layout} {layout : Layout}
    (defined : Defined registry name specs effect) (ok : effect.outcome = .ok layout) :
    layout.specs = specs ∧ effect.registry.get? name = some layout ∧
      ∀ other, effect.registry.get? other = none ↔ registry.get? other = none ∧ other ≠ name := by
  cases defined with
  | refused | failed => cases ok
  | kept known same =>
      cases ok
      refine ⟨same, known, fun other => ⟨fun new => ⟨new, ?_⟩, And.left⟩⟩
      rintro rfl
      cases known.symm.trans new
  | placed new computed =>
      cases ok
      refine ⟨Layout.specs_of_compute computed, ?_, fun other => ?_⟩
      · rw [get?_push, new, Option.none_or, if_pos (Layout.name_of_compute computed)]
      · rw [get?_push, Option.or_eq_none_iff, Layout.name_of_compute computed]
        refine and_congr_right fun _ => ?_
        simp [eq_comm]

end

inductive Operation where
  | define (name : String) (specs : List FieldSpec)
  | get (name : String)
  | size

inductive Answer where
  | layout (outcome : Outcome Layout)
  | found (layout : Option Layout)
  | count (n : Nat)

/-- A registry with the operations that led to it, their answers and the events on the way. -/
structure Run where
  registry : Registry
  answers : List (Operation × Answer)
  events : List Event

namespace Run

def step (run : Run) : Operation → Run
  | .define name specs =>
      let effect := run.registry.define name specs
      ⟨effect.registry, run.answers ++ [(.define name specs, .layout effect.outcome)],
        run.events ++ effect.events⟩
  | .get name =>
      { run with answers := run.answers ++ [(.get name, .found (run.registry.get? name))] }
  | .size => { run with answers := run.answers ++ [(.size, .count run.registry.size)] }

def steps (run : Run) (operations : List Operation) : Run :=
  operations.foldl step run

def ofOperations (operations : List Operation) : Run :=
  steps ⟨.empty, [], []⟩ operations

def accepted? : Operation × Answer → Option (String × List FieldSpec)
  | (.define name specs, .layout (.ok _)) => some (name, specs)
  | _ => none

def definitions (run : Run) : List (String × List FieldSpec) :=
  run.answers.filterMap accepted?

/-- The fields of the first successful definition of a name. -/
def first? (run : Run) (name : String) : Option (List FieldSpec) :=
  run.definitions.lookup name

/-- What every step keeps: the registry holds the layouts of the first successful definitions and no
others, each name once, and each layout has been reported once. -/
structure Invariant (run : Run) : Prop where
  entries : ∀ name, Option.Rel (fun specs layout => Layout.compute name specs = .ok layout)
    (run.first? name) (run.registry.get? name)
  distinct : (run.registry.layouts.map (·.name)).Nodup
  events : run.events = run.registry.layouts.map .ofLayout

theorem definitions_append (run : Run) (entry : Operation × Answer) (registry : Registry)
    (events : List Event) :
    definitions ⟨registry, run.answers ++ [entry], events⟩ =
      run.definitions ++ (accepted? entry).toList := by
  rw [definitions, List.filterMap_append, definitions]
  cases h : accepted? entry <;> simp [h]

theorem first?_append (run : Run) (name : String) (specs : List FieldSpec) (layout : Layout)
    (registry : Registry) (events : List Event) (other : String) :
    first? ⟨registry, run.answers ++ [(.define name specs, .layout (.ok layout))], events⟩ other =
      (run.first? other).or (if name = other then some specs else none) := by
  rw [first?, definitions_append, List.lookup_append, first?]
  congr 1
  by_cases h : name = other
  · simp [accepted?, h]
  · simp [accepted?, h, Ne.symm h]

theorem first?_of_rejected (run : Run) {entry : Operation × Answer} (rejected : accepted? entry = none)
    (registry : Registry) (events : List Event) (name : String) :
    first? ⟨registry, run.answers ++ [entry], events⟩ name = run.first? name := by
  rw [first?, definitions_append, rejected, Option.toList_none, List.append_nil, first?]

theorem Invariant.of_rejected {run : Run} (invariant : run.Invariant) {entry : Operation × Answer}
    (rejected : accepted? entry = none) :
    Invariant ⟨run.registry, run.answers ++ [entry], run.events⟩ where
  entries name := by
    rw [first?_of_rejected run rejected]
    exact invariant.entries name
  distinct := invariant.distinct
  events := invariant.events

theorem Invariant.define {run : Run} (invariant : run.Invariant) {name : String}
    {specs : List FieldSpec} {effect : Effect Layout}
    (defined : Defined run.registry name specs effect) :
    Invariant ⟨effect.registry, run.answers ++ [(.define name specs, .layout effect.outcome)],
      run.events ++ effect.events⟩ := by
  cases defined with
  | refused | failed =>
      rw [List.append_nil]
      exact invariant.of_rejected rfl
  | @kept layout known same =>
      refine ⟨?_, invariant.distinct, ?_⟩
      · intro other
        have hentry := invariant.entries other
        rw [first?_append]
        by_cases h : name = other
        · -- The name has its fields already, so these are not the first.
          subst h
          rw [known] at hentry ⊢
          cases hfirst : run.first? name with
          | none => rw [hfirst] at hentry; cases hentry
          | some first => rwa [Option.some_or, ← hfirst]
        · rwa [if_neg h, Option.or_none]
      · rw [List.append_nil]
        exact invariant.events
  | @placed layout new computed =>
      have hname := Layout.name_of_compute computed
      refine ⟨?_, ?_, ?_⟩
      · intro other
        have hentry := invariant.entries other
        rw [first?_append, get?_push, hname]
        by_cases h : name = other
        · subst h
          rw [new] at hentry ⊢
          cases hfirst : run.first? name with
          | none =>
              rw [if_pos rfl, if_pos rfl]
              exact .some computed
          | some first => rw [hfirst] at hentry; cases hentry
        · rwa [if_neg h, if_neg h, Option.or_none, Option.or_none]
      · rw [List.map_append, List.map_singleton, List.nodup_append_comm, hname]
        exact List.nodup_cons.mpr ⟨get?_eq_none_iff.mp new, invariant.distinct⟩
      · rw [List.map_append, invariant.events, List.map_singleton]

theorem Invariant.step {run : Run} (invariant : run.Invariant) (operation : Operation) :
    (run.step operation).Invariant := by
  cases operation with
  | define name specs => exact invariant.define (defined run.registry name specs)
  | get name => exact invariant.of_rejected rfl
  | size => exact invariant.of_rejected rfl

theorem Invariant.steps {run : Run} (invariant : run.Invariant) (operations : List Operation) :
    (run.steps operations).Invariant := by
  induction operations generalizing run with
  | nil => exact invariant
  | cons operation rest ih => exact ih (invariant.step operation)

theorem invariant_ofOperations (operations : List Operation) : (ofOperations operations).Invariant := by
  apply Invariant.steps
  exact ⟨fun _ => .none, .nil, rfl⟩

theorem extends_step (run : Run) (operation : Operation) :
    run.registry.Extends (run.step operation).registry := by
  cases operation with
  | define name specs => exact (defined run.registry name specs).extends
  | get | size => exact .refl run.registry

theorem extends_steps (run : Run) (operations : List Operation) :
    run.registry.Extends (run.steps operations).registry := by
  induction operations generalizing run with
  | nil => exact .refl run.registry
  | cons operation rest ih => exact (run.extends_step operation).trans (ih (run.step operation))

theorem mem_definitions_iff {run : Run} {name : String} :
    name ∈ run.definitions.map (·.1) ↔ run.first? name ≠ none := by
  rw [first?, ne_eq, List.lookup_eq_none_iff, List.mem_map]
  simp only [not_forall, bne_iff_ne, ne_eq, Decidable.not_not, exists_prop]
  exact exists_congr fun _ => and_congr_right fun _ => eq_comm

theorem Invariant.get?_eq_none_iff {run : Run} (invariant : run.Invariant) (name : String) :
    run.registry.get? name = none ↔ run.first? name = none := by
  generalize run.first? name = first, run.registry.get? name = found, invariant.entries name = entry
  cases entry with
  | some | none => simp

theorem Invariant.mem_names_iff {run : Run} (invariant : run.Invariant) (name : String) :
    name ∈ run.registry.layouts.map (·.name) ↔ name ∈ run.definitions.map (·.1) := by
  rw [mem_definitions_iff, ne_eq, ← invariant.get?_eq_none_iff, Registry.get?_eq_none_iff,
    Decidable.not_not]

theorem Invariant.size_eq {run : Run} (invariant : run.Invariant) :
    run.registry.size = (run.definitions.map (·.1)).toFinset.card := by
  calc run.registry.size
      = (run.registry.layouts.map (·.name)).length := (List.length_map _).symm
    _ = (run.registry.layouts.map (·.name)).toFinset.card :=
        (List.toFinset_card_of_nodup invariant.distinct).symm
    _ = (run.definitions.map (·.1)).toFinset.card := by
        congr 1
        ext name
        rw [List.mem_toFinset, List.mem_toFinset, invariant.mem_names_iff]

theorem Invariant.count_eq {run : Run} (invariant : run.Invariant) :
    run.registry.size = run.events.countP (·.message = "struct layout computed") := by
  rw [invariant.events, List.countP_map, size, eq_comm, List.countP_eq_length]
  intro layout _
  rfl

theorem Invariant.get?_eq_some_iff {run : Run} (invariant : run.Invariant) {name : String}
    {layout : Layout} :
    run.registry.get? name = some layout ↔
      ∃ specs, run.first? name = some specs ∧ Layout.compute name specs = .ok layout := by
  have hentry := invariant.entries name
  constructor
  · intro known
    rw [known] at hentry
    cases hfirst : run.first? name with
    | none => rw [hfirst] at hentry; cases hentry
    | some specs =>
        rw [hfirst] at hentry
        cases hentry with
        | some computed => exact ⟨specs, rfl, computed⟩
  · rintro ⟨specs, hfirst, computed⟩
    rw [hfirst] at hentry
    cases known : run.registry.get? name with
    | none => rw [known] at hentry; cases hentry
    | some found =>
        rw [known] at hentry
        cases hentry with
        | some hfound => rw [Except.ok.inj (hfound.symm.trans computed)]

theorem Invariant.specs_eq {run : Run} (invariant : run.Invariant) {name : String} {layout : Layout}
    {first : List FieldSpec} (known : run.registry.get? name = some layout)
    (hfirst : run.first? name = some first) : layout.specs = first := by
  obtain ⟨specs, hspecs, computed⟩ := invariant.get?_eq_some_iff.mp known
  rw [Layout.specs_of_compute computed]
  exact Option.some.inj (hspecs.symm.trans hfirst)

/-- The laws of a run: what its registry holds, what becomes of an entry, and what the next definition
comes to. -/
structure Lawful (run : Run) : Prop where
  named : ∀ name layout, run.registry.get? name = some layout → layout.name = name
  entry : ∀ name layout, run.registry.get? name = some layout ↔
    ∃ specs, run.first? name = some specs ∧ Layout.compute name specs = .ok layout
  lasting : ∀ operations, run.registry.Extends (run.steps operations).registry
  again : ∀ name layout first specs, run.registry.get? name = some layout →
    run.first? name = some first →
    run.registry.define name specs =
      if specs = first then ⟨.ok layout, run.registry, []⟩
      else ⟨.error (.layout (.redefined name)), run.registry, []⟩
  new : ∀ name specs, run.registry.get? name = none →
    (run.registry.define name specs).outcome = Layout.compute name specs ∧
    ∀ layout, (run.registry.define name specs).registry.get? name = some layout ↔
      Layout.compute name specs = .ok layout
  failed : ∀ name specs failure, (run.registry.define name specs).outcome = .error failure →
    (run.registry.define name specs).registry = run.registry
  size : run.registry.size = (run.definitions.map (·.1)).toFinset.card
  reported : run.registry.size = run.events.countP (·.message = "struct layout computed")

/-- Whatever is done to a fresh registry, in any order and however malformed, its entries are those of the
first definition of each name that succeeded, for good. -/
theorem ofOperations_lawful (operations : List Operation) : (ofOperations operations).Lawful := by
  have invariant := invariant_ofOperations operations
  refine ⟨fun _ _ => name_of_get?, fun _ _ => invariant.get?_eq_some_iff, extends_steps _, ?_, ?_, ?_,
    invariant.size_eq, invariant.count_eq⟩
  · intro name layout first specs known hfirst
    have hspecs := invariant.specs_eq known hfirst
    split
    · rename_i same
      exact define_of_same known (hspecs.trans same.symm)
    · rename_i other
      exact define_of_other known fun same => other (same.symm.trans hspecs)
  · intro name specs new
    cases computed : Layout.compute name specs with
    | ok layout =>
        rw [define_of_ok new computed]
        refine ⟨rfl, fun found => ?_⟩
        rw [get?_push, new, Option.none_or, if_pos (Layout.name_of_compute computed),
          Option.some.injEq, Except.ok.injEq]
    | error failure =>
        rw [define_of_error new computed]
        simp [new]
  · intro name specs failure failed
    rw [(defined _ name specs).of_error failed]

end Run
end Registry
end Foreign
