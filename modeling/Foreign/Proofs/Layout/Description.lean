import Foreign.Layout.Description
import Foreign.Proofs.Layout.Registry

/-!
Descriptions against a registry that has grown since. A field resolves to the same type again unless it
points to a struct that was unknown and is known now: the pointer was untyped and is typed. So a set that
was defined can be defined again without any effect, as long as no struct in it points to itself or ahead.
-/

namespace Foreign

namespace CType

theorem pointers_pointer (type : CType) (depth : Nat) :
    (CType.pointer type).pointers depth = type.pointers (depth + 1) := by
  induction depth with
  | zero => rfl
  | succ depth ih => exact congrArg CType.pointer ih

theorem pointers_inj {a b : CType} (depth : Nat) (h : a.pointers depth = b.pointers depth) : a = b := by
  induction depth with
  | zero => exact h
  | succ depth ih => exact ih (CType.pointer.inj h)

end CType

theorem TypeName.type?_eq_none_iff {type : TypeName} : type.type? = none ↔ type = .struct := by
  cases type <;> simp [TypeName.type?]

/-- The field is a pointer, through any number of levels, to the struct of that name. -/
structure FieldDescription.PointsTo (field : FieldDescription) (target : String) : Prop where
  struct : field.type = .struct
  pointer : field.pointers ≠ 0
  target : field.target = some target

/-- The field holds a struct of that name, not a pointer to one. -/
structure FieldDescription.Embeds (field : FieldDescription) (target : String) : Prop where
  struct : field.type = .struct
  direct : field.pointers = 0
  target : field.target = some target

/-- What the type of a field of `struct` comes to among the structs of `registry`. -/
inductive FieldDescription.Resolved (registry : Registry) (struct : String)
    (field : FieldDescription) : Outcome CType → Prop
  | plain {base : CType} (named : field.type.type? = some base) :
      Resolved registry struct field (.ok (base.pointers field.pointers))
  | untargeted (type : field.type = .struct) (target : field.target = none) :
      Resolved registry struct field (.error (.layout (.missingTarget struct field.name)))
  | typed {name : String} {layout : Layout} (type : field.type = .struct)
      (target : field.target = some name) (known : registry.get? name = some layout) :
      Resolved registry struct field (.ok ((CType.struct layout).pointers field.pointers))
  | unknown {name : String} (embeds : field.Embeds name) (unknown : registry.get? name = none) :
      Resolved registry struct field (.error (.layout (.unknownStruct struct field.name name)))
  | untyped {name : String} (points : field.PointsTo name) (unknown : registry.get? name = none) :
      Resolved registry struct field (.ok (CType.void.pointers field.pointers))

/-- The field points to a struct that is unknown to `registry` and known later. -/
def FieldDescription.Stale (field : FieldDescription) (registry later : Registry) : Prop :=
  ∃ target, field.PointsTo target ∧ registry.get? target = none ∧ later.get? target ≠ none

section

variable {registry later : Registry}

theorem FieldDescription.resolved (field : FieldDescription) (struct : String) (registry : Registry) :
    field.Resolved registry struct (field.resolve struct registry) := by
  cases hbase : field.type.type? with
  | some base =>
      simp only [resolve, hbase]
      exact .plain hbase
  | none =>
      have hstruct := TypeName.type?_eq_none_iff.mp hbase
      cases htarget : field.target with
      | none =>
          simp only [resolve, hbase, htarget]
          exact .untargeted hstruct htarget
      | some target =>
          simp only [resolve, hbase, htarget]
          split
          · rename_i hknown
            exact .typed hstruct htarget hknown
          · rename_i hunknown hdirect
            exact .unknown ⟨hstruct, hdirect, htarget⟩ hunknown
          · rename_i depth hunknown hdepth
            rw [CType.voidPointer, CType.pointers_pointer, ← Nat.succ_eq_add_one, ← hdepth]
            exact .untyped ⟨hstruct, by omega, htarget⟩ hunknown

theorem FieldDescription.resolve_eq_iff {field : FieldDescription} {struct : String}
    {outcome : Outcome CType} :
    field.resolve struct registry = outcome ↔ field.Resolved registry struct outcome := by
  constructor
  · rintro rfl
    exact field.resolved struct registry
  · intro resolved
    cases resolved with
    | plain named => simp only [resolve, named]
    | untargeted type target => simp only [resolve, TypeName.type?_eq_none_iff.mpr type, target]
    | typed type target known => simp only [resolve, TypeName.type?_eq_none_iff.mpr type, target, known]
    | unknown embeds unknown =>
        simp only [resolve, TypeName.type?_eq_none_iff.mpr embeds.struct, embeds.target, unknown,
          embeds.direct]
    | untyped points unknown =>
        obtain ⟨depth, hdepth⟩ := Nat.exists_eq_succ_of_ne_zero points.pointer
        simp only [resolve, TypeName.type?_eq_none_iff.mpr points.struct, points.target, unknown, hdepth]
        rw [CType.voidPointer, CType.pointers_pointer]

/-- In a registry that knows more, a field that resolved still does, and to another type only where its
target has become known. -/
theorem FieldDescription.resolve_later {field : FieldDescription} {struct : String} {type : CType}
    (grown : registry.Extends later) (resolved : field.resolve struct registry = .ok type) :
    ∃ other, field.resolve struct later = .ok other ∧
      (other = type ↔ ¬field.Stale registry later) := by
  simp only [resolve_eq_iff] at resolved ⊢
  cases resolved with
  | plain named =>
      refine ⟨_, .plain named, iff_of_true rfl ?_⟩
      rintro ⟨target, points, -⟩
      rw [TypeName.type?_eq_none_iff.mpr points.struct] at named
      cases named
  | typed type target known =>
      refine ⟨_, .typed type target (grown _ _ known), iff_of_true rfl ?_⟩
      rintro ⟨other, points, unknown, -⟩
      cases target.symm.trans points.target
      cases known.symm.trans unknown
  | @untyped name points unknown =>
      cases hlater : later.get? name with
      | none =>
          refine ⟨_, .untyped points hlater, iff_of_true rfl ?_⟩
          rintro ⟨other, points', -, known⟩
          cases points.target.symm.trans points'.target
          exact known hlater
      | some layout =>
          refine ⟨_, .typed points.struct points.target hlater, iff_of_false ?_ (not_not_intro ?_)⟩
          · -- Below all the pointers there was nothing, and there is a struct now.
            intro heq
            cases CType.pointers_inj _ heq
          · exact ⟨name, points, unknown, by simp [hlater]⟩

theorem FieldDescription.stale_iff {field : FieldDescription} {names : List String}
    (known : ∀ name, later.get? name = none ↔ registry.get? name = none ∧ name ∉ names) :
    field.Stale registry later ↔
      ∃ target, field.PointsTo target ∧ registry.get? target = none ∧ target ∈ names := by
  refine exists_congr fun target => and_congr_right fun _ => and_congr_right fun unknown => ?_
  rw [ne_eq, known, not_and, Decidable.not_not]
  exact forall_prop_of_true unknown

theorem StructDescription.specs_eq_ok_iff {description : StructDescription} {specs : List FieldSpec} :
    description.specs registry = .ok specs ↔
      List.Forall₂ (fun field spec => ∃ type, field.resolve description.name registry = .ok type ∧
        ⟨field.name, type, field.count⟩ = spec) description.fields specs := by
  rw [StructDescription.specs, Outcome.mapM_eq_ok_iff]
  simp only [Outcome.bind_eq_ok_iff, pure, Except.pure, Except.ok.injEq]

theorem StructDescription.specs_later {description : StructDescription} {specs : List FieldSpec}
    (grown : registry.Extends later) (resolved : description.specs registry = .ok specs) :
    ∃ others, description.specs later = .ok others ∧
      (others = specs ↔ ∀ field ∈ description.fields, ¬field.Stale registry later) := by
  simp only [StructDescription.specs_eq_ok_iff] at resolved ⊢
  generalize description.fields = fields at resolved ⊢
  induction resolved with
  | nil => exact ⟨[], .nil, by simp⟩
  | @cons field spec fields specs hfield _ ih =>
      obtain ⟨others, hothers, hsame⟩ := ih
      obtain ⟨type, htype, rfl⟩ := hfield
      obtain ⟨other, hother, hiff⟩ := FieldDescription.resolve_later grown htype
      refine ⟨_, .cons ⟨other, hother, rfl⟩ hothers, ?_⟩
      rw [List.cons.injEq, FieldSpec.mk.injEq, List.forall_mem_cons, hsame, ← hiff]
      simp

end

namespace Registry

theorem defineDescribed_of_ok {registry : Registry} {description : StructDescription}
    {specs : List FieldSpec} (resolved : description.specs registry = .ok specs) :
    registry.defineDescribed description = registry.define description.name specs := by
  rw [defineDescribed, resolved]

theorem defineDescribed_eq_ok {registry next : Registry} {description : StructDescription}
    {layout : Layout} {events : List Event}
    (described : registry.defineDescribed description = ⟨.ok layout, next, events⟩) :
    ∃ specs, description.specs registry = .ok specs ∧
      Defined registry description.name specs ⟨.ok layout, next, events⟩ := by
  cases resolved : description.specs registry with
  | error failure =>
      rw [defineDescribed, resolved] at described
      cases described
  | ok specs =>
      rw [defineDescribed_of_ok resolved] at described
      exact ⟨specs, rfl, described ▸ defined registry description.name specs⟩

theorem defineAll_cons_of_ok {registry next : Registry} {description : StructDescription}
    {layout : Layout} {events : List Event}
    (described : registry.defineDescribed description = ⟨.ok layout, next, events⟩)
    (rest : List StructDescription) :
    registry.defineAll (description :: rest) =
      ⟨(next.defineAll rest).outcome.map (layout :: ·), (next.defineAll rest).registry,
        events ++ (next.defineAll rest).events⟩ := by
  rw [defineAll, described]

theorem defineAll_cons_of_error {registry next : Registry} {description : StructDescription}
    {failure : Failure} {events : List Event}
    (described : registry.defineDescribed description = ⟨.error failure, next, events⟩)
    (rest : List StructDescription) :
    registry.defineAll (description :: rest) = ⟨.error failure, next, events⟩ := by
  rw [defineAll, described]

theorem defineAll_cons_eq_ok {registry : Registry} {description : StructDescription}
    {rest : List StructDescription} {layouts : List Layout}
    (defined : (registry.defineAll (description :: rest)).outcome = .ok layouts) :
    ∃ layout next events others, registry.defineDescribed description = ⟨.ok layout, next, events⟩ ∧
      (next.defineAll rest).outcome = .ok others ∧ layouts = layout :: others ∧
      (registry.defineAll (description :: rest)).registry = (next.defineAll rest).registry := by
  cases described : registry.defineDescribed description with
  | mk outcome next events =>
      cases outcome with
      | error failure =>
          rw [defineAll_cons_of_error described] at defined
          cases defined
      | ok layout =>
          rw [defineAll_cons_of_ok described] at defined ⊢
          cases hrest : (next.defineAll rest).outcome with
          | error failure => rw [hrest] at defined; cases defined
          | ok others =>
              rw [hrest] at defined
              exact ⟨layout, next, events, others, rfl, hrest, (Except.ok.inj defined).symm, rfl⟩

/-- What defining a whole set leaves behind: everything that was known, and every name of the set. -/
theorem defineAll_registry {registry : Registry} {structs : List StructDescription}
    {layouts : List Layout} (defined : (registry.defineAll structs).outcome = .ok layouts) :
    registry.Extends (registry.defineAll structs).registry ∧
      ∀ name, (registry.defineAll structs).registry.get? name = none ↔
        registry.get? name = none ∧ name ∉ structs.map (·.name) := by
  induction structs generalizing registry layouts with
  | nil => exact ⟨.refl registry, by simp [defineAll]⟩
  | cons description rest ih =>
      obtain ⟨layout, next, events, others, described, hrest, -, hregistry⟩ :=
        defineAll_cons_eq_ok defined
      obtain ⟨specs, -, hdefined⟩ := defineDescribed_eq_ok described
      obtain ⟨-, -, hnext⟩ := hdefined.of_ok rfl
      obtain ⟨hgrown, hnames⟩ := ih hrest
      rw [hregistry]
      refine ⟨hdefined.extends.trans hgrown, fun name => ?_⟩
      rw [hnames, hnext, List.map_cons, List.mem_cons, not_or, and_assoc]

/-- Some struct of the list points to itself or to a later one, by a name that is unknown when its turn
comes. -/
def PointsAhead (registry : Registry) (structs : List StructDescription) : Prop :=
  ∃ earlier description later field target, structs = earlier ++ description :: later ∧
    field ∈ description.fields ∧ field.PointsTo target ∧ registry.get? target = none ∧
    target ∉ earlier.map (·.name) ∧ target ∈ (description :: later).map (·.name)

theorem pointsAhead_cons_iff {registry next : Registry} {description : StructDescription}
    {rest : List StructDescription}
    (names : ∀ name, next.get? name = none ↔ registry.get? name = none ∧ name ≠ description.name) :
    registry.PointsAhead (description :: rest) ↔
      (∃ field ∈ description.fields, ∃ target, field.PointsTo target ∧
        registry.get? target = none ∧ target ∈ (description :: rest).map (·.name)) ∨
      next.PointsAhead rest := by
  constructor
  · rintro ⟨earlier, found, later, field, target, hsplit, hfield, points, unknown, hnot, hmem⟩
    cases earlier with
    | nil =>
        obtain ⟨rfl, rfl⟩ := List.cons.inj hsplit
        exact .inl ⟨field, hfield, target, points, unknown, hmem⟩
    | cons first earlier =>
        obtain ⟨rfl, rfl⟩ := List.cons.inj hsplit
        rw [List.map_cons, List.mem_cons, not_or] at hnot
        exact .inr ⟨earlier, found, later, field, target, rfl, hfield, points,
          (names target).mpr ⟨unknown, hnot.1⟩, hnot.2, hmem⟩
  · rintro (⟨field, hfield, target, points, unknown, hmem⟩ |
      ⟨earlier, found, later, field, target, rfl, hfield, points, unknown, hnot, hmem⟩)
    · exact ⟨[], description, rest, field, target, rfl, hfield, points, unknown, List.not_mem_nil, hmem⟩
    · obtain ⟨hunknown, hne⟩ := (names target).mp unknown
      refine ⟨description :: earlier, found, later, field, target, rfl, hfield, points, hunknown, ?_, hmem⟩
      rw [List.map_cons, List.mem_cons, not_or]
      exact ⟨hne, hnot⟩

/-- The second time, by induction on the structs that are still to come: `final` is the registry that the
first time ended with, `registry` the one that the first time had got to. -/
theorem defineAll_on_final {registry final : Registry} {structs : List StructDescription}
    {layouts : List Layout} (defined : (registry.defineAll structs).outcome = .ok layouts)
    (last : (registry.defineAll structs).registry = final) :
    (¬registry.PointsAhead structs → final.defineAll structs = ⟨.ok layouts, final, []⟩) ∧
      (registry.PointsAhead structs → ∃ description ∈ structs,
        final.defineAll structs = ⟨.error (.layout (.redefined description.name)), final, []⟩) := by
  induction structs generalizing registry layouts with
  | nil =>
      cases defined
      refine ⟨fun _ => rfl, ?_⟩
      rintro ⟨earlier, description, later, field, target, hsplit, -⟩
      simp at hsplit
  | cons description rest ih =>
      obtain ⟨hall, hfinal⟩ := defineAll_registry defined
      rw [last] at hall hfinal
      obtain ⟨layout, next, events, others, described, hrest, rfl, hregistry⟩ :=
        defineAll_cons_eq_ok defined
      rw [hregistry] at last
      obtain ⟨specs, resolved, hdefined⟩ := defineDescribed_eq_ok described
      obtain ⟨hspecs, hlayout, hnext⟩ := hdefined.of_ok rfl
      have known : final.get? description.name = some layout :=
        last ▸ (defineAll_registry hrest).1 _ _ hlayout
      obtain ⟨agains, hagains, hsame⟩ := StructDescription.specs_later hall resolved
      have hstale : (∃ field ∈ description.fields, ∃ target, field.PointsTo target ∧
          registry.get? target = none ∧ target ∈ (description :: rest).map (·.name)) ↔
          agains ≠ specs := by
        rw [ne_eq, hsame]
        simp only [FieldDescription.stale_iff hfinal, not_forall, not_not, exists_prop]
      rw [pointsAhead_cons_iff hnext, hstale]
      obtain ⟨hsettled, hahead⟩ := ih hrest last
      by_cases same : agains = specs
      · -- The struct has the fields it had, so all depends on the rest.
        have hdescribed : final.defineDescribed description = ⟨.ok layout, final, []⟩ := by
          rw [defineDescribed_of_ok hagains, define_of_same known (hspecs.trans same.symm)]
        rw [defineAll_cons_of_ok hdescribed]
        refine ⟨fun none => ?_, ?_⟩
        · rw [hsettled fun ahead => none (.inr ahead)]
          rfl
        · rintro (other | ahead)
          · exact absurd same other
          · obtain ⟨failing, hmem, heq⟩ := hahead ahead
            rw [heq]
            exact ⟨failing, List.mem_cons_of_mem _ hmem, rfl⟩
      · have hdescribed : final.defineDescribed description =
            ⟨.error (.layout (.redefined description.name)), final, []⟩ := by
          rw [defineDescribed_of_ok hagains,
            define_of_other known fun heq => same (heq.symm.trans hspecs)]
        rw [defineAll_cons_of_error hdescribed]
        exact ⟨fun none => absurd (.inl same) none, fun _ => ⟨description, List.mem_cons_self, rfl⟩⟩

/-- Defining a set again changes nothing. It gives the same layouts as the first time, unless some struct
of the set points to itself or ahead, to a name that was unknown: that struct has other fields now. -/
theorem defineAll_again {registry : Registry} {set : DescriptionSet} {layouts : List Layout}
    (defined : (registry.defineAll set.structs).outcome = .ok layouts) :
    (¬registry.PointsAhead set.structs →
      (registry.defineAll set.structs).registry.defineAll set.structs =
        ⟨.ok layouts, (registry.defineAll set.structs).registry, []⟩) ∧
    (registry.PointsAhead set.structs → ∃ description ∈ set.structs,
      (registry.defineAll set.structs).registry.defineAll set.structs =
        ⟨.error (.layout (.redefined description.name)),
          (registry.defineAll set.structs).registry, []⟩) :=
  defineAll_on_final defined rfl

/-- A point, and a holder of one point and of a pointer to another. -/
def pointAndHolder : DescriptionSet :=
  ⟨[⟨"point", [⟨"x", .short, 0, none, 1⟩, ⟨"y", .int, 0, none, 1⟩]⟩,
    ⟨"holder", [⟨"own", .struct, 0, some "point", 1⟩, ⟨"other", .struct, 1, some "point", 1⟩]⟩]⟩

theorem defineAll_again_sample :
    ∃ layouts, (empty.defineAll pointAndHolder.structs).outcome = .ok layouts ∧
      (empty.defineAll pointAndHolder.structs).registry.defineAll pointAndHolder.structs =
        ⟨.ok layouts, (empty.defineAll pointAndHolder.structs).registry, []⟩ := by
  have settled : ¬empty.PointsAhead pointAndHolder.structs := by
    rintro ⟨earlier, description, later, field, target, hsplit, hfield, points, -, hnot, -⟩
    obtain ⟨struct, pointer, htarget⟩ := points
    obtain _ | ⟨first, _ | ⟨second, earlier⟩⟩ := earlier
    · obtain ⟨rfl, -⟩ := List.cons.inj hsplit
      simp only [List.mem_cons, List.not_mem_nil, or_false] at hfield
      obtain rfl | rfl := hfield <;> cases struct
    · -- The holder's pointer leads back to the point.
      obtain ⟨rfl, htail⟩ := List.cons.inj hsplit
      obtain ⟨rfl, -⟩ := List.cons.inj htail
      simp only [List.mem_cons, List.not_mem_nil, or_false] at hfield
      obtain rfl | rfl := hfield
      · exact pointer rfl
      · cases htarget
        simp at hnot
    · simp [pointAndHolder] at hsplit
  obtain ⟨layouts, defined⟩ : ∃ layouts,
      (empty.defineAll pointAndHolder.structs).outcome = .ok layouts := ⟨_, rfl⟩
  exact ⟨layouts, defined, (defineAll_again defined).1 settled⟩

/-- A node that points to the next one. -/
def linkedNode : DescriptionSet :=
  ⟨[⟨"node", [⟨"value", .int, 0, none, 1⟩, ⟨"next", .struct, 1, some "node", 1⟩]⟩]⟩

/-- When the node is first defined its own name is unknown, so that the pointer is untyped; when it is
defined again the pointer leads to a node. -/
theorem linkedNode_redefined :
    ∃ layout, (empty.defineAll linkedNode.structs).outcome = .ok [layout] ∧
      ((empty.defineAll linkedNode.structs).registry.defineAll linkedNode.structs).outcome =
        .error (.layout (.redefined "node")) := by
  refine ⟨_, rfl, ?_⟩
  cbv

end Registry
end Foreign
