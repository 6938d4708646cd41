import Foreign.Proofs.Layout.Sequence

/-!
What a pointer leads to has no part in a layout. Types are alike that take the same room and have the same
number of pointers around them; placing fields of alike types gives layouts of one shape. A registry that
knows more structs may give a pointer a type where another leaves it untyped, but the types are alike, so
that a set comes out in one shape on both.
-/

namespace Foreign

namespace CType

/-- Two types of one depth that take the same room. -/
structure Alike (a b : CType) : Prop where
  void : a.isVoid = b.isVoid
  size : a.size = b.size
  align : a.align = b.align
  depth : a.depth = b.depth

variable {a b : CType}

theorem Alike.refl (type : CType) : Alike type type :=
  ⟨rfl, rfl, rfl, rfl⟩

theorem Alike.stride (alike : Alike a b) : a.stride = b.stride := by
  rw [CType.stride, CType.stride, alike.size, alike.align]

theorem Alike.pointer (h : a.depth = b.depth) : Alike (.pointer a) (.pointer b) :=
  ⟨rfl, rfl, rfl, congrArg (· + 1) h⟩

theorem depth_pointers (type : CType) (depth : Nat) :
    (type.pointers depth).depth = type.depth + depth := by
  induction depth with
  | zero => rfl
  | succ depth ih => exact congrArg (· + 1) ih

theorem Alike.pointers (alike : Alike a b) (depth : Nat) : Alike (a.pointers depth) (b.pointers depth) := by
  cases depth with
  | zero => exact alike
  | succ depth =>
      apply Alike.pointer
      rw [depth_pointers, depth_pointers, alike.depth]

/-- Untyped pointers take the place of pointers to a struct. -/
theorem alike_struct_pointers (layout : Layout) {depth : Nat} (pointer : depth ≠ 0) :
    Alike (void.pointers depth) ((CType.struct layout).pointers depth) := by
  obtain ⟨depth, rfl⟩ := Nat.exists_eq_succ_of_ne_zero pointer
  apply Alike.pointer
  rw [depth_pointers, depth_pointers]
  rfl

end CType

structure FieldSpec.Alike (a b : FieldSpec) : Prop where
  name : a.name = b.name
  type : a.type.Alike b.type
  count : a.count = b.count

/-- Two fields that lie in the same bytes, with the same depth of pointers. -/
structure Field.SameShape (a b : Field) : Prop where
  name : a.name = b.name
  count : a.count = b.count
  offset : a.offset = b.offset
  size : a.size = b.size
  align : a.align = b.align
  depth : a.type.depth = b.type.depth

structure Layout.SameShape (a b : Layout) : Prop where
  name : a.name = b.name
  size : a.size = b.size
  align : a.align = b.align
  fields : List.Forall₂ Field.SameShape a.fields b.fields

namespace Layout

theorem SameShape.refl (layout : Layout) : SameShape layout layout :=
  ⟨rfl, rfl, rfl, List.forall₂_same.mpr fun _ _ => ⟨rfl, rfl, rfl, rfl, rfl, rfl⟩⟩

theorem SameShape.alike {a b : Layout} (same : SameShape a b) :
    CType.Alike (.struct a) (.struct b) :=
  ⟨rfl, same.size, same.align, rfl⟩

theorem defect?_of_alike {struct : String} {seen : List String} {spec other : FieldSpec}
    (alike : spec.Alike other) : defect? struct seen spec = defect? struct seen other := by
  rw [defect?, defect?, alike.type.void, alike.count, alike.name]

theorem place_of_alike {struct : String} {seen : List String} {offset align : Word}
    {specs others : List FieldSpec} {placed : Placed} (alike : List.Forall₂ FieldSpec.Alike specs others)
    (h : place struct seen offset align specs = .ok placed) :
    ∃ other, place struct seen offset align others = .ok other ∧
      List.Forall₂ Field.SameShape placed.fields other.fields ∧
      placed.stop = other.stop ∧ placed.align = other.align := by
  induction alike generalizing seen offset align placed with
  | nil =>
      cases h
      exact ⟨_, rfl, .nil, rfl, rfl⟩
  | @cons spec other specs others hspec _ ih =>
      obtain ⟨sound, size, stop, after, hproduct, hsum, hafter, rfl⟩ := place_cons_eq_ok_iff.mp h
      obtain ⟨rest, hrest, fields, hstop, halign⟩ := ih hafter
      rw [defect?_of_alike hspec] at sound
      rw [hspec.type.stride, hspec.count] at hproduct
      rw [hspec.type.align] at hsum hrest
      rw [hspec.name] at hrest
      refine ⟨_, place_cons_eq_ok_iff.mpr ⟨sound, size, stop, rest, hproduct, hsum, hrest, rfl⟩,
        .cons ⟨hspec.name, hspec.count, ?_, ?_, hspec.type.align, hspec.type.depth⟩ fields, hstop, halign⟩
      · rw [hspec.type.align]
      · rw [Field.size, Field.size, hspec.type.stride, hspec.count]

theorem compute_of_alike {name : String} {specs others : List FieldSpec} {layout : Layout}
    (alike : List.Forall₂ FieldSpec.Alike specs others) (h : compute name specs = .ok layout) :
    ∃ other, compute name others = .ok other ∧ layout.SameShape other := by
  obtain ⟨placed, hplaced, rfl⟩ := compute_eq_ok_iff.mp h
  obtain ⟨other, hother, fields, hstop, halign⟩ := place_of_alike alike hplaced
  refine ⟨_, compute_eq_ok_iff.mpr ⟨other, hother, rfl⟩, rfl, ?_, halign, fields⟩
  rw [hstop, halign]

end Layout

/-- Fields of struct type have the depth of pointers that they are described with. -/
def StructDescription.KeepsDepths (description : StructDescription) (layout : Layout) : Prop :=
  List.Forall₂ (fun field placed => field.type = .struct → placed.type.depth = field.pointers)
    description.fields layout.fields

namespace Registry

/-- `later` knows the structs that `registry` knows, in the same shapes. -/
def Resembles (registry later : Registry) : Prop :=
  ∀ name layout, registry.get? name = some layout →
    ∃ other, later.get? name = some other ∧ layout.SameShape other

theorem Extends.resembles {registry later : Registry} (grown : registry.Extends later) :
    registry.Resembles later :=
  fun name layout known => ⟨layout, grown name layout known, .refl layout⟩

/-- Every layout is what placing its own fields gives. -/
def Computed (registry : Registry) : Prop :=
  ∀ name layout, registry.get? name = some layout → Layout.compute name layout.specs = .ok layout

theorem computed_ofOperations (operations : List Operation) :
    (Run.ofOperations operations).registry.Computed := by
  intro name layout known
  obtain ⟨specs, -, computed⟩ := (Run.invariant_ofOperations operations).get?_eq_some_iff.mp known
  rwa [Layout.specs_of_compute computed]

end Registry

section

variable {registry later : Registry}

theorem FieldDescription.resolve_alike {field : FieldDescription} {struct : String} {type : CType}
    (resembles : registry.Resembles later) (resolved : field.resolve struct registry = .ok type) :
    ∃ other, field.resolve struct later = .ok other ∧ type.Alike other := by
  simp only [resolve_eq_iff] at resolved ⊢
  cases resolved with
  | plain named => exact ⟨_, .plain named, .refl _⟩
  | typed type target known =>
      obtain ⟨other, hother, same⟩ := resembles _ _ known
      exact ⟨_, .typed type target hother, same.alike.pointers field.pointers⟩
  | @untyped name points unknown =>
      cases hlater : later.get? name with
      | none => exact ⟨_, .untyped points hlater, .refl _⟩
      | some layout =>
          exact ⟨_, .typed points.struct points.target hlater,
            CType.alike_struct_pointers layout points.pointer⟩

theorem StructDescription.specs_alike {description : StructDescription} {specs : List FieldSpec}
    (resembles : registry.Resembles later) (resolved : description.specs registry = .ok specs) :
    ∃ others, description.specs later = .ok others ∧ List.Forall₂ FieldSpec.Alike specs others := by
  simp only [StructDescription.specs_eq_ok_iff] at resolved ⊢
  generalize description.fields = fields at resolved ⊢
  induction resolved with
  | nil => exact ⟨[], .nil, .nil⟩
  | cons hfield _ ih =>
      obtain ⟨others, hothers, alike⟩ := ih
      obtain ⟨type, htype, rfl⟩ := hfield
      obtain ⟨other, hother, halike⟩ := FieldDescription.resolve_alike resembles htype
      exact ⟨_, .cons ⟨other, hother, rfl⟩ hothers, .cons ⟨rfl, halike, rfl⟩ alike⟩

theorem FieldDescription.depth_of_resolve {field : FieldDescription} {struct : String} {type : CType}
    (hstruct : field.type = .struct) (resolved : field.resolve struct registry = .ok type) :
    type.depth = field.pointers := by
  cases resolve_eq_iff.mp resolved with
  | plain named =>
      rw [TypeName.type?_eq_none_iff.mpr hstruct] at named
      cases named
  | typed | untyped =>
      rw [CType.depth_pointers]
      exact Nat.zero_add _

end

namespace Registry

section

variable {registry next later next' : Registry} {name : String} {specs others : List FieldSpec}
  {layout other : Layout} {events events' : List Event}

theorem Computed.define (computed : registry.Computed)
    (defined : Defined registry name specs ⟨.ok layout, next, events⟩) :
    Layout.compute name specs = .ok layout ∧ next.Computed := by
  have hlayout : Layout.compute name specs = .ok layout := by
    cases defined with
    | kept known same => exact same ▸ computed name layout known
    | placed _ placed => exact placed
  refine ⟨hlayout, fun found foundLayout known => ?_⟩
  by_cases heq : found = name
  · subst heq
    obtain ⟨hspecs, hknown, -⟩ := defined.of_ok rfl
    cases hknown.symm.trans known
    rwa [hspecs]
  · rw [defined.get?_of_ne heq] at known
    exact computed found foundLayout known

/-- One step in both registries. A struct that only the second registry knew was placed there once, from
fields that are alike. -/
theorem Resembles.define (resembles : registry.Resembles later) (computed : later.Computed)
    (alike : List.Forall₂ FieldSpec.Alike specs others)
    (defined : Defined registry name specs ⟨.ok layout, next, events⟩)
    (defined' : Defined later name others ⟨.ok other, next', events'⟩) :
    layout.SameShape other ∧ next.Resembles next' := by
  obtain ⟨-, hlayout, -⟩ := defined.of_ok rfl
  obtain ⟨-, hother, -⟩ := defined'.of_ok rfl
  have same : layout.SameShape other := by
    cases defined with
    | kept known _ =>
        obtain ⟨found, hfound, same⟩ := resembles name layout known
        cases (defined'.extends name found hfound).symm.trans hother
        exact same
    | placed _ placed =>
        obtain ⟨found, hfound, same⟩ := Layout.compute_of_alike alike placed
        cases hfound.symm.trans (computed.define defined').1
        exact same
  refine ⟨same, fun found foundLayout known => ?_⟩
  by_cases heq : found = name
  · subst heq
    cases hlayout.symm.trans known
    exact ⟨other, hother, same⟩
  · rw [defined.get?_of_ne heq] at known
    rw [defined'.get?_of_ne heq]
    exact resembles found foundLayout known

end

theorem Resembles.defineAll {registry later : Registry} {structs : List StructDescription}
    {layouts others : List Layout} (resembles : registry.Resembles later) (computed : later.Computed)
    (defined : (registry.defineAll structs).outcome = .ok layouts)
    (defined' : (later.defineAll structs).outcome = .ok others) :
    List.Forall₂ Layout.SameShape layouts others := by
  induction structs generalizing registry later layouts others with
  | nil =>
      cases defined
      cases defined'
      exact .nil
  | cons description rest ih =>
      obtain ⟨layout, next, events, tail, described, hrest, rfl, -⟩ := defineAll_cons_eq_ok defined
      obtain ⟨other, next', events', tail', described', hrest', rfl, -⟩ := defineAll_cons_eq_ok defined'
      obtain ⟨specs, resolved, hdefined⟩ := defineDescribed_eq_ok described
      obtain ⟨specs', resolved', hdefined'⟩ := defineDescribed_eq_ok described'
      obtain ⟨alikes, halikes, alike⟩ := StructDescription.specs_alike resembles resolved
      cases halikes.symm.trans resolved'
      obtain ⟨same, hnext⟩ := resembles.define computed alike hdefined hdefined'
      exact .cons same (ih hnext (computed.define hdefined').2 hrest hrest')

theorem keepsDepths_of_defineAll {registry : Registry} {structs : List StructDescription}
    {layouts : List Layout} (defined : (registry.defineAll structs).outcome = .ok layouts) :
    List.Forall₂ StructDescription.KeepsDepths structs layouts := by
  refine (defineAll_layouts defined).imp ?_
  rintro description layout ⟨-, turn, -, resolved⟩
  rw [StructDescription.specs_eq_ok_iff, Layout.specs, List.forall₂_map_right_iff] at resolved
  refine resolved.imp ?_
  rintro field placed ⟨type, htype, hplaced⟩ hstruct
  obtain ⟨-, rfl, -⟩ := FieldSpec.mk.inj hplaced
  exact FieldDescription.depth_of_resolve hstruct htype

/-- On a registry that knows more, a set comes out in the same shapes. Fields of struct type keep the depth
that they are described with, and a pointer to a struct that is unknown takes the room of a typed one. -/
theorem defineAll_same_shape {registry : Registry} {operations : List Operation} {set : DescriptionSet}
    {layouts others : List Layout} (grown : registry.Extends (Run.ofOperations operations).registry)
    (defined : (registry.defineAll set.structs).outcome = .ok layouts)
    (defined' : ((Run.ofOperations operations).registry.defineAll set.structs).outcome = .ok others) :
    List.Forall₂ Layout.SameShape layouts others ∧
      List.Forall₂ StructDescription.KeepsDepths set.structs layouts ∧
      ∀ (field : FieldDescription) (struct target : String) (unaware aware : Registry) (layout : Layout),
        field.PointsTo target → unaware.get? target = none → aware.get? target = some layout →
        field.resolve struct unaware = .ok (CType.void.pointers field.pointers) ∧
          field.resolve struct aware = .ok ((CType.struct layout).pointers field.pointers) ∧
          CType.Alike (CType.void.pointers field.pointers)
            ((CType.struct layout).pointers field.pointers) := by
  refine ⟨grown.resembles.defineAll (computed_ofOperations operations) defined defined',
    keepsDepths_of_defineAll defined, ?_⟩
  intro field struct target unaware aware layout points unknown known
  exact ⟨FieldDescription.resolve_eq_iff.mpr (.untyped points unknown),
    FieldDescription.resolve_eq_iff.mpr (.typed points.struct points.target known),
    CType.alike_struct_pointers layout points.pointer⟩

/-- A point, known to one registry only. -/
def pointKnown : List Operation :=
  [.define "point" [⟨"x", .int .w16 true, 1⟩, ⟨"y", .int .w32 true, 1⟩]]

/-- A path of pointers to points, and a figure that holds two paths. -/
def figure : DescriptionSet :=
  ⟨[⟨"path", [⟨"closed", .char, 0, none, 1⟩, ⟨"points", .struct, 2, some "point", 1⟩]⟩,
    ⟨"figure", [⟨"paths", .struct, 0, some "path", 2⟩, ⟨"colour", .int, 0, none, 1⟩]⟩]⟩

/-- The paths of the two figures are of different types, and lie in memory in the same way. -/
theorem defineAll_same_shape_sample :
    empty.Extends (Run.ofOperations pointKnown).registry ∧
    ∃ layouts others, (empty.defineAll figure.structs).outcome = .ok layouts ∧
      ((Run.ofOperations pointKnown).registry.defineAll figure.structs).outcome = .ok others ∧
      (layouts.map fun layout => layout.fields.map (·.type.text)) =
        [["int8_t", "void**"], ["struct path", "int32_t"]] ∧
      (others.map fun layout => layout.fields.map (·.type.text)) =
        [["int8_t", "struct point**"], ["struct path", "int32_t"]] ∧
      List.Forall₂ Layout.SameShape layouts others := by
  have grown : empty.Extends (Run.ofOperations pointKnown).registry := fun _ _ known => (nomatch known)
  obtain ⟨layouts, defined⟩ : ∃ layouts,
      (empty.defineAll figure.structs).outcome = .ok layouts := ⟨_, rfl⟩
  obtain ⟨others, defined'⟩ : ∃ others,
      ((Run.ofOperations pointKnown).registry.defineAll figure.structs).outcome = .ok others := ⟨_, rfl⟩
  refine ⟨grown, layouts, others, defined, defined', ?_, ?_, (defineAll_same_shape grown defined defined').1⟩
  · cases defined; rfl
  · cases defined'; rfl

end Registry
end Foreign
