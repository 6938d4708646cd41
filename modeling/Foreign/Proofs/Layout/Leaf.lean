import Mathlib.Data.List.Pairwise
import Foreign.Proofs.Layout.Placement
import Foreign.Proofs.Value.Codec

/-!
Leaves of a struct: the scalars and pointers that are reached by choosing a field and one of its elements,
level by level. In a layout that was placed without wrapping every leaf lies inside the struct, and two
different leaves have no byte in common.
-/

namespace Foreign

namespace Field

def elementOffset (field : Field) (index : Word) : Nat :=
  field.offset.toNat + field.type.stride.toNat * index.toNat

/-- The end of the last element. -/
def stop (field : Field) : Nat :=
  field.offset.toNat + field.type.stride.toNat * field.count.toNat

theorem elementOffset_add_stride_le {field : Field} {index : Word}
    (bound : index.toNat < field.count.toNat) :
    field.elementOffset index + field.type.stride.toNat ≤ field.stop := by
  have h : field.type.stride.toNat * (index.toNat + 1) ≤
      field.type.stride.toNat * field.count.toNat := Nat.mul_le_mul_left _ bound
  rw [Nat.mul_add, Nat.mul_one] at h
  rw [elementOffset, stop]
  omega

theorem elementOffset_add_stride_le_of_lt {field : Field} {index later : Word}
    (h : index.toNat < later.toNat) :
    field.elementOffset index + field.type.stride.toNat ≤ field.elementOffset later := by
  have h : field.type.stride.toNat * (index.toNat + 1) ≤
      field.type.stride.toNat * later.toNat := Nat.mul_le_mul_left _ h
  rw [Nat.mul_add, Nat.mul_one] at h
  simp only [elementOffset]
  omega

/-- One of the two fields ends before the other starts. -/
def Parted (field other : Field) : Prop :=
  field.stop ≤ other.offset.toNat ∨ other.stop ≤ field.offset.toNat

instance : Std.Symm Parted where
  symm _ _ := Or.symm

end Field

namespace Layout

theorem Consecutive.start_le {start : Nat} {fields : List Field} (h : Consecutive start fields) :
    ∀ field ∈ fields, start ≤ field.offset.toNat := by
  induction fields generalizing start with
  | nil => simp
  | cons first rest ih =>
      obtain ⟨hfirst, hrest⟩ := h
      refine List.forall_mem_cons.mpr ⟨hfirst.1.2, ?_⟩
      intro field hfield
      have := ih hrest field hfield
      have := hfirst.1.2
      omega

theorem Consecutive.ordered {start : Nat} {fields : List Field} (h : Consecutive start fields) :
    fields.Pairwise fun field later => field.offset.toNat + field.member.size ≤ later.offset.toNat := by
  induction fields generalizing start with
  | nil => exact .nil
  | cons first rest ih => exact .cons h.2.start_le (ih h.2)

theorem Consecutive.le_stop {start : Nat} {fields : List Field} (h : Consecutive start fields) :
    ∀ field ∈ fields, field.offset.toNat + field.member.size ≤
      Exact.stop start (fields.map Field.member) := by
  induction fields generalizing start with
  | nil => simp
  | cons first rest ih =>
      rw [List.map_cons, Exact.stop, ← h.offset_eq]
      refine List.forall_mem_cons.mpr ⟨?_, ih h.2⟩
      exact Exact.start_le_stop (align_pos_of_mem_members rest) _

/-- The shape of a layout in which nothing has wrapped. -/
structure Regular (layout : Layout) : Prop where
  complete : ∀ field ∈ layout.fields, field.type ≠ .void
  tight : ∀ field ∈ layout.fields, field.type.stride.toNat = field.type.size.toNat
  parted : layout.fields.Pairwise Field.Parted
  inside : ∀ field ∈ layout.fields, field.stop ≤ layout.size.toNat
  nested : ∀ field ∈ layout.fields, ∀ inner, field.type = .struct inner →
    inner.Built ∧ inner.exact.size < 2 ^ 64

theorem Built.regular {layout : Layout} (built : layout.Built) (fits : layout.exact.size < 2 ^ 64) :
    layout.Regular := by
  obtain ⟨computed, inner⟩ := built.compute_specs
  have sound := wellFormed_of_compute computed
  have hconsecutive := built.consecutive fits
  have hsize : layout.size.toNat = layout.exact.size := (built.isExact fits).1
  have hspec : ∀ field ∈ layout.fields,
      (⟨field.name, field.type, field.count⟩ : FieldSpec) ∈ layout.specs :=
    fun field hfield => List.mem_map.mpr ⟨field, hfield, rfl⟩
  rw [exact_eq_ofMembers] at fits hsize
  have agree := isExact_of_built sound inner fits
  have hmember : ∀ field ∈ layout.fields,
      field.member.size = field.type.stride.toNat * field.count.toNat :=
    fun field hfield => member_size_of_isExact (agree _ (hspec field hfield))
  refine ⟨?_, ?_, ?_, ?_, ?_⟩
  · exact fun field hfield => sound.complete _ (hspec field hfield)
  · intro field hfield
    have := agree _ (hspec field hfield)
    rw [this.toNat_stride, this.1]
  · refine hconsecutive.ordered.imp_of_mem ?_
    intro field later hfield _ hle
    rw [hmember field hfield] at hle
    exact .inl hle
  · intro field hfield
    have hle := hconsecutive.le_stop field hfield
    have hceil := Exact.le_alignUp (Exact.stop 0 (layout.fields.map Field.member))
      (Exact.one_le_strictest (layout.fields.map Field.member))
    rw [hmember field hfield] at hle
    rw [hsize, Exact.ofMembers, member_specs]
    exact Nat.le_trans hle hceil
  · intro field hfield nested hnested
    refine ⟨inner _ (hspec field hfield) nested hnested, ?_⟩
    have hle := exact_size_le sound (hspec field hfield)
    rw [hnested] at hle
    exact Nat.lt_of_le_of_lt hle fits

theorem mem_of_field? {layout : Layout} {name : String} {field : Field}
    (found : layout.field? name = some field) : field ∈ layout.fields ∧ field.name = name := by
  refine ⟨List.mem_of_find?_eq_some found, ?_⟩
  exact beq_iff_eq.mp (List.find?_some found :)

/-- One step down: a field by its name, and one of its elements. -/
structure Hop where
  name : String
  index : Word
  deriving DecidableEq

/-- `Leaf layout path offset type`: the path leads to a `type` at `offset`, and `type` is a scalar or a
pointer. -/
inductive Leaf : Layout → List Hop → Nat → CType → Prop
  | plain {layout : Layout} {hop : Hop} {field : Field} (found : layout.field? hop.name = some field)
      (bound : hop.index.toNat < field.count.toNat) (plain : field.type.IsPlain) :
      Leaf layout [hop] (field.elementOffset hop.index) field.type
  | nested {layout inner : Layout} {hop : Hop} {field : Field} {path : List Hop} {offset : Nat}
      {type : CType} (found : layout.field? hop.name = some field)
      (bound : hop.index.toNat < field.count.toNat) (struct : field.type = .struct inner)
      (rest : Leaf inner path offset type) :
      Leaf layout (hop :: path) (field.elementOffset hop.index + offset) type

/-- A byte of the struct that belongs to no leaf. -/
def IsPadding (layout : Layout) (n : Nat) : Prop :=
  n < layout.size.toNat ∧
    ∀ path offset type, layout.Leaf path offset type → n < offset ∨ offset + type.size.toNat ≤ n

theorem Regular.element_inside {layout : Layout} (regular : layout.Regular) {field : Field}
    (mem : field ∈ layout.fields) {index : Word} (bound : index.toNat < field.count.toNat) :
    field.elementOffset index + field.type.size.toNat ≤ layout.size.toNat := by
  rw [← regular.tight field mem]
  exact Nat.le_trans (Field.elementOffset_add_stride_le bound) (regular.inside field mem)

theorem Regular.inner {layout inner : Layout} (regular : layout.Regular) {field : Field}
    (mem : field ∈ layout.fields) (struct : field.type = .struct inner) : inner.Regular := by
  obtain ⟨built, fits⟩ := regular.nested field mem inner struct
  exact built.regular fits

theorem Regular.elements_apart {layout : Layout} (regular : layout.Regular) {field other : Field}
    {hop turn : Hop} (found : layout.field? hop.name = some field)
    (bound : hop.index.toNat < field.count.toNat) (found' : layout.field? turn.name = some other)
    (bound' : turn.index.toNat < other.count.toNat) (ne : hop ≠ turn) :
    field.elementOffset hop.index + field.type.size.toNat ≤ other.elementOffset turn.index ∨
      other.elementOffset turn.index + other.type.size.toNat ≤ field.elementOffset hop.index := by
  obtain ⟨mem, hname⟩ := mem_of_field? found
  obtain ⟨mem', hname'⟩ := mem_of_field? found'
  rw [← regular.tight field mem, ← regular.tight other mem']
  by_cases same : field = other
  · -- One field, so the elements differ, and the lower one ends before the higher one starts.
    subst same
    have hne : hop.index.toNat ≠ turn.index.toNat := by
      intro heq
      apply ne
      cases hop
      cases turn
      exact Hop.mk.injEq .. ▸ ⟨hname.symm.trans hname', UInt64.toNat_inj.mp heq⟩
    cases Nat.lt_or_gt_of_ne hne with
    | inl lt => exact .inl (Field.elementOffset_add_stride_le_of_lt lt)
    | inr gt => exact .inr (Field.elementOffset_add_stride_le_of_lt gt)
  · have hend := Field.elementOffset_add_stride_le bound
    have hend' := Field.elementOffset_add_stride_le bound'
    have hstart : field.offset.toNat ≤ field.elementOffset hop.index := Nat.le_add_right _ _
    have hstart' : other.offset.toNat ≤ other.elementOffset turn.index := Nat.le_add_right _ _
    have hparted : field.stop ≤ other.offset.toNat ∨ other.stop ≤ field.offset.toNat :=
      regular.parted.forall mem mem' same
    omega

theorem Leaf.plain_type {layout : Layout} {path : List Hop} {offset : Nat} {type : CType}
    (leaf : layout.Leaf path offset type) : type.IsPlain := by
  induction leaf with
  | plain _ _ plain => exact plain
  | nested _ _ _ _ ih => exact ih

theorem Leaf.inside {layout : Layout} (regular : layout.Regular) {path : List Hop} {offset : Nat}
    {type : CType} (leaf : layout.Leaf path offset type) :
    offset + type.size.toNat ≤ layout.size.toNat := by
  induction leaf with
  | plain found bound plain => exact regular.element_inside (mem_of_field? found).1 bound
  | @nested layout inner hop field path offset type found bound struct rest ih =>
      have mem := (mem_of_field? found).1
      have helement := regular.element_inside mem bound
      have hinner := ih (regular.inner mem struct)
      rw [struct, CType.size] at helement
      omega

theorem Leaf.complete {layout : Layout} (regular : layout.Regular) {path : List Hop} {offset : Nat}
    {type : CType} (leaf : layout.Leaf path offset type) : type ≠ .void := by
  induction leaf with
  | plain found _ _ => exact regular.complete _ (mem_of_field? found).1
  | nested found _ struct _ ih => exact ih (regular.inner (mem_of_field? found).1 struct)

theorem Leaf.within {layout : Layout} (regular : layout.Regular) {hop : Hop} {path : List Hop}
    {offset : Nat} {type : CType} (leaf : layout.Leaf (hop :: path) offset type) :
    ∃ field, layout.field? hop.name = some field ∧ hop.index.toNat < field.count.toNat ∧
      field.elementOffset hop.index ≤ offset ∧
      offset + type.size.toNat ≤ field.elementOffset hop.index + field.type.size.toNat := by
  cases leaf with
  | plain found bound plain => exact ⟨_, found, bound, Nat.le_refl _, Nat.le_refl _⟩
  | nested found bound struct rest =>
      have hinner := rest.inside (regular.inner (mem_of_field? found).1 struct)
      refine ⟨_, found, bound, Nat.le_add_right _ _, ?_⟩
      rw [struct, CType.size]
      omega

/-- Induction on the path in common: where two paths part, they choose elements that do not overlap. -/
theorem Leaf.apart {layout : Layout} (regular : layout.Regular) {path other : List Hop}
    {offset place : Nat} {type target : CType} (leaf : layout.Leaf path offset type)
    (leaf' : layout.Leaf other place target) (ne : path ≠ other) :
    offset + type.size.toNat ≤ place ∨ place + target.size.toNat ≤ offset := by
  induction path generalizing layout other offset place with
  | nil => cases leaf
  | cons hop path ih =>
      cases other with
      | nil => cases leaf'
      | cons turn other =>
          by_cases same : hop = turn
          · -- Both leaves lie in one element, and a leaf that ends there cannot be a struct.
            subst same
            cases leaf with
            | plain found bound plain =>
                cases leaf' with
                | plain => exact absurd rfl ne
                | nested found' _ struct _ =>
                    obtain rfl := Option.some.inj (found.symm.trans found')
                    exact absurd struct (plain _)
            | nested found bound struct rest =>
                cases leaf' with
                | plain found' _ plain =>
                    obtain rfl := Option.some.inj (found.symm.trans found')
                    exact absurd struct (plain _)
                | nested found' _ struct' rest' =>
                    obtain rfl := Option.some.inj (found.symm.trans found')
                    obtain rfl := CType.struct.inj (struct.symm.trans struct')
                    have hinner := ih (regular.inner (mem_of_field? found).1 struct) rest rest'
                      (fun heq => ne (heq ▸ rfl))
                    omega
          · obtain ⟨field, found, bound, hstart, hstop⟩ := leaf.within regular
            obtain ⟨field', found', bound', hstart', hstop'⟩ := leaf'.within regular
            have := regular.elements_apart found bound found' bound' same
            omega

end Layout
end Foreign
