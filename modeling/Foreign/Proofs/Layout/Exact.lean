import Mathlib.Order.Bounds.Basic
import Foreign.CType.Basic
import Foreign.Layout.Placement

/-!
The layout of structs in unbounded numbers: the reference that placing in words is measured against. It
reads the types and lengths of fields and nothing that a layout has stored about itself, so a layout
with wrong offsets or a wrong size does not change what is asked of it.
-/

namespace Foreign

structure Exact where
  size : Nat
  align : Nat
  deriving DecidableEq, Repr

namespace Exact

/-- The least multiple of `align` that is not below `n`. -/
def alignUp (n align : Nat) : Nat :=
  (n + (align - 1)) / align * align

/-- A field as placing sees it: the exact type and the number of its elements. -/
structure Member where
  type : Exact
  count : Nat
  deriving DecidableEq, Repr

namespace Member

def stride (member : Member) : Nat :=
  alignUp member.type.size member.type.align

def size (member : Member) : Nat :=
  member.stride * member.count

end Member

/-- Where members start that are placed one behind the other from `start` on. -/
def offsets (start : Nat) : List Member → List Nat
  | [] => []
  | member :: rest =>
      let offset := alignUp start member.type.align
      offset :: offsets (offset + member.size) rest

/-- The end of the last of them. -/
def stop (start : Nat) : List Member → Nat
  | [] => start
  | member :: rest => stop (alignUp start member.type.align + member.size) rest

/-- The strictest alignment of members, 1 if there is none. -/
def strictest : List Member → Nat
  | [] => 1
  | member :: rest => max member.type.align (strictest rest)

/-- A struct with the given members. -/
def ofMembers (members : List Member) : Exact :=
  ⟨alignUp (stop 0 members) (strictest members), strictest members⟩

end Exact

mutual

def CType.exact : CType → Exact
  | .struct layout => layout.exact
  | type => ⟨type.size.toNat, type.align.toNat⟩

def Layout.exact : Layout → Exact
  | ⟨_, fields, _, _⟩ => Exact.ofMembers (exactMembers fields)

def Field.member : Field → Exact.Member
  | ⟨_, type, count, _⟩ => ⟨type.exact, count.toNat⟩

def exactMembers : List Field → List Exact.Member
  | [] => []
  | field :: rest => field.member :: exactMembers rest

end

def FieldSpec.member (spec : FieldSpec) : Exact.Member :=
  ⟨spec.type.exact, spec.count.toNat⟩

namespace Exact

theorem isLeast_alignUp (n : Nat) {align : Nat} (pos : 0 < align) :
    IsLeast {m | align ∣ m ∧ n ≤ m} (alignUp n align) := by
  refine ⟨⟨Nat.dvd_mul_left align _, ?_⟩, ?_⟩
  · have hdiv := Nat.div_add_mod (n + (align - 1)) align
    have hmod := Nat.mod_lt (n + (align - 1)) pos
    rw [Nat.mul_comm] at hdiv
    rw [alignUp]
    omega
  · rintro m ⟨⟨k, rfl⟩, hle⟩
    have hlt : (n + (align - 1)) / align < k + 1 := by
      apply Nat.div_lt_of_lt_mul
      rw [Nat.mul_add, Nat.mul_one]
      omega
    rw [alignUp, Nat.mul_comm align k]
    exact Nat.mul_le_mul_right align (Nat.le_of_lt_succ hlt)

theorem le_alignUp (n : Nat) {align : Nat} (pos : 0 < align) : n ≤ alignUp n align :=
  (isLeast_alignUp n pos).1.2

theorem dvd_alignUp (n align : Nat) : align ∣ alignUp n align :=
  Nat.dvd_mul_left align _

theorem alignUp_le {n m align : Nat} (pos : 0 < align) (hm : align ∣ m) (h : n ≤ m) :
    alignUp n align ≤ m :=
  (isLeast_alignUp n pos).2 ⟨hm, h⟩

theorem alignUp_of_dvd {n align : Nat} (pos : 0 < align) (h : align ∣ n) : alignUp n align = n :=
  Nat.le_antisymm (alignUp_le pos h (Nat.le_refl n)) (le_alignUp n pos)

theorem start_le_stop {members : List Member} (pos : ∀ member ∈ members, 0 < member.type.align)
    (start : Nat) : start ≤ stop start members := by
  induction members generalizing start with
  | nil => exact Nat.le_refl start
  | cons member rest ih =>
      have haligned := le_alignUp start (pos member (by simp))
      have hrest := ih (fun m hm => pos m (by simp [hm])) (alignUp start member.type.align + member.size)
      rw [stop]
      omega

theorem size_le_stop {members : List Member} (pos : ∀ member ∈ members, 0 < member.type.align)
    (start : Nat) {member : Member} (h : member ∈ members) : member.size ≤ stop start members := by
  induction members generalizing start with
  | nil => simp at h
  | cons first rest ih =>
      have hpos : ∀ m ∈ rest, 0 < m.type.align := fun m hm => pos m (by simp [hm])
      rw [stop]
      cases List.mem_cons.mp h with
      | inl heq =>
          subst heq
          have := start_le_stop hpos (alignUp start member.type.align + member.size)
          omega
      | inr hmem => exact ih hpos _ hmem

theorem one_le_strictest (members : List Member) : 1 ≤ strictest members := by
  induction members with
  | nil => exact Nat.le_refl 1
  | cons member rest ih => exact Nat.le_trans ih (Nat.le_max_right _ _)

theorem strictest_dvd {n : Nat} {members : List Member}
    (h : ∀ member ∈ members, member.type.align ∣ n) : strictest members ∣ n := by
  induction members with
  | nil => exact Nat.one_dvd n
  | cons member rest ih =>
      have hfirst := h member (by simp)
      have hrest := ih fun m hm => h m (by simp [hm])
      rw [strictest]
      cases Nat.le_total member.type.align (strictest rest) with
      | inl hle => rwa [Nat.max_eq_right hle]
      | inr hle => rwa [Nat.max_eq_left hle]

end Exact

mutual

/-- Alignments divide that of the widest scalar, so each is a power of two. -/
theorem CType.exact_align_dvd : (type : CType) → type.exact.align ∣ 8
  | .struct layout => Layout.exact_align_dvd layout
  | .int width _ => by cases width <;> simp only [CType.exact, CType.align, Width.size] <;> decide
  | .pointer _ => Nat.dvd_refl 8
  | .void | .float | .double => by decide

theorem Layout.exact_align_dvd : (layout : Layout) → layout.exact.align ∣ 8
  | ⟨_, fields, _, _⟩ => Exact.strictest_dvd (exactMembers_align_dvd fields)

theorem Field.member_align_dvd : (field : Field) → field.member.type.align ∣ 8
  | ⟨_, type, _, _⟩ => CType.exact_align_dvd type

theorem exactMembers_align_dvd : (fields : List Field) → ∀ member ∈ exactMembers fields, member.type.align ∣ 8
  | [], _, h => by simp [exactMembers] at h
  | field :: rest, member, h => by
      rw [exactMembers, List.mem_cons] at h
      cases h with
      | inl heq => rw [heq]; exact Field.member_align_dvd field
      | inr hmem => exact exactMembers_align_dvd rest member hmem

end

theorem CType.exact_align_pos (type : CType) : 0 < type.exact.align :=
  Nat.pos_of_dvd_of_pos type.exact_align_dvd (by decide)

theorem CType.exact_align_dvd_size : (type : CType) → type.exact.align ∣ type.exact.size
  | .struct ⟨_, _, _, _⟩ => Exact.dvd_alignUp _ _
  | .int _ _ | .pointer _ => Nat.dvd_refl _
  | .void | .float | .double => by decide

/-- Elements of an array leave no gaps. -/
theorem Exact.Member.stride_of_type (type : CType) (count : Nat) :
    Member.stride ⟨type.exact, count⟩ = type.exact.size :=
  Exact.alignUp_of_dvd type.exact_align_pos type.exact_align_dvd_size

theorem Field.member_eq (field : Field) : field.member = ⟨field.type.exact, field.count.toNat⟩ := by
  cases field
  rfl

theorem Field.member_align (field : Field) : field.member.type.align = field.type.exact.align := by
  rw [field.member_eq]

theorem exactMembers_eq_map (fields : List Field) : exactMembers fields = fields.map Field.member := by
  induction fields with
  | nil => rfl
  | cons field rest ih => rw [exactMembers, ih, List.map_cons]

/-- What a struct is in unbounded numbers depends on its fields as they were declared. -/
theorem Layout.exact_eq_ofMembers (layout : Layout) :
    layout.exact = Exact.ofMembers (layout.specs.map FieldSpec.member) := by
  obtain ⟨name, fields, size, align⟩ := layout
  rw [Layout.exact, exactMembers_eq_map, Layout.specs, List.map_map]
  congr 1
  apply List.map_congr_left
  intro field _
  exact field.member_eq

end Foreign
