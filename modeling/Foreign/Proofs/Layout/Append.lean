import Foreign.Proofs.Layout.Cells
import Foreign.Proofs.Layout.Wrapping
import Foreign.Proofs.View.Strategy

/-!
Appending fields to a struct. Placing does not look ahead, so the fields that were there stay where they are,
whatever comes behind them. While nothing wraps, the new fields come behind the old ones and the struct grows in
size and in alignment. What is in front of the new fields is then the same in every struct that starts with it,
and is found through a view of one of them as through a view of the other.
-/

namespace Foreign

namespace Exact

theorem stop_append (start : Nat) (before rest : List Member) :
    stop start (before ++ rest) = stop (stop start before) rest := by
  induction before generalizing start with
  | nil => rfl
  | cons member before ih => exact ih _

theorem strictest_append (before rest : List Member) :
    strictest (before ++ rest) = max (strictest before) (strictest rest) := by
  induction before with
  | nil => exact (Nat.max_eq_right (one_le_strictest rest)).symm
  | cons member before ih => rw [List.cons_append, strictest, ih, strictest, Nat.max_assoc]

/-- Rounding up grows with what is rounded, and with the alignment as long as that grows by multiples. -/
theorem alignUp_mono {n m a b : Nat} (pos : 0 < b) (multiple : a ∣ b) (le : n ≤ m) :
    alignUp n a ≤ alignUp m b :=
  alignUp_le (Nat.pos_of_dvd_of_pos multiple pos) (Nat.dvd_trans multiple (dvd_alignUp m b))
    (Nat.le_trans le (le_alignUp m pos))

theorem ofMembers_append_le {before rest : List Member}
    (eight : ∀ member ∈ before ++ rest, member.type.align ∣ 8) :
    (ofMembers before).align ≤ (ofMembers (before ++ rest)).align ∧
      (ofMembers before).size ≤ (ofMembers (before ++ rest)).size := by
  have pos : ∀ member ∈ rest, 0 < member.type.align := fun member hmem =>
    Nat.pos_of_dvd_of_pos (eight member (List.mem_append_right _ hmem)) (by decide)
  have halign : strictest before ≤ strictest (before ++ rest) := by
    rw [strictest_append]
    exact Nat.le_max_left _ _
  have hstop : stop 0 before ≤ stop 0 (before ++ rest) := by
    rw [stop_append]
    exact start_le_stop pos _
  have multiple : strictest before ∣ strictest (before ++ rest) :=
    align_dvd_of_le (strictest_dvd fun member hmem => eight member (List.mem_append_left _ hmem))
      (strictest_dvd eight) halign
  exact ⟨halign, alignUp_mono (one_le_strictest _) multiple hstop⟩

end Exact

namespace Layout

variable {struct : String} {seen : List String} {offset align : Word} {specs : List FieldSpec}
  {placed : Placed}

/-- The name of a struct is only looked at to report a field. -/
theorem place_of_renamed (other : String) (h : place struct seen offset align specs = .ok placed) :
    place other seen offset align specs = .ok placed := by
  induction specs generalizing seen offset align placed with
  | nil => exact h
  | cons spec rest ih =>
      obtain ⟨sound, size, stop, after, hsize, hstop, hafter, hplaced⟩ := place_cons_eq_ok_iff.mp h
      have renamed : defect? other seen spec = none := defect?_eq_none_iff.mpr (defect?_eq_none_iff.mp sound)
      exact place_cons_eq_ok_iff.mpr ⟨renamed, size, stop, after, hsize, hstop, ih hafter, hplaced⟩

theorem place_append_eq_ok_iff {before rest : List FieldSpec} :
    place struct seen offset align (before ++ rest) = .ok placed ↔
      ∃ front after, place struct seen offset align before = .ok front ∧
        place struct ((before.map (·.name)).reverse ++ seen) front.stop front.align rest = .ok after ∧
        placed = ⟨front.fields ++ after.fields, after.stop, after.align⟩ := by
  rw [place_append]
  simp only [Outcome.bind_eq_ok_iff]
  constructor
  · rintro ⟨front, hfront, after, hafter, heq⟩
    exact ⟨front, after, hfront, hafter, (Except.ok.inj heq).symm⟩
  · rintro ⟨front, after, hfront, hafter, rfl⟩
    exact ⟨front, hfront, after, hafter, rfl⟩

theorem Behind.start_le {start : Nat} {fields : List Field} (behind : Behind start fields) :
    ∀ field ∈ fields, start ≤ field.offset.toNat := by
  induction fields generalizing start with
  | nil => simp
  | cons first rest ih =>
      obtain ⟨hfirst, hrest⟩ := behind
      refine List.forall_mem_cons.mpr ⟨hfirst, fun field hfield => ?_⟩
      have hstop : first.offset.toNat ≤ first.stop := Nat.le_add_right _ _
      exact Nat.le_trans hfirst (Nat.le_trans hstop (ih hrest field hfield))

/-- The alignment is always the exact one over what the field types answer, the size is it when it fits. -/
theorem toNat_of_compute {name : String} {layout : Layout} (aligned : ∀ spec ∈ specs, spec.type.Aligned)
    (computed : compute name specs = .ok layout)
    (fits : (Exact.ofMembers (specs.map FieldSpec.stated)).size < 2 ^ 64) :
    layout.align.toNat = (Exact.ofMembers (specs.map FieldSpec.stated)).align ∧
      layout.size.toNat = (Exact.ofMembers (specs.map FieldSpec.stated)).size := by
  obtain ⟨placed, hplaced, rfl⟩ := compute_eq_ok_iff.mp computed
  have one := Exact.one_le_strictest (specs.map FieldSpec.stated)
  have halign : placed.align.toNat = Exact.strictest (specs.map FieldSpec.stated) := by
    rw [align_of_place hplaced (Nat.le_refl 1), UInt64.toNat_one, Nat.max_eq_right one]
  have eight : placed.align.toNat ∣ 8 := halign ▸ strictest_stated_dvd aligned
  have near := Nat.lt_of_le_of_lt (Exact.le_alignUp _ one) fits
  obtain ⟨hstop, -⟩ := stop_of_behind hplaced aligned ((behind_of_place_iff hplaced aligned).mpr near)
  rw [UInt64.toNat_zero] at hstop
  refine ⟨halign, ?_⟩
  change (Word.alignUp placed.stop placed.align).toNat = Exact.alignUp _ _
  obtain ⟨-, hexact⟩ | ⟨hover, -, -⟩ := Word.alignUp_exact_or_zero placed.stop eight
  · rw [hexact, hstop, halign]
  · -- the last rounding would have crossed the end of the words
    rw [hstop, halign] at hover
    exact absurd fits (Nat.not_lt.mpr hover)

theorem align_stated_dvd (aligned : ∀ spec ∈ specs, spec.type.Aligned) :
    ∀ member ∈ specs.map FieldSpec.stated, member.type.align ∣ 8 := by
  intro member hmem
  obtain ⟨spec, hspec, rfl⟩ := List.mem_map.mp hmem
  exact (aligned spec hspec).eight

/-- Fields that are placed from where others stop come behind each of them, as long as nothing wraps. -/
theorem parted_of_place {before rest : List FieldSpec} {front after : Placed} {seen' : List String}
    {align' : Word} (aligned : ∀ spec ∈ before ++ rest, spec.type.Aligned)
    (near : Exact.stop offset.toNat (before.map FieldSpec.stated ++ rest.map FieldSpec.stated) < 2 ^ 64)
    (hfront : place struct seen offset align before = .ok front)
    (hafter : place struct seen' front.stop align' rest = .ok after) :
    ∀ field ∈ front.fields, ∀ later ∈ after.fields, field.stop ≤ later.offset.toNat := by
  obtain ⟨alignedFront, alignedRest⟩ := List.forall_mem_append.mp aligned
  rw [Exact.stop_append] at near
  have nearer := Nat.lt_of_le_of_lt (Exact.start_le_stop (align_stated_pos alignedRest) _) near
  obtain ⟨hend, inside⟩ := stop_of_behind hfront alignedFront
    ((behind_of_place_iff hfront alignedFront).mpr nearer)
  have behind : Behind front.stop.toNat after.fields := by
    rw [behind_of_place_iff hafter alignedRest, hend]
    exact near
  intro field hfield later hlater
  exact Nat.le_trans (inside field hfield) (behind.start_le later hlater)

/-- What becomes of a struct when fields are appended to it. -/
structure Extends (front longer : Layout) : Prop where
  fields : front.fields <+: longer.fields
  align : front.align ≤ longer.align
  size : front.size ≤ longer.size
  behind : ∀ field ∈ front.fields, ∀ later ∈ longer.fields.drop front.fields.length,
    field.stop ≤ later.offset.toNat

theorem exists_extends {name : String} {xs ys : List FieldSpec} {layout : Layout}
    (built : ∀ spec ∈ xs ++ ys, spec.type.Built) (computed : compute name (xs ++ ys) = .ok layout)
    (fits : (Exact.ofMembers ((xs ++ ys).map FieldSpec.stated)).size < 2 ^ 64) :
    ∃ front, compute name xs = .ok front ∧ front.Extends layout := by
  have aligned : ∀ spec ∈ xs ++ ys, spec.type.Aligned := fun spec hspec => (built spec hspec).aligned
  have eight := align_stated_dvd aligned
  obtain ⟨hlayoutAlign, hlayoutSize⟩ := toNat_of_compute aligned computed fits
  rw [List.map_append] at fits eight hlayoutAlign hlayoutSize
  obtain ⟨halign, hsize⟩ := Exact.ofMembers_append_le eight
  have near : Exact.stop (0 : Word).toNat (xs.map FieldSpec.stated ++ ys.map FieldSpec.stated) < 2 ^ 64 :=
    Nat.lt_of_le_of_lt (Exact.le_alignUp _ (Exact.one_le_strictest _)) fits
  obtain ⟨placed, hplaced, rfl⟩ := compute_eq_ok_iff.mp computed
  obtain ⟨front, after, hfront, hafter, rfl⟩ := place_append_eq_ok_iff.mp hplaced
  have hcompute := compute_eq_ok_iff.mpr ⟨front, hfront, rfl⟩
  obtain ⟨hfrontAlign, hfrontSize⟩ := toNat_of_compute (List.forall_mem_append.mp aligned).1 hcompute
    (Nat.lt_of_le_of_lt hsize fits)
  refine ⟨_, hcompute, List.prefix_append _ _, ?_, ?_, ?_⟩
  · rw [UInt64.le_iff_toNat_le, hfrontAlign, hlayoutAlign]
    exact halign
  · rw [UInt64.le_iff_toNat_le, hfrontSize, hlayoutSize]
    exact hsize
  · rw [List.drop_left]
    exact parted_of_place aligned near hfront hafter

/-- The first fields are the same in each struct that starts with them. -/
theorem prefix_of_compute {name other : String} {xs zs : List FieldSpec} {front longer : Layout}
    (hfront : compute name xs = .ok front) (computed : compute other (xs ++ zs) = .ok longer) :
    front.fields <+: longer.fields := by
  obtain ⟨placed, hplaced, rfl⟩ := compute_eq_ok_iff.mp hfront
  obtain ⟨all, hall, rfl⟩ := compute_eq_ok_iff.mp computed
  obtain ⟨first, after, hfirst, -, rfl⟩ := place_append_eq_ok_iff.mp hall
  cases (place_of_renamed other hplaced).symm.trans hfirst
  exact List.prefix_append _ _

end Layout

namespace View

variable {view : View} {layout : Layout} {field : Field}

theorem field_of_mem {name : String} {specs : List FieldSpec}
    (computed : Layout.compute name specs = .ok layout) (mem : field ∈ layout.fields) (deep : view.Deep)
    (declared : view.element = .struct layout) :
    view.field field.name =
      (Outcome.sum view.address field.offset).map (view.derive · field.type) := by
  have sound : Layout.WellFormed layout.specs :=
    Layout.specs_of_compute computed ▸ Layout.wellFormed_of_compute computed
  have found : layout.fields.find? (·.name == field.name) = some field :=
    Layout.WellFormed.field?_of_mem sound mem
  rw [field_of_struct deep declared, found]
  dsimp only
  cases Outcome.sum view.address field.offset <;> rfl

theorem derive_cast (type : CType) (address : Word) (element : CType) :
    (view.cast type).derive address element = view.derive address element := by
  simp only [View.cast, derive, share_share]

end View

namespace Layout

/-- Appending fields to a struct leaves the fields that are there as they are and where they are, with the new
ones behind them, and makes the struct no smaller and no less aligned, as long as the struct fits, over the sizes
that the field types answer. So of two structs that start with the same fields, a view of one, retyped as the
other, has each of these fields at the same address and of the same type, as the very view that it had. -/
theorem extends_of_append {name : String} {xs ys : List FieldSpec} {layout : Layout}
    (built : ∀ spec ∈ xs ++ ys, spec.type.Built) (computed : compute name (xs ++ ys) = .ok layout)
    (fits : (Exact.ofMembers ((xs ++ ys).map FieldSpec.stated)).size < 2 ^ 64) :
    ∃ front, compute name xs = .ok front ∧ front.specs = xs ∧ front.Extends layout ∧
      ∀ other zs longer, compute other (xs ++ zs) = .ok longer →
        ∀ view : View, view.Deep → view.element = .struct layout → ∀ field ∈ front.fields,
          view.field field.name =
              (Outcome.sum view.address field.offset).map (view.derive · field.type) ∧
            (view.cast (.struct longer)).field field.name = view.field field.name := by
  obtain ⟨front, hfront, extended⟩ := exists_extends built computed fits
  refine ⟨front, hfront, specs_of_compute hfront, extended, ?_⟩
  intro other zs longer hlonger view deep declared field hfield
  have own := View.field_of_mem computed (extended.fields.subset hfield) deep declared
  have direct : (view.cast (.struct longer)).Deep := View.deep_of_direct rfl
  have shared := View.field_of_mem hlonger ((prefix_of_compute hfront hlonger).subset hfield) direct rfl
  simp only [View.derive_cast] at shared
  exact ⟨own, shared.trans own.symm⟩

def sampleNext : FieldSpec :=
  ⟨"next", .pointer .void, 1⟩

/-- Pairs in a list, and pairs with flags behind them: the wider number is where it is in a pair. -/
theorem extends_of_append_pair :
    (∀ spec ∈ samplePair.specs ++ [sampleNext], spec.type.Built) ∧
      (Exact.ofMembers ((samplePair.specs ++ [sampleNext]).map FieldSpec.stated)).size < 2 ^ 64 ∧
      ∃ node tagged, compute "pair" (samplePair.specs ++ [sampleNext]) = .ok node ∧
        compute "tagged" (samplePair.specs ++ [⟨"flags", .int .w16 false, 1⟩]) = .ok tagged ∧
        samplePair.Extends node ∧
        ((View.wrap 4096 (.struct node)).cast (.struct tagged)).field "high" =
          .ok (View.wrap 4100 (.int .w32 true)) := by
  have built : ∀ spec ∈ samplePair.specs ++ [sampleNext], spec.type.Built := by
    simp [samplePair, sampleNext, specs, CType.Built]
  have fits : (Exact.ofMembers ((samplePair.specs ++ [sampleNext]).map FieldSpec.stated)).size < 2 ^ 64 := by
    decide
  obtain ⟨node, hnode⟩ : ∃ node, compute "pair" (samplePair.specs ++ [sampleNext]) = .ok node := ⟨_, rfl⟩
  obtain ⟨tagged, htagged⟩ :
      ∃ tagged, compute "tagged" (samplePair.specs ++ [⟨"flags", .int .w16 false, 1⟩]) = .ok tagged :=
    ⟨_, rfl⟩
  obtain ⟨front, hfront, -, extended, shared⟩ := extends_of_append built hnode fits
  obtain rfl : samplePair = front := Except.ok.inj (samplePair_built.compute_specs.1.symm.trans hfront)
  obtain ⟨own, same⟩ := shared "tagged" _ tagged htagged (View.wrap 4096 (.struct node))
    (View.deep_of_direct rfl) rfl ⟨"high", .int .w32 true, 1, 4⟩ (by simp [samplePair])
  exact ⟨built, fits, node, tagged, hnode, htagged, extended, same.trans own⟩

end Layout
end Foreign
