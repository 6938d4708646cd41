import Foreign.Proofs.Word
import Foreign.Proofs.Layout.Exact

/-!
Placing in words gives the exact layout. The placing loop keeps one invariant: the running offset and the
running alignment are those of the reference, and the room up to the end of the address space is enough
for everything that is still to come, so that no rounding wraps and no checked operation faults.
-/

namespace Foreign

theorem Word.toNat_alignUp {value align : Word} (pos : 0 < align.toNat)
    (room : value.toNat + align.toNat ≤ 2 ^ 64) :
    (Word.alignUp value align).toNat = Exact.alignUp value.toNat align.toNat := by
  have hpred : (align - 1).toNat = align.toNat - 1 :=
    UInt64.toNat_sub_of_le align 1 (UInt64.le_iff_toNat_le.mpr pos)
  have htop : (value + (align - 1)).toNat = value.toNat + (align.toNat - 1) := by
    rw [Word.toNat_add_of_lt (by rw [hpred]; omega), hpred]
  have hmod : (value + (align - 1)) % align ≤ value + (align - 1) := by
    rw [UInt64.le_iff_toNat_le, UInt64.toNat_mod]
    exact Nat.mod_le _ _
  rw [Word.alignUp, UInt64.toNat_sub_of_le _ _ hmod, UInt64.toNat_mod, htop, Exact.alignUp,
    Nat.div_mul_self_eq_mod_sub_self]

/-- A multiple of an alignment leaves room for one more step of it before the end of the words. -/
theorem Exact.add_align_le {n align : Nat} (eight : align ∣ 8) (hd : align ∣ n) (lt : n < 2 ^ 64) :
    n + align ≤ 2 ^ 64 := by
  have hall : align ∣ 2 ^ 64 := Nat.dvd_trans eight (by decide)
  have := Nat.le_of_dvd (Nat.sub_pos_of_lt lt) (Nat.dvd_sub hall hd)
  omega

namespace CType

/-- The size and the alignment that a type answers are the exact ones. -/
def IsExact (type : CType) : Prop :=
  type.size.toNat = type.exact.size ∧ type.align.toNat = type.exact.align

theorem isExact_of_not_struct {type : CType} (h : ∀ layout, type ≠ .struct layout) :
    type.IsExact := by
  cases type with
  | struct layout => exact absurd rfl (h layout)
  | void | int _ _ | float | double | pointer _ => exact ⟨rfl, rfl⟩

theorem IsExact.toNat_stride {type : CType} (h : type.IsExact) :
    type.stride.toNat = type.exact.size := by
  have room := Exact.add_align_le type.exact_align_dvd type.exact_align_dvd_size
    (h.1 ▸ type.size.toNat_lt)
  rw [stride, Word.toNat_alignUp (h.2 ▸ type.exact_align_pos) (by rw [h.1, h.2]; exact room),
    h.1, h.2]
  exact Exact.alignUp_of_dvd type.exact_align_pos type.exact_align_dvd_size

end CType

namespace Layout

/-- What is asked of the fields of a struct before they are placed. -/
structure WellFormed (specs : List FieldSpec) : Prop where
  complete : ∀ spec ∈ specs, spec.type ≠ .void
  counted : ∀ spec ∈ specs, spec.count ≠ 0
  distinct : (specs.map (·.name)).Nodup

theorem defect?_eq_none_iff {struct : String} {seen : List String} {spec : FieldSpec} :
    defect? struct seen spec = none ↔
      spec.type ≠ .void ∧ spec.count ≠ 0 ∧ spec.name ∉ seen := by
  have hvoid : spec.type.isVoid = true ↔ spec.type = .void := CType.isVoid_iff
  rw [defect?]
  split
  · simp_all
  · split
    · simp_all
    · split <;> simp_all

theorem place_cons_eq_ok_iff {struct : String} {seen : List String} {offset align : Word}
    {spec : FieldSpec} {rest : List FieldSpec} {placed : Placed} :
    place struct seen offset align (spec :: rest) = .ok placed ↔
      defect? struct seen spec = none ∧ ∃ size stop after,
        Outcome.product spec.type.stride spec.count = .ok size ∧
        Outcome.sum (Word.alignUp offset spec.type.align) size = .ok stop ∧
        place struct (spec.name :: seen) stop (max align spec.type.align) rest = .ok after ∧
        placed = ⟨⟨spec.name, spec.type, spec.count, Word.alignUp offset spec.type.align⟩ ::
          after.fields, after.stop, after.align⟩ := by
  rw [place]
  cases defect? struct seen spec with
  | some cause => simp
  | none =>
      simp only [Outcome.bind_eq_ok_iff, true_and]
      constructor
      · rintro ⟨size, hsize, stop, hstop, after, hafter, heq⟩
        exact ⟨size, stop, after, hsize, hstop, hafter, (Except.ok.inj heq).symm⟩
      · rintro ⟨size, stop, after, hsize, hstop, hafter, rfl⟩
        exact ⟨size, hsize, stop, hstop, after, hafter, rfl⟩

theorem specs_of_place {struct : String} {seen : List String} {offset align : Word}
    {specs : List FieldSpec} {placed : Placed} (h : place struct seen offset align specs = .ok placed) :
    placed.fields.map (fun field => (⟨field.name, field.type, field.count⟩ : FieldSpec)) = specs := by
  induction specs generalizing seen offset align placed with
  | nil => cases h; rfl
  | cons spec rest ih =>
      obtain ⟨-, size, stop, after, -, -, hafter, rfl⟩ := place_cons_eq_ok_iff.mp h
      rw [List.map_cons, ih hafter]

/-- Placing a list goes on where placing its first part has come to. -/
theorem place_append (struct : String) (seen : List String) (offset align : Word)
    (before rest : List FieldSpec) :
    place struct seen offset align (before ++ rest) =
      (do let placed ← place struct seen offset align before
          let after ← place struct ((before.map (·.name)).reverse ++ seen) placed.stop placed.align rest
          return ⟨placed.fields ++ after.fields, after.stop, after.align⟩) := by
  induction before generalizing seen offset align with
  | nil =>
      change _ = place struct seen offset align rest >>= _
      cases h : place struct seen offset align rest with
      | error failure => exact h
      | ok after => exact h
  | cons spec before ih =>
      rw [List.cons_append, place, place]
      cases defect? struct seen spec with
      | some cause => rfl
      | none =>
          rw [List.map_cons, List.reverse_cons, List.append_assoc, List.singleton_append]
          simp only [ih, bind_assoc]
          rfl

theorem wellFormed_of_place {struct : String} {seen : List String} {offset align : Word}
    {specs : List FieldSpec} {placed : Placed} (h : place struct seen offset align specs = .ok placed) :
    WellFormed specs ∧ ∀ spec ∈ specs, spec.name ∉ seen := by
  induction specs generalizing seen offset align placed with
  | nil => exact ⟨⟨by simp, by simp, by simp⟩, by simp⟩
  | cons spec rest ih =>
      obtain ⟨hnone, size, stop, after, -, -, hafter, -⟩ := place_cons_eq_ok_iff.mp h
      obtain ⟨hcomplete, hcounted, hname⟩ := defect?_eq_none_iff.mp hnone
      obtain ⟨hrest, hseen⟩ := ih hafter
      refine ⟨⟨?_, ?_, ?_⟩, ?_⟩
      · exact List.forall_mem_cons.mpr ⟨hcomplete, hrest.complete⟩
      · exact List.forall_mem_cons.mpr ⟨hcounted, hrest.counted⟩
      · rw [List.map_cons, List.nodup_cons]
        refine ⟨?_, hrest.distinct⟩
        intro hmem
        obtain ⟨other, hother, heq⟩ := List.mem_map.mp hmem
        exact hseen other hother (by simp [heq])
      · refine List.forall_mem_cons.mpr ⟨hname, ?_⟩
        intro other hother hmem
        exact hseen other hother (List.mem_cons_of_mem _ hmem)

theorem WellFormed.tail {spec : FieldSpec} {rest : List FieldSpec}
    (h : WellFormed (spec :: rest)) : WellFormed rest where
  complete := (List.forall_mem_cons.mp h.complete).2
  counted := (List.forall_mem_cons.mp h.counted).2
  distinct := (List.nodup_cons.mp h.distinct).2

theorem WellFormed.name_not_mem {spec : FieldSpec} {rest : List FieldSpec}
    (h : WellFormed (spec :: rest)) : ∀ other ∈ rest, other.name ≠ spec.name := by
  intro other hother heq
  exact (List.nodup_cons.mp h.distinct).1 (List.mem_map.mpr ⟨other, hother, heq⟩)

theorem member_align_pos (specs : List FieldSpec) :
    ∀ member ∈ specs.map FieldSpec.member, 0 < member.type.align := by
  intro member hmem
  obtain ⟨spec, -, rfl⟩ := List.mem_map.mp hmem
  exact spec.type.exact_align_pos

theorem step_eq_ok_of_room (offset : Word) {spec : FieldSpec} (agree : spec.type.IsExact)
    (room : Exact.alignUp offset.toNat spec.member.type.align + spec.member.size +
      spec.member.type.align ≤ 2 ^ 64) :
    (Word.alignUp offset spec.type.align).toNat =
        Exact.alignUp offset.toNat spec.member.type.align ∧
      ∃ size stop, Outcome.product spec.type.stride spec.count = .ok size ∧
        Outcome.sum (Word.alignUp offset spec.type.align) size = .ok stop ∧
        stop.toNat = Exact.alignUp offset.toNat spec.member.type.align + spec.member.size := by
  have hpos : 0 < spec.member.type.align := spec.type.exact_align_pos
  have halign : spec.type.align.toNat = spec.member.type.align := agree.2
  have haligned := Exact.le_alignUp offset.toNat hpos
  have hstart : (Word.alignUp offset spec.type.align).toNat =
      Exact.alignUp offset.toNat spec.member.type.align := by
    rw [← halign]
    exact Word.toNat_alignUp (by omega) (by omega)
  have hsize : spec.type.stride.toNat * spec.count.toNat = spec.member.size := by
    rw [agree.toNat_stride, FieldSpec.member, Exact.Member.size, Exact.Member.stride_of_type]
  have hproduct : (spec.type.stride * spec.count).toNat = spec.member.size := by
    rw [Word.toNat_mul_of_lt (by omega), hsize]
  have hsum : (Word.alignUp offset spec.type.align + spec.type.stride * spec.count).toNat =
      Exact.alignUp offset.toNat spec.member.type.align + spec.member.size := by
    rw [Word.toNat_add_of_lt (by omega), hstart, hproduct]
  exact ⟨hstart, _, _, Outcome.product_of_lt (by omega), Outcome.sum_of_lt (by omega), hsum⟩

/-- What the reference has room for is placed without a fault. The induction carries the running offset
and alignment, the names seen, and the room that is left. -/
theorem place_eq_ok_of_room (struct : String) {seen : List String} {offset align : Word}
    {specs : List FieldSpec} (sound : WellFormed specs) (new : ∀ spec ∈ specs, spec.name ∉ seen)
    (agree : ∀ spec ∈ specs, spec.type.IsExact) (one : 1 ≤ align.toNat)
    (room : Exact.stop offset.toNat (specs.map FieldSpec.member) +
      Exact.strictest (specs.map FieldSpec.member) ≤ 2 ^ 64) :
    ∃ placed, place struct seen offset align specs = .ok placed ∧
      placed.fields.map (·.offset.toNat) =
        Exact.offsets offset.toNat (specs.map FieldSpec.member) ∧
      placed.stop.toNat = Exact.stop offset.toNat (specs.map FieldSpec.member) ∧
      placed.align.toNat = max align.toNat (Exact.strictest (specs.map FieldSpec.member)) := by
  induction specs generalizing seen offset align with
  | nil => exact ⟨⟨[], offset, align⟩, rfl, rfl, rfl, (Nat.max_eq_left one).symm⟩
  | cons spec rest ih =>
      rw [List.map_cons, Exact.stop, Exact.strictest] at room
      have hnext := Exact.start_le_stop (member_align_pos rest)
        (Exact.alignUp offset.toNat spec.member.type.align + spec.member.size)
      obtain ⟨hstart, size, stop, hproduct, hsum, hstop⟩ :=
        step_eq_ok_of_room offset (agree spec (by simp)) (by omega)
      have hmax : (max align spec.type.align).toNat = max align.toNat spec.member.type.align := by
        rw [Word.toNat_max, (agree spec (by simp)).2]
        rfl
      have hnew : ∀ other ∈ rest, other.name ∉ spec.name :: seen := by
        intro other hother hmem
        cases List.mem_cons.mp hmem with
        | inl heq => exact sound.name_not_mem other hother heq
        | inr hseen => exact new other (by simp [hother]) hseen
      have hone : 1 ≤ (max align spec.type.align).toNat := by omega
      -- The rest starts where this field stops, and the reference counted that in already.
      have hroom : Exact.stop stop.toNat (rest.map FieldSpec.member) +
          Exact.strictest (rest.map FieldSpec.member) ≤ 2 ^ 64 := by rw [hstop]; omega
      obtain ⟨after, hafter, hoffsets, hend, hstrictest⟩ :=
        ih sound.tail hnew (fun other hother => agree other (by simp [hother])) hone hroom
      rw [hstop] at hoffsets hend
      refine ⟨_, place_cons_eq_ok_iff.mpr ⟨?_, size, stop, after, hproduct, hsum, hafter, rfl⟩,
        ?_, ?_, ?_⟩
      · exact defect?_eq_none_iff.mpr
          ⟨sound.complete spec (by simp), sound.counted spec (by simp), new spec (by simp)⟩
      · rw [List.map_cons, List.map_cons, Exact.offsets, hoffsets, hstart]
      · rw [List.map_cons, Exact.stop, hend]
      · rw [List.map_cons, Exact.strictest, hstrictest, hmax, Nat.max_assoc]

theorem compute_eq_ok_iff {name : String} {specs : List FieldSpec} {layout : Layout} :
    compute name specs = .ok layout ↔ ∃ placed, place name [] 0 1 specs = .ok placed ∧
      layout = ⟨name, placed.fields, Word.alignUp placed.stop placed.align, placed.align⟩ := by
  rw [compute, Outcome.bind_eq_ok_iff]
  constructor
  · rintro ⟨placed, hplaced, heq⟩
    exact ⟨placed, hplaced, (Except.ok.inj heq).symm⟩
  · rintro ⟨placed, hplaced, rfl⟩
    exact ⟨placed, hplaced, rfl⟩

theorem specs_of_compute {name : String} {specs : List FieldSpec} {layout : Layout}
    (h : compute name specs = .ok layout) : layout.specs = specs := by
  obtain ⟨placed, hplaced, rfl⟩ := compute_eq_ok_iff.mp h
  exact specs_of_place hplaced

theorem wellFormed_of_compute {name : String} {specs : List FieldSpec} {layout : Layout}
    (h : compute name specs = .ok layout) : WellFormed specs := by
  obtain ⟨placed, hplaced, -⟩ := compute_eq_ok_iff.mp h
  exact (wellFormed_of_place hplaced).1

/-- The layout of a struct that fits is the exact one, provided that the structs in it are exact. -/
theorem compute_eq_ok_of_exact (name : String) {specs : List FieldSpec} (sound : WellFormed specs)
    (agree : ∀ spec ∈ specs, spec.type.IsExact)
    (fits : (Exact.ofMembers (specs.map FieldSpec.member)).size < 2 ^ 64) :
    ∃ layout, compute name specs = .ok layout ∧ layout.name = name ∧
      layout.fields.map (·.offset.toNat) = Exact.offsets 0 (specs.map FieldSpec.member) ∧
      layout.size.toNat = (Exact.ofMembers (specs.map FieldSpec.member)).size ∧
      layout.align.toNat = (Exact.ofMembers (specs.map FieldSpec.member)).align := by
  have hone := Exact.one_le_strictest (specs.map FieldSpec.member)
  have eight : Exact.strictest (specs.map FieldSpec.member) ∣ 8 := by
    apply Exact.strictest_dvd
    intro member hmem
    obtain ⟨spec, -, rfl⟩ := List.mem_map.mp hmem
    exact spec.type.exact_align_dvd
  have hroom := Exact.add_align_le eight (Exact.dvd_alignUp _ _) fits
  have hle := Exact.le_alignUp (Exact.stop 0 (specs.map FieldSpec.member)) hone
  have hnew : ∀ spec ∈ specs, spec.name ∉ ([] : List String) := fun _ _ => List.not_mem_nil
  have hstart : Exact.stop (0 : Word).toNat (specs.map FieldSpec.member) +
      Exact.strictest (specs.map FieldSpec.member) ≤ 2 ^ 64 := by rw [UInt64.toNat_zero]; omega
  obtain ⟨placed, hplaced, hoffsets, hstop, halign⟩ :=
    place_eq_ok_of_room name sound hnew agree (Nat.le_refl (1 : Word).toNat) hstart
  rw [UInt64.toNat_zero] at hoffsets hstop
  rw [UInt64.toNat_one, Nat.max_eq_right hone] at halign
  refine ⟨_, compute_eq_ok_iff.mpr ⟨placed, hplaced, rfl⟩, rfl, hoffsets, ?_, halign⟩
  change (Word.alignUp placed.stop placed.align).toNat = _
  rw [Word.toNat_alignUp (by omega) (by omega), hstop, halign, Exact.ofMembers]

theorem exact_size_le {specs : List FieldSpec} (sound : WellFormed specs) {spec : FieldSpec}
    (h : spec ∈ specs) :
    spec.type.exact.size ≤ (Exact.ofMembers (specs.map FieldSpec.member)).size := by
  have hcount : 1 ≤ spec.count.toNat := by
    have := sound.counted spec h
    rw [ne_eq, ← UInt64.toNat_inj] at this
    exact Nat.one_le_iff_ne_zero.mpr this
  calc spec.type.exact.size
      ≤ spec.type.exact.size * spec.count.toNat := Nat.le_mul_of_pos_right _ hcount
    _ = spec.member.size := by
        rw [FieldSpec.member, Exact.Member.size, Exact.Member.stride_of_type]
    _ ≤ Exact.stop 0 (specs.map FieldSpec.member) :=
        Exact.size_le_stop (member_align_pos specs) 0 (List.mem_map_of_mem h)
    _ ≤ (Exact.ofMembers (specs.map FieldSpec.member)).size :=
        Exact.le_alignUp _ (Exact.one_le_strictest _)

/-- Layouts that placing gives, with the structs that lie in them. What a pointer leads to is not asked. -/
inductive Built : Layout → Prop
  | placed {name : String} {specs : List FieldSpec} {layout : Layout}
      (inner : ∀ spec ∈ specs, ∀ nested, spec.type = .struct nested → Built nested)
      (computed : compute name specs = .ok layout) : Built layout

end Layout

/-- A type whose struct, if it is one, was placed. -/
def CType.Built (type : CType) : Prop :=
  ∀ layout, type = .struct layout → layout.Built

/-- Induction over the structs within structs: a property of all types but structs, which a struct has if
the types of its fields have it. -/
theorem CType.Built.induction {P : CType → Prop}
    (plain : ∀ type : CType, (∀ layout, type ≠ .struct layout) → P type)
    (struct : ∀ name specs layout, (∀ spec ∈ specs, spec.type.Built ∧ P spec.type) →
      Layout.compute name specs = .ok layout → P (.struct layout))
    {type : CType} (built : type.Built) : P type := by
  have hlayout : ∀ layout : Layout, layout.Built → P (.struct layout) := by
    intro layout built
    induction built with
    | placed inner computed ih =>
        refine struct _ _ _ (fun spec hspec => ⟨inner spec hspec, ?_⟩) computed
        by_cases h : ∃ nested, spec.type = .struct nested
        · obtain ⟨nested, hnested⟩ := h
          rw [hnested]
          exact ih spec hspec nested hnested
        · exact plain _ (not_exists.mp h)
  by_cases h : ∃ layout, type = .struct layout
  · obtain ⟨layout, rfl⟩ := h
    exact hlayout layout (built layout rfl)
  · exact plain _ (not_exists.mp h)

namespace Layout

/-- By induction over the structs within structs: where the exact size fits a word, nothing has wrapped. -/
theorem Built.isExact {layout : Layout} (built : layout.Built) (fits : layout.exact.size < 2 ^ 64) :
    (CType.struct layout).IsExact := by
  induction built with
  | @placed name specs layout inner computed ih =>
      have sound := wellFormed_of_compute computed
      have hexact : layout.exact = Exact.ofMembers (specs.map FieldSpec.member) := by
        rw [exact_eq_ofMembers, specs_of_compute computed]
      rw [hexact] at fits
      have agree : ∀ spec ∈ specs, spec.type.IsExact := by
        intro spec hspec
        by_cases h : ∃ nested, spec.type = .struct nested
        · obtain ⟨nested, hnested⟩ := h
          have hle := exact_size_le sound hspec
          rw [hnested] at hle ⊢
          exact ih spec hspec nested hnested (Nat.lt_of_le_of_lt hle fits)
        · exact CType.isExact_of_not_struct (not_exists.mp h)
      obtain ⟨other, hother, -, -, hsize, halign⟩ := compute_eq_ok_of_exact name sound agree fits
      obtain rfl := Except.ok.inj (computed.symm.trans hother)
      rw [← hexact] at hsize halign
      exact ⟨hsize, halign⟩

end Layout

theorem CType.Built.isExact {type : CType} (built : type.Built) (fits : type.exact.size < 2 ^ 64) :
    type.IsExact := by
  by_cases h : ∃ layout, type = .struct layout
  · obtain ⟨layout, rfl⟩ := h
    exact Layout.Built.isExact (built layout rfl) fits
  · exact CType.isExact_of_not_struct (not_exists.mp h)

namespace Layout

/-- Each field starts at the first multiple of its alignment that is not before the end of the field in
front of it; the first field has `start` in front of it. -/
def Consecutive (start : Nat) : List Field → Prop
  | [] => True
  | field :: rest =>
      IsLeast {n | field.type.exact.align ∣ n ∧ start ≤ n} field.offset.toNat ∧
      Consecutive (field.offset.toNat + field.member.size) rest

theorem consecutive_of_offsets {start : Nat} {fields : List Field}
    (h : fields.map (·.offset.toNat) = Exact.offsets start (fields.map Field.member)) :
    Consecutive start fields := by
  induction fields generalizing start with
  | nil => trivial
  | cons field rest ih =>
      rw [List.map_cons, List.map_cons, Exact.offsets, List.cons.injEq] at h
      obtain ⟨hoffset, hrest⟩ := h
      refine ⟨?_, ih (hoffset ▸ hrest)⟩
      rw [hoffset, field.member_align]
      exact Exact.isLeast_alignUp start field.type.exact_align_pos

theorem Consecutive.offset_eq {start : Nat} {field : Field} {rest : List Field}
    (h : Consecutive start (field :: rest)) :
    field.offset.toNat = Exact.alignUp start field.member.type.align := by
  rw [field.member_align]
  exact h.1.unique (Exact.isLeast_alignUp start field.type.exact_align_pos)

theorem align_pos_of_mem_members (fields : List Field) :
    ∀ member ∈ fields.map Field.member, 0 < member.type.align := by
  intro member mem
  obtain ⟨field, -, rfl⟩ := List.mem_map.mp mem
  rw [field.member_align]
  exact field.type.exact_align_pos

theorem member_size_of_isExact {field : Field} (agree : field.type.IsExact) :
    field.member.size = field.type.stride.toNat * field.count.toNat := by
  rw [field.member_eq, Exact.Member.size, Exact.Member.stride_of_type, agree.toNat_stride]

theorem member_specs (layout : Layout) :
    layout.specs.map FieldSpec.member = layout.fields.map Field.member := by
  rw [specs, List.map_map]
  apply List.map_congr_left
  intro field _
  exact field.member_eq.symm

theorem field?_of_mem {layout : Layout} (distinct : (layout.fields.map (·.name)).Nodup) {field : Field}
    (h : field ∈ layout.fields) : layout.field? field.name = some field := by
  rw [field?]
  generalize layout.fields = fields at distinct h
  induction fields with
  | nil => simp at h
  | cons first rest ih =>
      obtain ⟨hfirst, hrest⟩ := List.nodup_cons.mp distinct
      cases List.mem_cons.mp h with
      | inl heq => simp [heq]
      | inr hmem =>
          have hne : first.name ≠ field.name := by
            intro heq
            exact hfirst (List.mem_map.mpr ⟨field, hmem, heq.symm⟩)
          rw [List.find?_cons_of_neg (by simpa using hne)]
          exact ih hrest hmem

theorem WellFormed.field?_of_mem {layout : Layout} (sound : WellFormed layout.specs) {field : Field}
    (h : field ∈ layout.fields) : layout.field? field.name = some field := by
  apply Layout.field?_of_mem _ h
  have := sound.distinct
  rwa [specs, List.map_map] at this

theorem name_of_compute {name : String} {specs : List FieldSpec} {layout : Layout}
    (h : compute name specs = .ok layout) : layout.name = name := by
  obtain ⟨placed, -, rfl⟩ := compute_eq_ok_iff.mp h
  rfl

/-- A layout that was placed is placed again from its own fields. -/
theorem Built.compute_specs {layout : Layout} (built : layout.Built) :
    compute layout.name layout.specs = .ok layout ∧ ∀ spec ∈ layout.specs, spec.type.Built := by
  cases built with
  | placed inner computed =>
      rw [specs_of_compute computed, name_of_compute computed]
      exact ⟨computed, inner⟩

theorem isExact_of_built {specs : List FieldSpec} (sound : WellFormed specs)
    (built : ∀ spec ∈ specs, spec.type.Built)
    (fits : (Exact.ofMembers (specs.map FieldSpec.member)).size < 2 ^ 64) :
    ∀ spec ∈ specs, spec.type.IsExact := by
  intro spec hspec
  exact (built spec hspec).isExact (Nat.lt_of_le_of_lt (exact_size_le sound hspec) fits)

theorem mem_specs {layout : Layout} {field : Field} (h : field ∈ layout.fields) :
    ⟨field.name, field.type, field.count⟩ ∈ layout.specs :=
  List.mem_map.mpr ⟨field, h, rfl⟩

theorem Built.counted {layout : Layout} (built : layout.Built) :
    ∀ field ∈ layout.fields, field.count ≠ 0 := by
  intro field hfield
  exact (wellFormed_of_compute built.compute_specs.1).counted _ (mem_specs hfield)

theorem Built.complete {layout : Layout} (built : layout.Built) :
    ∀ field ∈ layout.fields, field.type ≠ .void := by
  intro field hfield
  exact (wellFormed_of_compute built.compute_specs.1).complete _ (mem_specs hfield)

theorem Built.exact_fields {layout : Layout} (built : layout.Built) (fits : layout.exact.size < 2 ^ 64) :
    ∀ field ∈ layout.fields, field.type.IsExact := by
  intro field hfield
  obtain ⟨computed, inner⟩ := built.compute_specs
  rw [exact_eq_ofMembers] at fits
  exact isExact_of_built (wellFormed_of_compute computed) inner fits _ (mem_specs hfield)

theorem Built.consecutive {layout : Layout} (built : layout.Built) (fits : layout.exact.size < 2 ^ 64) :
    Consecutive 0 layout.fields := by
  obtain ⟨computed, inner⟩ := built.compute_specs
  have sound := wellFormed_of_compute computed
  rw [exact_eq_ofMembers] at fits
  obtain ⟨other, hother, -, hoffsets, -, -⟩ :=
    compute_eq_ok_of_exact layout.name sound (isExact_of_built sound inner fits) fits
  obtain rfl := Except.ok.inj (computed.symm.trans hother)
  rw [member_specs] at hoffsets
  exact consecutive_of_offsets hoffsets

/-- Placing well-formed fields gives the C layout, computed without bounds, whenever that fits a word. The
structs in the fields have to be results of placing; they fit if the struct around them does. -/
theorem compute_exact (name : String) {specs : List FieldSpec} (sound : WellFormed specs)
    (built : ∀ spec ∈ specs, spec.type.Built)
    (fits : (Exact.ofMembers (specs.map FieldSpec.member)).size < 2 ^ 64) :
    ∃ layout, compute name specs = .ok layout ∧ layout.name = name ∧ layout.specs = specs ∧
      layout.fields.map (·.offset.toNat) = Exact.offsets 0 (specs.map FieldSpec.member) ∧
      Consecutive 0 layout.fields ∧
      layout.size.toNat = (Exact.ofMembers (specs.map FieldSpec.member)).size ∧
      layout.align.toNat = (Exact.ofMembers (specs.map FieldSpec.member)).align ∧
      IsLeast {n | layout.align.toNat ∣ n ∧ Exact.stop 0 (specs.map FieldSpec.member) ≤ n}
        layout.size.toNat ∧
      ∀ field ∈ layout.fields, layout.field? field.name = some field := by
  obtain ⟨layout, hcompute, hname, hoffsets, hsize, halign⟩ :=
    compute_eq_ok_of_exact name sound (isExact_of_built sound built fits) fits
  have hspecs := specs_of_compute hcompute
  refine ⟨layout, hcompute, hname, hspecs, hoffsets, ?_, hsize, halign, ?_, ?_⟩
  · apply consecutive_of_offsets
    rw [hoffsets, ← hspecs, member_specs]
  · rw [hsize, halign]
    exact Exact.isLeast_alignUp _ (Exact.one_le_strictest _)
  · intro field hfield
    exact WellFormed.field?_of_mem (hspecs ▸ sound) hfield

/-- A byte in front of a wider number. -/
def samplePair : Layout :=
  ⟨"pair", [⟨"low", .int .w8 true, 1, 0⟩, ⟨"high", .int .w32 true, 1, 4⟩], 8, 4⟩

def sampleSpecs : List FieldSpec :=
  [⟨"tag", .int .w16 true, 1⟩, ⟨"pairs", .struct samplePair, 3⟩, ⟨"weight", .double, 1⟩]

theorem samplePair_built : samplePair.Built := by
  have computed : compute "pair" [⟨"low", .int .w8 true, 1⟩, ⟨"high", .int .w32 true, 1⟩] =
      .ok samplePair := by rfl
  refine .placed ?_ computed
  simp

theorem sampleSpecs_built : ∀ spec ∈ sampleSpecs, spec.type.Built := by
  intro spec hspec layout hlayout
  simp only [sampleSpecs, List.mem_cons, List.not_mem_nil, or_false] at hspec
  obtain rfl | rfl | rfl := hspec
  · cases hlayout
  · exact (CType.struct.inj hlayout) ▸ samplePair_built
  · cases hlayout

/-- An array of structs between scalars: offsets 0, 4 and 32, size 40. -/
theorem compute_exact_sample :
    WellFormed sampleSpecs ∧ (∀ spec ∈ sampleSpecs, spec.type.Built) ∧
      (Exact.ofMembers (sampleSpecs.map FieldSpec.member)).size < 2 ^ 64 ∧
      ∃ layout, compute "sample" sampleSpecs = .ok layout ∧
        layout.fields.map (·.offset.toNat) = [0, 4, 32] ∧
        layout.size.toNat = 40 ∧ layout.align.toNat = 8 := by
  have sound : WellFormed sampleSpecs := ⟨by simp [sampleSpecs], by simp [sampleSpecs], by decide⟩
  have fits : (Exact.ofMembers (sampleSpecs.map FieldSpec.member)).size < 2 ^ 64 := by decide
  obtain ⟨layout, hcompute, -, -, hoffsets, -, hsize, halign, -, -⟩ :=
    compute_exact "sample" sound sampleSpecs_built fits
  exact ⟨sound, sampleSpecs_built, fits, layout, hcompute, hoffsets, hsize, halign⟩

end Layout
end Foreign
