import Mathlib.Data.List.Induction
import Mathlib.Data.List.Nodup
import Foreign.Proofs.Layout.Placement

/-!
Why fields are not placed. The first field that is malformed is reported, with what is wrong with it first in
a fixed order, and nothing behind it is looked at. In front of it, or where no field is malformed, placing can
only fault, which it does at the first field that is too large or ends too far on.
-/

namespace Foreign.Layout

/-- What a field must not be, behind others. -/
def Malformed (before : List FieldSpec) (spec : FieldSpec) : Prop :=
  spec.type = .void ∨ spec.count = 0 ∨ spec.name ∈ before.map (·.name)

/-- What is said of a field that is malformed. -/
def complaint (struct : String) (spec : FieldSpec) : LayoutError :=
  if spec.type.isVoid then .incompleteField struct spec.name
  else if spec.count = 0 then .zeroCardinality struct spec.name
  else .duplicateField struct spec.name

/-- The size of the field, or where it ends when it is placed from `offset` on, does not fit a word. -/
def Overflows (offset : Word) (spec : FieldSpec) : Prop :=
  2 ^ 64 ≤ spec.type.stride.toNat * spec.count.toNat ∨
    2 ^ 64 ≤ (Word.alignUp offset spec.type.align).toNat + spec.type.stride.toNat * spec.count.toNat

/-- Where a field ends that is placed from `offset` on. -/
def endOf (offset : Word) (spec : FieldSpec) : Word :=
  Word.alignUp offset spec.type.align + spec.type.stride * spec.count

/-- The running offset behind fields. -/
def reached (specs : List FieldSpec) : Word :=
  specs.foldl endOf 0

variable {struct : String} {seen : List String} {offset align : Word} {spec : FieldSpec}
  {before rest specs : List FieldSpec}

theorem defect?_of_malformed (malformed : spec.type = .void ∨ spec.count = 0 ∨ spec.name ∈ seen) :
    defect? struct seen spec = some (complaint struct spec) := by
  rw [defect?, complaint]
  split
  · rfl
  · rename_i complete
    split
    · rfl
    · rename_i counted
      have again : spec.name ∈ seen := by
        obtain void | zero | again := malformed
        · exact absurd (CType.isVoid_iff.mpr void) complete
        · exact absurd zero counted
        · exact again
      rw [if_pos (List.contains_iff_mem.mpr again)]

theorem wellFormed_nil : WellFormed [] :=
  ⟨by simp, by simp, by simp⟩

theorem wellFormed_cons_iff (struct : String) :
    (WellFormed (spec :: rest) ∧ ∀ other ∈ spec :: rest, other.name ∉ seen) ↔
      defect? struct seen spec = none ∧
        WellFormed rest ∧ ∀ other ∈ rest, other.name ∉ spec.name :: seen := by
  rw [defect?_eq_none_iff]
  constructor
  · rintro ⟨sound, new⟩
    obtain ⟨hnew, hrest⟩ := List.forall_mem_cons.mp new
    refine ⟨⟨sound.complete spec List.mem_cons_self, sound.counted spec List.mem_cons_self, hnew⟩,
      sound.tail, ?_⟩
    intro other hother
    rw [List.mem_cons, not_or]
    exact ⟨sound.name_not_mem other hother, hrest other hother⟩
  · rintro ⟨⟨complete, counted, hnew⟩, sound, new⟩
    have hrest : ∀ other ∈ rest, other.name ≠ spec.name ∧ other.name ∉ seen := by
      intro other hother
      simpa only [List.mem_cons, not_or] using new other hother
    refine ⟨⟨List.forall_mem_cons.mpr ⟨complete, sound.complete⟩,
      List.forall_mem_cons.mpr ⟨counted, sound.counted⟩, ?_⟩,
      List.forall_mem_cons.mpr ⟨hnew, fun other hother => (hrest other hother).2⟩⟩
    refine List.nodup_cons.mpr ⟨?_, sound.distinct⟩
    intro again
    obtain ⟨other, hother, heq⟩ := List.mem_map.mp again
    exact (hrest other hother).1 heq

theorem wellFormed_push_iff :
    WellFormed (before ++ [spec]) ↔ WellFormed before ∧ ¬ Malformed before spec := by
  simp only [Malformed, not_or]
  constructor
  · rintro ⟨complete, counted, distinct⟩
    obtain ⟨hcomplete, htype⟩ := List.forall_mem_append.mp complete
    obtain ⟨hcounted, hcount⟩ := List.forall_mem_append.mp counted
    rw [List.map_append, List.nodup_append] at distinct
    refine ⟨⟨hcomplete, hcounted, distinct.1⟩, htype spec List.mem_cons_self,
      hcount spec List.mem_cons_self, fun again => ?_⟩
    exact distinct.2.2 spec.name again spec.name List.mem_cons_self rfl
  · rintro ⟨⟨complete, counted, distinct⟩, htype, hcount, hname⟩
    refine ⟨List.forall_mem_append.mpr ⟨complete, List.forall_mem_singleton.mpr htype⟩,
      List.forall_mem_append.mpr ⟨counted, List.forall_mem_singleton.mpr hcount⟩, ?_⟩
    rw [List.map_append, List.map_singleton, List.nodup_append]
    refine ⟨distinct, List.nodup_singleton _, fun name hmem other hother heq => ?_⟩
    rw [heq, List.mem_singleton.mp hother] at hmem
    exact hname hmem

/-- Fields are well formed, or one of them is the first that is malformed. -/
theorem wellFormed_or_split (specs : List FieldSpec) :
    WellFormed specs ∨ ∃ before spec after, specs = before ++ spec :: after ∧
      WellFormed before ∧ Malformed before spec := by
  induction specs using List.reverseRecOn with
  | nil => exact .inl wellFormed_nil
  | append_singleton before spec ih =>
      obtain sound | ⟨front, first, after, rfl, split⟩ := ih
      · by_cases malformed : Malformed before spec
        · exact .inr ⟨before, spec, [], rfl, sound, malformed⟩
        · exact .inl (wellFormed_push_iff.mpr ⟨sound, malformed⟩)
      · exact .inr ⟨front, first, after ++ [spec], by simp, split⟩

theorem place_cons_of_overflows (sound : defect? struct seen spec = none) (overflows : Overflows offset spec) :
    ∃ cause, place struct seen offset align (spec :: rest) = .error (.fault cause) := by
  rw [place, sound]
  by_cases large : 2 ^ 64 ≤ spec.type.stride.toNat * spec.count.toNat
  · exact ⟨.multiplyOverflow, by rw [Outcome.product_of_le large]; rfl⟩
  · have fits := Nat.lt_of_not_le large
    have far := overflows.resolve_left large
    rw [← Word.toNat_mul_of_lt fits] at far
    exact ⟨.addOverflow, by
      rw [Outcome.product_of_lt fits, Outcome.ok_bind, Outcome.sum_of_le far]; rfl⟩

/-- A field that is neither malformed nor too large leaves it to the fields behind it. -/
theorem place_cons_of_fits (sound : defect? struct seen spec = none) (fits : ¬ Overflows offset spec) :
    place struct seen offset align (spec :: rest) =
      (place struct (spec.name :: seen) (endOf offset spec) (max align spec.type.align) rest).map
        fun after => { after with
          fields := ⟨spec.name, spec.type, spec.count, Word.alignUp offset spec.type.align⟩ ::
            after.fields } := by
  obtain ⟨small, near⟩ := not_or.mp fits
  have hsize := Nat.lt_of_not_le small
  have hstop := Nat.lt_of_not_le near
  rw [← Word.toNat_mul_of_lt hsize] at hstop
  rw [place, sound]
  dsimp only
  rw [Outcome.product_of_lt hsize, Outcome.ok_bind, Outcome.sum_of_lt hstop, Outcome.ok_bind, ← endOf]
  cases place struct (spec.name :: seen) (endOf offset spec) (max align spec.type.align) rest <;> rfl

/-- Well-formed fields are placed, or there is a fault. -/
theorem place_of_wellFormed (struct : String) (offset align : Word) (sound : WellFormed specs)
    (new : ∀ spec ∈ specs, spec.name ∉ seen) :
    (∃ placed, place struct seen offset align specs = .ok placed) ∨
      ∃ cause, place struct seen offset align specs = .error (.fault cause) := by
  induction specs generalizing seen offset align with
  | nil => exact .inl ⟨_, rfl⟩
  | cons spec rest ih =>
      obtain ⟨none, hrest, hnew⟩ := (wellFormed_cons_iff struct).mp ⟨sound, new⟩
      by_cases overflows : Overflows offset spec
      · exact .inr (place_cons_of_overflows none overflows)
      · rw [place_cons_of_fits none overflows]
        obtain ⟨placed, hplaced⟩ | ⟨cause, hfault⟩ := ih _ _ hrest hnew
        · exact .inl ⟨_, by rw [hplaced]; rfl⟩
        · exact .inr ⟨cause, by rw [hfault]; rfl⟩

/-- Placing faults where a field overflows that is not malformed and has none malformed in front of it. The
induction is on the fields, with the running offset behind those in front. -/
theorem place_faults_iff :
    (∃ cause, place struct seen offset align specs = .error (.fault cause)) ↔
      ∃ before spec after, specs = before ++ spec :: after ∧
        (WellFormed (before ++ [spec]) ∧ ∀ other ∈ before ++ [spec], other.name ∉ seen) ∧
        Overflows (before.foldl endOf offset) spec := by
  induction specs generalizing seen offset align with
  | nil => simp [place]
  | cons first rest ih =>
      cases defect : defect? struct seen first with
      | some cause =>
          have refused : place struct seen offset align (first :: rest) = .error (.layout cause) := by
            rw [place, defect]
          rw [refused]
          refine iff_of_false ?_ ?_
          · rintro ⟨cause, fault⟩
            cases fault
          · rintro ⟨_ | ⟨head, before⟩, spec, after, hsplit, sound, -⟩
            · cases hsplit
              cases defect.symm.trans ((wellFormed_cons_iff struct).mp sound).1
            · cases hsplit
              cases defect.symm.trans ((wellFormed_cons_iff struct).mp sound).1
      | none =>
          by_cases overflows : Overflows offset first
          · refine iff_of_true (place_cons_of_overflows defect overflows) ⟨[], first, rest, rfl, ?_, overflows⟩
            exact (wellFormed_cons_iff struct).mpr ⟨defect, wellFormed_nil, by simp⟩
          · have hfault : (∃ cause, place struct seen offset align (first :: rest) =
                .error (.fault cause)) ↔ ∃ cause, place struct (first.name :: seen) (endOf offset first)
                  (max align first.type.align) rest = .error (.fault cause) := by
              rw [place_cons_of_fits defect overflows]
              cases place struct (first.name :: seen) (endOf offset first)
                (max align first.type.align) rest <;> simp [Except.map]
            rw [hfault, ih]
            constructor
            · rintro ⟨before, spec, after, rfl, sound, hover⟩
              exact ⟨first :: before, spec, after, rfl, (wellFormed_cons_iff struct).mpr ⟨defect, sound⟩, hover⟩
            · rintro ⟨_ | ⟨head, before⟩, spec, after, hsplit, sound, hover⟩
              · cases hsplit
                exact absurd hover overflows
              · cases hsplit
                exact ⟨before, spec, after, rfl, ((wellFormed_cons_iff struct).mp sound).2, hover⟩

theorem compute_eq_error_iff {name : String} {failure : Failure} :
    compute name specs = .error failure ↔ place name [] 0 1 specs = .error failure := by
  rw [compute, Outcome.bind_eq_error_iff]
  refine or_iff_left ?_
  rintro ⟨placed, -, failed⟩
  cases failed

/-- A struct is refused for the first field that is malformed, and for what is wrong with that in the first
place, unless the fields in front of it fault. A fault comes from a field that is too large or ends too far
on, with no malformed one up to it. -/
theorem compute_reports (name : String) (specs : List FieldSpec) :
    (WellFormed specs ∨ ∃ before spec after, specs = before ++ spec :: after ∧
      WellFormed before ∧ Malformed before spec) ∧
    (WellFormed specs → (∃ layout, compute name specs = .ok layout) ∨
      ∃ cause, compute name specs = .error (.fault cause)) ∧
    (∀ before spec after, specs = before ++ spec :: after → WellFormed before → Malformed before spec →
      (∃ layout, compute name before = .ok layout) ∧
          compute name specs = .error (.layout (complaint name spec)) ∨
        ∃ cause, compute name before = .error (.fault cause) ∧
          compute name specs = .error (.fault cause)) ∧
    ((∃ cause, compute name specs = .error (.fault cause)) ↔
      ∃ before spec after, specs = before ++ spec :: after ∧ WellFormed (before ++ [spec]) ∧
        Overflows (reached before) spec) := by
  have nothing : ∀ specs : List FieldSpec, ∀ spec ∈ specs, spec.name ∉ ([] : List String) :=
    fun _ _ _ => List.not_mem_nil
  have attempt : ∀ {specs}, WellFormed specs → (∃ layout, compute name specs = .ok layout) ∨
      ∃ cause, compute name specs = .error (.fault cause) := by
    intro specs sound
    obtain ⟨placed, hplaced⟩ | ⟨cause, hfault⟩ := place_of_wellFormed name 0 1 sound (nothing specs)
    · exact .inl ⟨_, compute_eq_ok_iff.mpr ⟨placed, hplaced, rfl⟩⟩
    · exact .inr ⟨cause, compute_eq_error_iff.mpr hfault⟩
  refine ⟨wellFormed_or_split specs, attempt, ?_, ?_⟩
  · rintro before spec after rfl sound malformed
    obtain ⟨layout, hlayout⟩ | ⟨cause, hfault⟩ := attempt sound
    · obtain ⟨placed, hplaced, -⟩ := compute_eq_ok_iff.mp hlayout
      have named : spec.name ∈ before.map (·.name) → spec.name ∈ (before.map (·.name)).reverse ++ [] :=
        fun h => List.mem_append_left _ (List.mem_reverse.mpr h)
      refine .inl ⟨⟨layout, hlayout⟩, compute_eq_error_iff.mpr ?_⟩
      rw [place_append, hplaced, Outcome.ok_bind, place,
        defect?_of_malformed (malformed.imp_right (Or.imp_right named))]
      rfl
    · refine .inr ⟨cause, hfault, compute_eq_error_iff.mpr ?_⟩
      rw [place_append, compute_eq_error_iff.mp hfault, Outcome.error_bind]
  · simp only [compute_eq_error_iff, place_faults_iff, List.not_mem_nil, not_false_eq_true,
      implies_true, and_true]
    rfl

/-- A byte, and a field that is wrong in every way. -/
def sampleMalformed : List FieldSpec :=
  [⟨"tag", .int .w8 true, 1⟩, ⟨"tag", .void, 0⟩, ⟨"end", .void, 1⟩]

/-- The type is reported, and the length and the name are not. -/
theorem compute_reports_malformed :
    compute "sample" sampleMalformed = .error (.layout (.incompleteField "sample" "tag")) := by
  obtain ⟨-, -, report, -⟩ := compute_reports "sample" sampleMalformed
  have sound : WellFormed [⟨"tag", .int .w8 true, 1⟩] := ⟨by simp, by simp, by simp⟩
  obtain ⟨-, refused⟩ | ⟨cause, fault, -⟩ := report [⟨"tag", .int .w8 true, 1⟩] ⟨"tag", .void, 0⟩
    [⟨"end", .void, 1⟩] rfl sound (.inl rfl)
  · exact refused
  · cases fault

end Foreign.Layout
