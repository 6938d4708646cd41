import Foreign.Proofs.Layout.Leaf

/-!
What the unchecked rounding of placement does at the end of the words. Rounding up either gives the exact
multiple or falls back to zero, so a struct that is placed has its fields one behind the other and inside
it exactly when the reference, over the sizes that the field types answer, stays below 2^64. Alignment is
never lost: zero is a multiple of everything.
-/

namespace Foreign

/-- Rounding up is exact, or it crosses the end of the words and gives zero. -/
theorem Word.alignUp_exact_or_zero (value : Word) {align : Word} (eight : align.toNat ∣ 8) :
    Exact.alignUp value.toNat align.toNat < 2 ^ 64 ∧
        (Word.alignUp value align).toNat = Exact.alignUp value.toNat align.toNat ∨
      2 ^ 64 ≤ Exact.alignUp value.toNat align.toNat ∧ (Word.alignUp value align).toNat = 0 ∧
        0 < value.toNat := by
  have hpos : 0 < align.toNat := Nat.pos_of_dvd_of_pos eight (by decide)
  have hle : align.toNat ≤ 8 := Nat.le_of_dvd (by decide) eight
  have hall : align.toNat ∣ 2 ^ 64 := Nat.dvd_trans eight (by decide)
  have hvalue := value.toNat_lt
  have hceil := Exact.le_alignUp value.toNat hpos
  by_cases room : value.toNat + align.toNat ≤ 2 ^ 64
  · have hexact := Word.toNat_alignUp hpos room
    have hlt := (Word.alignUp value align).toNat_lt
    omega
  · refine .inr ⟨?_, ?_, by omega⟩
    · -- The only multiple that is left is the end of the words itself.
      by_contra hlt
      have := Exact.add_align_le eight (Exact.dvd_alignUp value.toNat align.toNat) (by omega)
      omega
    · have hpred : (align - 1).toNat = align.toNat - 1 :=
        UInt64.toNat_sub_of_le align 1 (UInt64.le_iff_toNat_le.mpr hpos)
      have htop : (value + (align - 1)).toNat = value.toNat + align.toNat - 1 - 2 ^ 64 := by
        rw [UInt64.toNat_add, hpred]
        omega
      have hmod : (value + (align - 1)) % align = value + (align - 1) := by
        rw [← UInt64.toNat_inj, UInt64.toNat_mod]
        exact Nat.mod_eq_of_lt (by omega)
      rw [Word.alignUp, hmod, UInt64.sub_self, UInt64.toNat_zero]

theorem Word.dvd_alignUp {value align : Word} (eight : align.toNat ∣ 8) :
    align.toNat ∣ (Word.alignUp value align).toNat := by
  obtain ⟨-, hexact⟩ | ⟨-, hzero, -⟩ := Word.alignUp_exact_or_zero value eight
  · rw [hexact]
    exact Exact.dvd_alignUp _ _
  · rw [hzero]
    exact Nat.dvd_zero _

namespace CType

/-- The size and the alignment that a type answers, whether or not they are exact. -/
def stated (type : CType) : Exact :=
  ⟨type.size.toNat, type.align.toNat⟩

structure Aligned (type : CType) : Prop where
  eight : type.align.toNat ∣ 8
  multiple : type.align.toNat ∣ type.size.toNat

theorem Aligned.pos {type : CType} (aligned : type.Aligned) : 0 < type.align.toNat :=
  Nat.pos_of_dvd_of_pos aligned.eight (by decide)

theorem Aligned.toNat_stride {type : CType} (aligned : type.Aligned) :
    type.stride.toNat = type.size.toNat := by
  have room := Exact.add_align_le aligned.eight aligned.multiple type.size.toNat_lt
  rw [stride, Word.toNat_alignUp aligned.pos room]
  exact Exact.alignUp_of_dvd aligned.pos aligned.multiple

theorem aligned_of_not_struct {type : CType} (h : ∀ layout, type ≠ .struct layout) :
    type.Aligned := by
  obtain ⟨hsize, halign⟩ := isExact_of_not_struct h
  exact ⟨halign ▸ type.exact_align_dvd, hsize ▸ halign ▸ type.exact_align_dvd_size⟩

end CType

def FieldSpec.stated (spec : FieldSpec) : Exact.Member :=
  ⟨spec.type.stated, spec.count.toNat⟩

namespace Layout

/-- Each field starts at or behind the end of the field before it; the first has `start` before it. -/
def Behind (start : Nat) : List Field → Prop
  | [] => True
  | field :: rest => start ≤ field.offset.toNat ∧ Behind field.stop rest

section

variable {struct : String} {seen : List String} {offset align : Word} {specs : List FieldSpec}
  {placed : Placed}

theorem size_stated {spec : FieldSpec} (aligned : spec.type.Aligned) :
    spec.stated.size = spec.type.stride.toNat * spec.count.toNat := by
  have hstride : spec.stated.stride = spec.type.size.toNat :=
    Exact.alignUp_of_dvd aligned.pos aligned.multiple
  rw [Exact.Member.size, hstride, aligned.toNat_stride]
  rfl

theorem align_stated_pos (aligned : ∀ spec ∈ specs, spec.type.Aligned) :
    ∀ member ∈ specs.map FieldSpec.stated, 0 < member.type.align := by
  intro member hmem
  obtain ⟨spec, hspec, rfl⟩ := List.mem_map.mp hmem
  exact (aligned spec hspec).pos

theorem strictest_stated_dvd (aligned : ∀ spec ∈ specs, spec.type.Aligned) :
    Exact.strictest (specs.map FieldSpec.stated) ∣ 8 := by
  apply Exact.strictest_dvd
  intro member hmem
  obtain ⟨spec, hspec, rfl⟩ := List.mem_map.mp hmem
  exact (aligned spec hspec).eight

theorem align_of_place (h : place struct seen offset align specs = .ok placed)
    (one : 1 ≤ align.toNat) :
    placed.align.toNat = max align.toNat (Exact.strictest (specs.map FieldSpec.stated)) := by
  induction specs generalizing seen offset align placed with
  | nil => cases h; exact (Nat.max_eq_left one).symm
  | cons spec rest ih =>
      obtain ⟨-, size, stop, after, -, -, hafter, rfl⟩ := place_cons_eq_ok_iff.mp h
      have hmax := Word.toNat_max align spec.type.align
      rw [ih hafter (by omega), hmax, Nat.max_assoc]
      rfl

theorem dvd_offset_of_place (h : place struct seen offset align specs = .ok placed)
    (aligned : ∀ spec ∈ specs, spec.type.Aligned) :
    ∀ field ∈ placed.fields, field.type.align.toNat ∣ field.offset.toNat := by
  induction specs generalizing seen offset align placed with
  | nil => cases h; simp
  | cons spec rest ih =>
      obtain ⟨-, size, stop, after, -, -, hafter, rfl⟩ := place_cons_eq_ok_iff.mp h
      obtain ⟨hspec, hrest⟩ := List.forall_mem_cons.mp aligned
      exact List.forall_mem_cons.mpr ⟨Word.dvd_alignUp hspec.eight, ih hafter hrest⟩

/-- One step of placement: the field ends where the next one is placed from. -/
theorem place_cons_step {spec : FieldSpec} {rest : List FieldSpec} (aligned : spec.type.Aligned)
    (h : place struct seen offset align (spec :: rest) = .ok placed) :
    ∃ field stop after, place struct (spec.name :: seen) stop (max align spec.type.align) rest = .ok after ∧
      placed = ⟨field :: after.fields, after.stop, after.align⟩ ∧
      field.offset = Word.alignUp offset spec.type.align ∧ field.stop = stop.toNat ∧
      stop.toNat = field.offset.toNat + spec.stated.size := by
  obtain ⟨-, size, stop, after, hproduct, hsum, hafter, hplaced⟩ := place_cons_eq_ok_iff.mp h
  have hsize := (Outcome.product_eq_ok_iff.mp hproduct).2
  have hstop := (Outcome.sum_eq_ok_iff.mp hsum).2
  rw [hsize] at hstop
  exact ⟨_, stop, after, hafter, hplaced, rfl, hstop.symm, hstop.trans (size_stated aligned ▸ rfl)⟩

/-- Fields come one behind the other as long as the reference stays below the end of the words; the
rounding that crosses it puts a field before the end of the one in front of it. -/
theorem behind_of_place_iff (h : place struct seen offset align specs = .ok placed)
    (aligned : ∀ spec ∈ specs, spec.type.Aligned) :
    Behind offset.toNat placed.fields ↔
      Exact.stop offset.toNat (specs.map FieldSpec.stated) < 2 ^ 64 := by
  induction specs generalizing seen offset align placed with
  | nil =>
      cases h
      exact iff_of_true trivial offset.toNat_lt
  | cons spec rest ih =>
      obtain ⟨hspec, hrest⟩ := List.forall_mem_cons.mp aligned
      obtain ⟨field, stop, after, hafter, rfl, hoffset, hfield, hstop⟩ := place_cons_step hspec h
      rw [Behind, hfield, ih hafter hrest, List.map_cons, Exact.stop]
      change _ ↔ Exact.stop (Exact.alignUp offset.toNat spec.type.align.toNat + _) _ < _
      obtain ⟨-, hexact⟩ | ⟨hover, hzero, hpos⟩ :=
        Word.alignUp_exact_or_zero offset hspec.eight
      · have hle := Exact.le_alignUp offset.toNat hspec.pos
        rw [hstop, hoffset, hexact]
        exact and_iff_right hle
      · have hle := Exact.start_le_stop (align_stated_pos hrest)
          (Exact.alignUp offset.toNat spec.type.align.toNat + spec.stated.size)
        rw [hoffset, hzero]
        omega

theorem stop_of_behind (h : place struct seen offset align specs = .ok placed)
    (aligned : ∀ spec ∈ specs, spec.type.Aligned) (behind : Behind offset.toNat placed.fields) :
    placed.stop.toNat = Exact.stop offset.toNat (specs.map FieldSpec.stated) ∧
      ∀ field ∈ placed.fields, field.stop ≤ placed.stop.toNat := by
  induction specs generalizing seen offset align placed with
  | nil => cases h; exact ⟨rfl, by simp⟩
  | cons spec rest ih =>
      obtain ⟨hspec, hrest⟩ := List.forall_mem_cons.mp aligned
      obtain ⟨field, stop, after, hafter, rfl, hoffset, hfield, hstop⟩ := place_cons_step hspec h
      obtain ⟨hstart, hbehind⟩ := behind
      rw [hfield] at hbehind
      obtain ⟨hend, hinside⟩ := ih hafter hrest hbehind
      have hexact : field.offset.toNat = Exact.alignUp offset.toNat spec.type.align.toNat := by
        rw [hoffset] at hstart ⊢
        obtain ⟨-, hexact⟩ | ⟨-, hzero, hpos⟩ :=
          Word.alignUp_exact_or_zero offset hspec.eight
        · exact hexact
        · omega
      refine ⟨?_, List.forall_mem_cons.mpr ⟨?_, hinside⟩⟩
      · rw [List.map_cons, Exact.stop]
        change _ = Exact.stop (Exact.alignUp offset.toNat spec.type.align.toNat + _) _
        rw [← hexact, ← hstop, ← hend]
      · have hle := Exact.start_le_stop (align_stated_pos hrest) stop.toNat
        rw [hfield]
        change stop.toNat ≤ after.stop.toNat
        rwa [hend]

theorem exists_stop_of_place (h : place struct seen offset align specs = .ok placed)
    (aligned : ∀ spec ∈ specs, spec.type.Aligned) :
    placed.stop = offset ∨ ∃ field ∈ placed.fields, field.stop = placed.stop.toNat := by
  induction specs generalizing seen offset align placed with
  | nil => cases h; exact .inl rfl
  | cons spec rest ih =>
      obtain ⟨hspec, hrest⟩ := List.forall_mem_cons.mp aligned
      obtain ⟨field, stop, after, hafter, rfl, -, hfield, -⟩ := place_cons_step hspec h
      obtain heq | ⟨last, hlast, heq⟩ := ih hafter hrest
      · exact .inr ⟨field, List.mem_cons_self, heq ▸ hfield⟩
      · exact .inr ⟨last, List.mem_cons_of_mem _ hlast, heq⟩

end

end Layout

theorem CType.Built.aligned {type : CType} (built : type.Built) : type.Aligned := by
  refine built.induction (fun _ => CType.aligned_of_not_struct) ?_
  intro name specs layout inner computed
  have aligned : ∀ spec ∈ specs, spec.type.Aligned := fun spec hspec => (inner spec hspec).2
  obtain ⟨placed, hplaced, rfl⟩ := Layout.compute_eq_ok_iff.mp computed
  have eight : placed.align.toNat ∣ 8 := by
    rw [Layout.align_of_place hplaced (Nat.le_refl 1), UInt64.toNat_one,
      Nat.max_eq_right (Exact.one_le_strictest _)]
    exact Layout.strictest_stated_dvd aligned
  exact ⟨eight, Word.dvd_alignUp eight⟩

namespace Layout

/-- A struct that is placed keeps every alignment. Its fields lie one behind the other and inside it if and
only if its exact size, over the sizes that the field types answer, fits a word: too large a struct is not
always refused, and where it is not, a rounding has wrapped. -/
theorem separate_iff_fits {name : String} {specs : List FieldSpec} {layout : Layout}
    (built : ∀ spec ∈ specs, spec.type.Built) (computed : compute name specs = .ok layout) :
    (∀ field ∈ layout.fields, field.type.align.toNat ∣ field.offset.toNat) ∧
      (Behind 0 layout.fields ∧ (∀ field ∈ layout.fields, field.stop ≤ layout.size.toNat) ↔
        (Exact.ofMembers (specs.map FieldSpec.stated)).size < 2 ^ 64) := by
  have aligned : ∀ spec ∈ specs, spec.type.Aligned := fun spec hspec => (built spec hspec).aligned
  obtain ⟨placed, hplaced, rfl⟩ := compute_eq_ok_iff.mp computed
  have hstrictest := Exact.one_le_strictest (specs.map FieldSpec.stated)
  have halign : placed.align.toNat = Exact.strictest (specs.map FieldSpec.stated) := by
    rw [align_of_place hplaced (Nat.le_refl 1), UInt64.toNat_one, Nat.max_eq_right hstrictest]
  have eight : placed.align.toNat ∣ 8 := halign ▸ strictest_stated_dvd aligned
  have hceil := Exact.le_alignUp (Exact.stop 0 (specs.map FieldSpec.stated)) hstrictest
  have hbehind : Behind 0 placed.fields ↔ Exact.stop 0 (specs.map FieldSpec.stated) < 2 ^ 64 :=
    behind_of_place_iff hplaced aligned
  refine ⟨dvd_offset_of_place hplaced aligned, ?_⟩
  change _ ∧ (∀ field ∈ placed.fields, field.stop ≤ (Word.alignUp placed.stop placed.align).toNat) ↔
    Exact.alignUp (Exact.stop 0 (specs.map FieldSpec.stated)) _ < _
  constructor
  · rintro ⟨behind, inside⟩
    obtain ⟨hstop, -⟩ := stop_of_behind hplaced aligned behind
    rw [UInt64.toNat_zero] at hstop
    rw [← hstop, ← halign]
    obtain ⟨hlt, -⟩ | ⟨-, hzero, hpos⟩ := Word.alignUp_exact_or_zero placed.stop eight
    · exact hlt
    · -- The size has wrapped to zero, but the last field ends behind that.
      obtain hnone | ⟨last, hlast, heq⟩ := exists_stop_of_place hplaced aligned
      · rw [hnone, UInt64.toNat_zero] at hpos
        omega
      · have := inside last hlast
        omega
  · intro fits
    have behind := hbehind.mpr (by omega)
    obtain ⟨hstop, hinside⟩ := stop_of_behind hplaced aligned behind
    rw [UInt64.toNat_zero] at hstop
    rw [← hstop, ← halign] at fits hceil
    refine ⟨behind, fun field hfield => Nat.le_trans (hinside field hfield) ?_⟩
    obtain ⟨-, hexact⟩ | ⟨hover, -, -⟩ := Word.alignUp_exact_or_zero placed.stop eight
    · rwa [hexact]
    · omega

/-- An array of pairs up to eight bytes before the end of the words, and a number that is rounded over it. -/
def overflowingSpecs : List FieldSpec :=
  [⟨"pairs", .struct samplePair, 0x1fffffffffffffff⟩, ⟨"tag", .int .w8 false, 5⟩, ⟨"weight", .double, 1⟩]

/-- The struct is placed, but its last field starts where its first does. -/
theorem separate_iff_fits_sample :
    ∃ layout, compute "large" overflowingSpecs = .ok layout ∧
      layout.fields.map (·.offset.toNat) = [0, 2 ^ 64 - 8, 0] ∧ layout.size.toNat = 8 ∧
      ¬(Behind 0 layout.fields ∧ ∀ field ∈ layout.fields, field.stop ≤ layout.size.toNat) := by
  have built : ∀ spec ∈ overflowingSpecs, spec.type.Built := by
    intro spec hspec layout hlayout
    simp only [overflowingSpecs, List.mem_cons, List.not_mem_nil, or_false] at hspec
    obtain rfl | rfl | rfl := hspec
    · exact (CType.struct.inj hlayout) ▸ samplePair_built
    · cases hlayout
    · cases hlayout
  have large : ¬(Exact.ofMembers (overflowingSpecs.map FieldSpec.stated)).size < 2 ^ 64 := by decide
  obtain ⟨layout, computed⟩ : ∃ layout, compute "large" overflowingSpecs = .ok layout := ⟨_, rfl⟩
  refine ⟨layout, computed, ?_, ?_, mt (separate_iff_fits built computed).2.mp large⟩
  · cases computed; rfl
  · cases computed; rfl

/-- Bytes up to the end of the words and a number behind them: the number lies in the bytes. -/
theorem placed_overlapping :
    ∃ layout, compute "s" [⟨"a", .int .w8 false, 0xffffffffffffffff⟩, ⟨"b", .int .w32 false, 1⟩] =
        .ok layout ∧
      ¬Behind 0 layout.fields ∧ ¬∀ field ∈ layout.fields, field.stop ≤ layout.size.toNat := by
  refine ⟨_, rfl, ?_, ?_⟩
  · rintro ⟨-, hle, -⟩
    exact absurd hle (by decide)
  · intro inside
    exact absurd (inside _ List.mem_cons_self) (by decide)

end Layout
end Foreign
