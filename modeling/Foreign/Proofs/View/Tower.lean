import Foreign.Proofs.View.Access

/-!
Towers of references. Every reference taken of a view is a level of its own, and every read of the tower
takes one off without touching memory, down to the view itself. The levels are counted in one byte: beyond
255 a reference is one more pointer in the type and none in the count, and the way down ends too early, at
a pointer that has to be in memory.
-/

namespace Foreign.View

/-- What `n` reads, each of the first element of what the one before gave, come to in every store. -/
inductive Descends : Nat → View → View → Prop
  | rest (view : View) : Descends 0 view view
  | down {n : Nat} {view next last : View}
      (reads : ∀ store, view.read store 0 = .ok (.pointer next)) (rest : Descends n next last) :
      Descends (n + 1) view last

def tower (view : View) (n : Nat) : View :=
  n.repeat reference view

/-- `n` references of the view are taken off by `n` reads. -/
def Unwinds (view : View) (n : Nat) : Prop :=
  ∃ last, Descends n (view.tower n) last ∧ last.address = view.address ∧
    last.element = view.element ∧ last.access = view.access ∧
    last.backing.share = view.backing.share

/-- The view under the outermost reference. -/
def under (view : View) : View :=
  view.dereference view.address

section

variable {view next last : View} {n : Nat}

theorem share_share (backing : Backing) : backing.share.share = backing.share := by
  cases backing <;> rfl

theorem borrow_borrow (view : View) : view.borrow.borrow = view.borrow := by
  simp only [borrow, share_share]

theorem reference_borrow (view : View) : view.borrow.reference = view.reference := by
  simp only [reference, borrow, share_share]
  rfl

theorem borrow_reference (view : View) : view.reference.borrow = view.reference := by
  simp only [reference, borrow, share_share]

theorem under_reference (view : View) (room : view.levels.toNat < 255) :
    view.reference.under = view.borrow := by
  have hne : view.levels ≠ 255 := by
    intro h
    rw [h] at room
    exact absurd room (by decide)
  simp only [under, reference, dereference, borrow, share_share, if_neg hne, CType.pointee?,
    Option.getD_some, UInt8.add_sub_cancel]

theorem toNat_levels_reference (view : View) :
    view.reference.levels.toNat = min 255 (view.levels.toNat + 1) := by
  have hlt := view.levels.toNat_lt
  by_cases full : view.levels = 255
  · simp [reference, full]
  · have hne : view.levels.toNat ≠ 255 := fun h => full (UInt8.toNat_inj.mp h)
    rw [reference, if_neg full, UInt8.toNat_add]
    change (view.levels.toNat + 1) % 256 = _
    omega

theorem toNat_levels_under (reference : view.levels ≠ 0) :
    view.under.levels.toNat = view.levels.toNat - 1 := by
  have hpos : view.levels.toNat ≠ 0 := fun h => reference (UInt8.toNat_inj.mp h)
  rw [under, dereference, UInt8.toNat_sub_of_le]
  · rfl
  · rw [UInt8.le_iff_toNat_le]
    change 1 ≤ _
    omega

theorem decode_read_write (address n : Word) :
    UInt64.ofNat (LittleEndian.decode
      ((Memory.zeros.write address (LittleEndian.encode 8 n.toNat)).read address 8)) = n := by
  have hread := Memory.read_write .zeros address (LittleEndian.encode 8 n.toNat) (by simp; decide)
  rw [LittleEndian.length_encode] at hread
  rw [hread, LittleEndian.decode_encode, Nat.mod_eq_of_lt n.toNat_lt, UInt64.ofNat_toNat]

/-- A pointer that is the same in every store has not been read from memory. -/
theorem levels_ne_zero_of_reads (reads : ∀ store, view.read store 0 = .ok (.pointer next)) :
    view.levels ≠ 0 := by
  intro direct
  have haddress : ∀ address, next.address = address := by
    intro address
    have hread := reads ⟨.write .zeros view.address (LittleEndian.encode 8 address.toNat), []⟩
    obtain ⟨reference, -⟩ | ⟨-, -, heq⟩ := read_eq_ok_iff.mp hread
    · exact absurd direct reference
    · obtain ⟨pointee, -, rfl⟩ := valueAt_eq_pointer_iff.mp heq.symm
      rw [elementAddress_zero, decode_read_write]
      rfl
  exact absurd ((haddress 0).symm.trans (haddress 1)) (by decide)

theorem reads_iff : (∀ store, view.read store 0 = .ok (.pointer next)) ↔
    view.levels ≠ 0 ∧ next = view.under := by
  constructor
  · intro reads
    have reference := levels_ne_zero_of_reads reads
    have hread := reads .empty
    rw [read_of_reference reference, elementAddress_zero] at hread
    cases hread
    exact ⟨reference, rfl⟩
  · rintro ⟨reference, rfl⟩ store
    rw [read_of_reference reference, elementAddress_zero]
    rfl

theorem descends_succ_iff : Descends (n + 1) view last ↔
    view.levels ≠ 0 ∧ Descends n view.under last := by
  constructor
  · rintro (_ | ⟨reads, rest⟩)
    obtain ⟨reference, rfl⟩ := reads_iff.mp reads
    exact ⟨reference, rest⟩
  · rintro ⟨reference, rest⟩
    exact .down (reads_iff.mpr ⟨reference, rfl⟩) rest

/-- Every read takes one level off, and there is no other. -/
theorem Descends.levels (descends : Descends n view last) :
    last.levels.toNat + n = view.levels.toNat := by
  induction n generalizing view with
  | zero => cases descends; rfl
  | succ n ih =>
      obtain ⟨reference, rest⟩ := descends_succ_iff.mp descends
      have hpos : view.levels.toNat ≠ 0 := fun h => reference (UInt8.toNat_inj.mp h)
      have hrest := ih rest
      rw [toNat_levels_under reference] at hrest
      omega

theorem exists_descends_iff : (∃ last, Descends n view last) ↔ n ≤ view.levels.toNat := by
  constructor
  · rintro ⟨last, descends⟩
    exact descends.levels ▸ Nat.le_add_left n _
  · intro hle
    induction n generalizing view with
    | zero => exact ⟨view, .rest view⟩
    | succ n ih =>
        have reference : view.levels ≠ 0 := by
          intro h
          rw [h] at hle
          exact absurd hle (Nat.not_succ_le_zero n)
        have hunder := toNat_levels_under reference
        obtain ⟨last, rest⟩ : ∃ last, Descends n view.under last := ih (by omega)
        exact ⟨last, descends_succ_iff.mpr ⟨reference, rest⟩⟩

theorem Descends.address (descends : Descends n view last) : last.address = view.address := by
  induction n generalizing view with
  | zero => cases descends; rfl
  | succ n ih =>
      have rest := (descends_succ_iff.mp descends).2
      exact (ih rest : last.address = view.under.address)

theorem Descends.share (descends : Descends n view last) :
    last.backing.share = view.backing.share := by
  induction n generalizing view with
  | zero => cases descends; rfl
  | succ n ih => exact (ih (descends_succ_iff.mp descends).2).trans (share_share view.backing)

theorem Descends.element {base : CType} {m : Nat} (descends : Descends n view last)
    (deep : view.element = (m + n).repeat .pointer base) : last.element = m.repeat .pointer base := by
  induction n generalizing view with
  | zero => cases descends; exact deep
  | succ n ih =>
      apply ih (descends_succ_iff.mp descends).2
      rw [under, dereference, deep]
      rfl

end

section

variable (view : View)

@[simp] theorem element_tower (n : Nat) : (view.tower n).element = n.repeat .pointer view.element := by
  induction n with
  | zero => rfl
  | succ n ih => exact congrArg CType.pointer ih

@[simp] theorem address_tower (n : Nat) : (view.tower n).address = view.address := by
  induction n with
  | zero => rfl
  | succ n ih => exact ih

theorem share_tower (n : Nat) : (view.tower n).backing.share = view.backing.share := by
  induction n with
  | zero => rfl
  | succ n ih => exact (share_share _).trans ih

theorem toNat_levels_tower (n : Nat) :
    (view.tower n).levels.toNat = min 255 (view.levels.toNat + n) := by
  have hlt := view.levels.toNat_lt
  induction n with
  | zero => rw [tower, Nat.repeat]; omega
  | succ n ih =>
      change (view.tower n).reference.levels.toNat = _
      rw [toNat_levels_reference, ih]
      omega

theorem borrow_tower (n : Nat) : (view.borrow.tower n).borrow = view.borrow.tower n := by
  cases n with
  | zero => exact view.borrow_borrow
  | succ n => exact borrow_reference _

theorem tower_borrow (n : Nat) : view.borrow.tower (n + 1) = view.tower (n + 1) := by
  induction n with
  | zero => exact view.reference_borrow
  | succ n ih => exact congrArg reference ih

/-- As long as no reference is lost in the count, each read undoes the last reference. -/
theorem descends_tower_borrow {n : Nat} (room : view.levels.toNat + n ≤ 255) :
    Descends n (view.borrow.tower n) view.borrow := by
  induction n with
  | zero => exact .rest _
  | succ n ih =>
      have hlevels := view.borrow.toNat_levels_tower n
      change _ = min 255 (view.levels.toNat + n) at hlevels
      have hunder : (view.borrow.tower (n + 1)).under = view.borrow.tower n :=
        (under_reference (view.borrow.tower n) (by omega)).trans (view.borrow_tower n)
      rw [descends_succ_iff, hunder]
      refine ⟨?_, ih (by omega)⟩
      intro h
      have hsucc := view.borrow.toNat_levels_tower (n + 1)
      rw [h] at hsucc
      change 0 = min 255 (view.levels.toNat + (n + 1)) at hsucc
      omega

theorem unwinds_of_le {n : Nat} (room : view.levels.toNat + n ≤ 255) : view.Unwinds n := by
  cases n with
  | zero => exact ⟨view, .rest view, rfl, rfl, rfl, rfl⟩
  | succ n =>
      have descends := view.descends_tower_borrow room
      rw [tower_borrow] at descends
      exact ⟨view.borrow, descends, rfl, rfl, rfl, share_share view.backing⟩

end

theorem access_ne_indirect (type : CType) (levels : UInt8) : type.access ≠ .indirect levels := by
  cases type with
  | int width signed => cases width <;> cases signed <;> exact fun h => (nomatch h)
  | void | float | double | pointer _ | struct _ => exact fun h => (nomatch h)

theorem levels_eq_of_access {view other : View} (h : view.access = other.access) :
    view.levels = other.levels := by
  rw [access, access] at h
  by_cases direct : view.levels = 0
  · by_cases direct' : other.levels = 0
    · rw [direct, direct']
    · rw [if_pos direct, if_neg direct'] at h
      exact absurd h (access_ne_indirect _ _)
  · by_cases direct' : other.levels = 0
    · rw [if_neg direct, if_pos direct'] at h
      exact absurd h.symm (access_ne_indirect _ _)
    · rw [if_neg direct, if_neg direct'] at h
      exact Access.indirect.inj h

theorem Unwinds.le {view : View} {n : Nat} (unwinds : view.Unwinds n) :
    view.levels.toNat + n ≤ 255 := by
  obtain ⟨last, descends, -, -, haccess, -⟩ := unwinds
  have hlevels := descends.levels
  rw [toNat_levels_tower, levels_eq_of_access haccess] at hlevels
  omega

/-- Which memory a view may read has nothing to do with owning it. -/
theorem check_borrow (view : View) (store : Store) (address size : Word) :
    view.borrow.check store address size = view.check store address size := by
  rw [check, check, reaches, reaches]
  cases h : view.backing <;> simp only [borrow, h, Backing.share]

theorem check_of_share {view other : View} (h : view.backing.share = other.backing.share)
    (store : Store) (address size : Word) :
    view.check store address size = other.check store address size := by
  rw [← check_borrow view, ← check_borrow other]
  simp only [check, reaches, borrow, h]
  rfl

/-- Which towers are unwound: those whose levels the count can hold. No read of a tower goes further than
255 down without memory, and the one after those looks for a pointer at the address of the view. -/
theorem unwinds_iff (view : View) (n : Nat) :
    (view.Unwinds n ↔ view.levels.toNat + n ≤ 255) ∧
    ((∃ last, Descends n (view.tower n) last) ↔ n ≤ 255) ∧
    (255 < n → ∃ last, Descends 255 (view.tower n) last ∧ ∀ store,
      last.read store 0 = (view.check store view.address 8).map fun _ =>
        .pointer (.wrap (UInt64.ofNat (LittleEndian.decode (store.memory.read view.address 8)))
          ((n - 256).repeat .pointer view.element))) := by
  refine ⟨⟨Unwinds.le, view.unwinds_of_le⟩, ?_, ?_⟩
  · rw [exists_descends_iff, toNat_levels_tower]
    omega
  · intro lost
    have hlevels := view.toNat_levels_tower n
    rw [Nat.min_eq_left (by omega)] at hlevels
    obtain ⟨last, descends⟩ := exists_descends_iff.mpr (Nat.le_of_eq hlevels.symm)
    have hdirect := descends.levels
    have helement : last.element = .pointer ((n - 256).repeat .pointer view.element) := by
      have hdeep : n = n - 256 + 1 + 255 := by omega
      exact descends.element (m := n - 256 + 1) (by rw [← hdeep, element_tower])
    refine ⟨last, descends, ?_⟩
    intro store
    have haddress := descends.address.trans (view.address_tower n)
    have hcheck := check_of_share (descends.share.trans (view.share_tower n))
    have direct : last.levels = 0 := by
      have hzero : last.levels.toNat = 0 := by omega
      exact UInt8.toNat_inj.mp hzero
    rw [read_of_direct direct, elementAddress_zero, haddress, hcheck, valueAt, helement]
    rfl

theorem unwinds_iff_numbers :
    let view := ofBuffer ⟨4096, 8⟩ (.int .w32 true)
    255 < 256 ∧ view.Unwinds 255 ∧
      ∃ last, Descends 255 (view.tower 256) last ∧
        last.read .empty 0 = .ok (.pointer (.wrap 0 (.int .w32 true))) := by
  intro view
  have lost : 255 < 256 := by decide
  obtain ⟨last, descends, reads⟩ := (unwinds_iff view 256).2.2 lost
  exact ⟨lost, (unwinds_iff view 255).1.mpr (by decide), last, descends, reads .empty⟩

/-- The tower of 256 over two numbers: its last read takes the numbers for an address. -/
theorem tower_of_numbers :
    let view := ofBuffer ⟨4096, 8⟩ (.int .w32 true)
    ¬ view.Unwinds 256 ∧ ¬ ∃ last, Descends 256 (view.tower 256) last := by
  refine ⟨fun unwinds => absurd unwinds.le (by decide), ?_⟩
  rw [exists_descends_iff, toNat_levels_tower]
  decide

end Foreign.View
