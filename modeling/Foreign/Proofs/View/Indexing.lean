import Foreign.Proofs.View.Confinement

/-!
Elements by their index. The place of an element is found modulo the address space, and only then held
against the buffer, so what is refused are the indices whose place is outside the buffer after it has
wrapped. Short of the end of the address space these are the ones outside the buffer; past it, an index can
come round to an element that another index has.
-/

namespace Foreign.View

/-- Where the element `index` places on lies, as a number: no product and no sum wraps. -/
def elementPlace (view : View) (index : Word) : Nat :=
  view.address.toNat + index.toNat * view.step.toNat

theorem toNat_elementAddress (view : View) (index : Word) :
    (view.elementAddress index).toNat = view.elementPlace index % 2 ^ 64 := by
  rw [elementAddress, UInt64.toNat_add, UInt64.toNat_mul, Nat.add_mod_mod, elementPlace]

theorem elementAddress_eq_iff (view : View) (index other : Word) :
    view.elementAddress index = view.elementAddress other ↔
      index.toNat * view.step.toNat % 2 ^ 64 = other.toNat * view.step.toNat % 2 ^ 64 := by
  rw [elementAddress, elementAddress, UInt64.add_right_inj, ← UInt64.toNat_inj, UInt64.toNat_mul,
    UInt64.toNat_mul]

/-- Reading and writing an element are done just where the exact place of the element is in the buffer. -/
structure Bounded (extent : Buffer) (view : View) (store : Store) (index : Word) : Prop where
  read : (∃ value, view.read store index = .ok value) ↔
    extent.Holds (view.elementPlace index) view.element.size.toNat
  write : ∀ value, value.fits view.element = true → (∀ source, value ≠ .struct source) →
    ((∃ later, view.write store index value = .ok later) ↔
      extent.Holds (view.elementPlace index) view.element.size.toNat)

section

variable {extent : Buffer} {view : View} {store : Store} {index : Word}

theorem reads_iff_holds (backed : view.backing = .buffer extent) (ends : extent.Ends)
    (direct : view.levels = 0) :
    (∃ value, view.read store index = .ok value) ↔
      extent.Holds (view.elementPlace index % 2 ^ 64) view.element.size.toNat := by
  have reads := readsInside_of_backed backed ends
  rw [← toNat_elementAddress]
  constructor
  · rintro ⟨value, hread⟩
    by_contra outside
    rw [reads.outside direct store index outside] at hread
    cases hread
  · intro holds
    exact ⟨_, reads.inside direct store index holds⟩

theorem writes_iff_holds (backed : view.backing = .buffer extent) (ends : extent.Ends)
    (direct : view.levels = 0) (complete : view.element ≠ .void) {value : Value}
    (fits : value.fits view.element = true) (plain : ∀ source, value ≠ .struct source) :
    (∃ later, view.write store index value = .ok later) ↔
      extent.Holds (view.elementPlace index % 2 ^ 64) view.element.size.toNat := by
  have hreaches : view.reaches store (view.elementAddress index) view.element.size = true ↔ _ :=
    reaches_iff_holds backed ends
  rw [← toNat_elementAddress, ← hreaches]
  constructor
  · rintro ⟨later, written⟩
    exact (write_eq_ok_iff.mp written).2.2.2.1
  · intro reaches
    refine ⟨_, write_eq_ok_iff.mpr ⟨direct, complete, fits, reaches, ?_, rfl⟩⟩
    intro source heq
    exact absurd heq (plain source)

theorem not_holds_of_wraps (ends : extent.Ends) {size : Nat}
    (wraps : 2 ^ 64 ≤ view.elementPlace index) : ¬ extent.Holds (view.elementPlace index) size := by
  rintro ⟨-, hstop⟩
  rw [Buffer.Ends] at ends
  omega

/-- Which indices of a view of a buffer have exact bounds: those whose place does not wrap, and those whose
wrapped place is outside the buffer. At any other the element that is read or written is another one's. -/
theorem bounded_iff (backed : view.backing = .buffer extent) (ends : extent.Ends)
    (direct : view.levels = 0) (complete : view.element ≠ .void) (store : Store) (index : Word) :
    (view.Bounded extent store index ↔ view.elementPlace index < 2 ^ 64 ∨
      ¬ extent.Holds (view.elementPlace index % 2 ^ 64) view.element.size.toNat) ∧
    ((∃ value, view.read store index = .ok value) ↔
      extent.Holds (view.elementPlace index % 2 ^ 64) view.element.size.toNat) ∧
    (∀ value, value.fits view.element = true → (∀ source, value ≠ .struct source) →
      ((∃ later, view.write store index value = .ok later) ↔
        extent.Holds (view.elementPlace index % 2 ^ 64) view.element.size.toNat)) ∧
    ∀ other, view.elementAddress index = view.elementAddress other ↔
      index.toNat * view.step.toNat % 2 ^ 64 = other.toNat * view.step.toNat % 2 ^ 64 := by
  have hreads : (∃ value, view.read store index = .ok value) ↔ _ := reads_iff_holds backed ends direct
  refine ⟨?_, hreads, ?_, view.elementAddress_eq_iff index⟩
  · constructor
    · intro bounded
      by_contra wraps
      rw [not_or, Nat.not_lt, not_not] at wraps
      exact not_holds_of_wraps ends wraps.1 (bounded.read.mp (hreads.mpr wraps.2))
    · intro exact
      have hplace : extent.Holds (view.elementPlace index % 2 ^ 64) view.element.size.toNat ↔
          extent.Holds (view.elementPlace index) view.element.size.toNat := by
        by_cases lt : view.elementPlace index < 2 ^ 64
        · rw [Nat.mod_eq_of_lt lt]
        · have outside := exact.resolve_left lt
          exact iff_of_false outside (not_holds_of_wraps ends (Nat.le_of_not_lt lt))
      exact ⟨hreads.trans hplace, fun value fits plain =>
        (writes_iff_holds backed ends direct complete fits plain).trans hplace⟩
  · intro value fits plain
    exact writes_iff_holds backed ends direct complete fits plain

end

/-- The first index past two numbers has exact bounds; the one whose distance is all of the words has not. -/
theorem bounded_iff_sample :
    ∃ (extent : Buffer) (view : View), view.backing = .buffer extent ∧ extent.Ends ∧ view.levels = 0 ∧
      view.element ≠ .void ∧ view.Bounded extent .empty 2 ∧
      ¬ view.Bounded extent .empty 0x4000000000000000 := by
  have ends : Buffer.Ends ⟨4096, 8⟩ := by decide
  have complete : (ofBuffer ⟨4096, 8⟩ (.int .w32 true)).element ≠ .void := fun h => (nomatch h)
  have exact := fun index => (bounded_iff rfl ends rfl complete .empty index).1
  refine ⟨⟨4096, 8⟩, ofBuffer ⟨4096, 8⟩ (.int .w32 true), rfl, ends, rfl, complete, ?_, ?_⟩
  · exact (exact 2).mpr (.inl (by decide))
  · rw [exact, not_or, not_not]
    exact ⟨by decide, by decide⟩

/-- Far behind a buffer of two numbers there is an element that can be written, and it is the first. -/
theorem far_index_aliases :
    let view := ofBuffer ⟨4096, 8⟩ (.int .w32 true)
    ¬ Buffer.Holds ⟨4096, 8⟩ (view.elementPlace 0x4000000000000000) view.element.size.toNat ∧
      ∃ later, view.write .empty 0x4000000000000000 (.scalar (.ofNat .i32 7)) = .ok later ∧
        later.memory.read 4096 8 = [7, 0, 0, 0, 0, 0, 0, 0] ∧
        view.read later 0 = view.read later 0x4000000000000000 := by
  exact ⟨by decide, _, rfl, rfl, rfl⟩

end Foreign.View
