import Foreign.Proofs.View.Confinement
import Foreign.Proofs.View.Creation

/-!
What the extent of a view says of the accesses at its address. It counts the bytes from there to the end of
the buffer, and nothing behind the end is counted. In front of the buffer it counts bytes that cannot be
used, the whole buffer among them, while no access there is let through.
-/

namespace Foreign.View

/-- The accesses at the view's address that are let through are those of no more bytes than the extent. -/
def ExtentExact (view : View) : Prop :=
  ∃ room, view.extent? = some room ∧ ∀ store (n : Word), 1 ≤ n →
    (view.check store view.address n = .ok () ↔ n ≤ room) ∧
    (view.ensureExtent view.address n = .ok () ↔ n ≤ room)

variable {extent : Buffer} {origin view : View}

theorem exists_extent? (backed : view.backing = .buffer extent) (ends : extent.Ends) :
    ∃ room, view.extent? = some room ∧
      room.toNat = extent.start.toNat + extent.size.toNat - view.address.toNat := by
  have hstop : extent.stop.toNat = extent.start.toNat + extent.size.toNat := Word.toNat_add_of_lt ends
  rw [extent?, backed]
  refine ⟨_, rfl, ?_⟩
  split
  · rename_i hle
    rw [UInt64.toNat_sub_of_le _ _ hle, hstop]
  · rename_i hlt
    rw [UInt64.le_iff_toNat_le, hstop] at hlt
    change 0 = _
    omega

theorem holds_address_iff {n : Nat} (pos : 1 ≤ n) :
    extent.Holds view.address.toNat n ↔ extent.start.toNat ≤ view.address.toNat ∧
      n ≤ extent.start.toNat + extent.size.toNat - view.address.toNat := by
  rw [Buffer.Holds]
  omega

theorem ensureExtent_iff_holds (backed : view.backing = .buffer extent) (ends : extent.Ends)
    {address size : Word} :
    view.ensureExtent address size = .ok () ↔ extent.Holds address.toNat size.toNat := by
  constructor
  · intro passed
    by_contra outside
    rw [ensureExtent_of_not_holds backed outside] at passed
    cases passed
  · exact ensureExtent_of_holds backed ends

/-- Which views have an exact extent: those that do not lie in front of their buffer. -/
theorem extentExact_iff (created : Created origin) (backed : origin.backing = .buffer extent)
    (derived : Derived origin view) :
    (view.ExtentExact ↔ extent.start ≤ view.address) ∧
    ∃ room, view.extent? = some room ∧
      room.toNat = extent.start.toNat + extent.size.toNat - view.address.toNat ∧
      ∀ store (n : Word), 1 ≤ n →
        (view.check store view.address n = .ok () ↔ extent.start ≤ view.address ∧ n ≤ room) ∧
        (view.ensureExtent view.address n = .ok () ↔ extent.start ≤ view.address ∧ n ≤ room) := by
  have ends := (created.fresh.start extent backed).1
  have held := derived.backed backed
  obtain ⟨room, hroom, hcount⟩ := exists_extent? held ends
  have hexact : ∀ n : Word, 1 ≤ n → (extent.Holds view.address.toNat n.toNat ↔
      extent.start ≤ view.address ∧ n ≤ room) := by
    intro n pos
    rw [UInt64.le_iff_toNat_le, UInt64.le_iff_toNat_le, hcount]
    exact holds_address_iff (UInt64.le_iff_toNat_le.mp pos)
  have haccess : ∀ store (n : Word), 1 ≤ n →
      (view.check store view.address n = .ok () ↔ extent.start ≤ view.address ∧ n ≤ room) ∧
      (view.ensureExtent view.address n = .ok () ↔ extent.start ≤ view.address ∧ n ≤ room) := by
    intro store n pos
    rw [check_eq_ok_iff, reaches_iff_holds held ends, ensureExtent_iff_holds held ends]
    exact ⟨hexact n pos, hexact n pos⟩
  refine ⟨⟨?_, ?_⟩, room, hroom, hcount, haccess⟩
  · rintro ⟨_, told, exact⟩
    cases hroom.symm.trans told
    by_contra front
    rw [UInt64.le_iff_toNat_le] at front
    -- in front of the buffer the extent counts a byte at least, and there is no access to one
    have counted : 1 ≤ room := by
      rw [UInt64.le_iff_toNat_le, hcount]
      change 1 ≤ _
      omega
    have passed := (exact .empty 1 (Nat.le_refl 1)).1.mpr counted
    exact front (UInt64.le_iff_toNat_le.mp ((haccess .empty 1 (Nat.le_refl 1)).1.mp passed).1)
  · intro behind
    refine ⟨room, hroom, fun store n pos => ?_⟩
    simpa only [behind, true_and] using haccess store n pos

/-- A view of the second of two numbers has the four bytes of its extent. -/
theorem extentExact_iff_second :
    ∃ origin view, Created origin ∧ origin.backing = .buffer ⟨4096, 8⟩ ∧ Derived origin view ∧
      view.extent? = some 4 ∧ view.ExtentExact := by
  have ends : Buffer.Ends ⟨4096, 8⟩ := by decide
  have created : Created (ofBuffer ⟨4096, 8⟩ (.int .w32 true)) := .ofBuffer _ ends
  have derived : Derived _ ((ofBuffer ⟨4096, 8⟩ (.int .w32 true)).offset 1) := .offset 1 .origin
  exact ⟨_, _, created, rfl, derived, rfl, (extentExact_iff created rfl derived).1.mpr (by decide)⟩

/-- One number in front of two, a view is said to have twelve bytes and has none. -/
theorem extent_in_front :
    let view := (ofBuffer ⟨4096, 8⟩ (.int .w32 true)).offset (-1)
    Created (ofBuffer ⟨4096, 8⟩ (.int .w32 true)) ∧
      Derived (ofBuffer ⟨4096, 8⟩ (.int .w32 true)) view ∧ view.extent? = some 12 ∧
      view.check .empty view.address 1 = .error (.fault (.outsideBuffer 4092 1 ⟨4096, 8⟩)) ∧
      ¬ view.ExtentExact := by
  intro view
  have ends : Buffer.Ends ⟨4096, 8⟩ := by decide
  have told : view.extent? = some 12 := by decide
  have refused : view.check .empty view.address 1 =
      .error (.fault (.outsideBuffer 4092 1 ⟨4096, 8⟩)) := rfl
  refine ⟨.ofBuffer _ ends, .offset (-1) .origin, told, refused, ?_⟩
  rintro ⟨_, told', exact⟩
  cases told.symm.trans told'
  have passed := (exact .empty 1 (by decide)).1.mpr (by decide)
  rw [refused] at passed
  cases passed

end Foreign.View
