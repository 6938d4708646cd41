import Foreign.Proofs.View.Tower

/-!
Moving a view. A view is moved by whole elements, forwards and backwards, modulo the address space. Moves add
up, and to move a view is to add to each of its indices. None of this depends on what the elements are, on
how they are read, or on who owns the memory.
-/

namespace Foreign

namespace Word

theorem ofInt_natCast (n : Nat) : UInt64.ofInt n = UInt64.ofNat n := by
  have hn : ((n : Int) % 2 ^ 64).toNat = n % 2 ^ 64 := by omega
  rw [UInt64.ofInt, hn, ← UInt64.toNat_inj, UInt64.toNat_ofNat', UInt64.toNat_ofNat', Nat.mod_mod]

theorem ofInt_toNat (a : Word) : UInt64.ofInt a.toNat = a := by
  rw [ofInt_natCast, UInt64.ofNat_toNat]

theorem ofInt_toInt (n : Int64) : UInt64.ofInt n.toInt = n.toUInt64 := by
  have hbits : (n.toInt % 2 ^ 64).toNat = n.toUInt64.toNat := by
    have h := congrArg BitVec.toNat (BitVec.ofInt_toInt (x := n.toBitVec))
    rwa [BitVec.toNat_ofInt] at h
  rw [UInt64.ofInt, hbits, UInt64.ofNat_toNat]

end Word

namespace View

variable (view : View)

theorem ensureExtent_borrow (address size : Word) :
    view.borrow.ensureExtent address size = view.ensureExtent address size := by
  rw [ensureExtent, ensureExtent]
  cases h : view.backing <;> simp only [borrow, h, Backing.share]

theorem ensureLive_borrow (store : Store) (address size : Word) :
    view.borrow.ensureLive store address size = view.ensureLive store address size := by
  rw [ensureLive, ensureLive]
  cases h : view.backing <;> simp only [borrow, h, Backing.share]

theorem address_offset (a : Int64) :
    (view.offset a).address = UInt64.ofInt (view.address.toNat + a.toInt * view.step.toNat) := by
  rw [UInt64.ofInt_add, UInt64.ofInt_mul, Word.ofInt_toNat, Word.ofInt_toNat, Word.ofInt_toInt]
  rfl

theorem offset_offset (a b : Int64) : (view.offset a).offset b = view.offset (a + b) := by
  have hplace : view.address + a.toUInt64 * view.step + b.toUInt64 * view.step =
      view.address + (a + b).toUInt64 * view.step := by
    rw [Int64.toUInt64_add, UInt64.add_mul, UInt64.add_assoc]
  calc (view.offset a).offset b
      = { view.borrow.borrow with
          address := view.address + a.toUInt64 * view.step + b.toUInt64 * view.step } := rfl
    _ = view.offset (a + b) := by rw [borrow_borrow, hplace]; rfl

theorem offset_zero : view.offset 0 = view.borrow := by
  have hplace : view.address + (0 : Int64).toUInt64 * view.step = view.address := by
    change view.address + 0 * view.step = view.address
    rw [UInt64.zero_mul, UInt64.add_zero]
  rw [offset, hplace]
  rfl

theorem elementAddress_offset (a : Int64) (index : Word) :
    (view.offset a).elementAddress index =
      view.elementAddress (UInt64.ofInt (a.toInt + index.toNat)) := by
  rw [UInt64.ofInt_add, Word.ofInt_toInt, Word.ofInt_toNat]
  change view.address + a.toUInt64 * view.step + index * view.step =
    view.address + (a.toUInt64 + index) * view.step
  rw [UInt64.add_mul, UInt64.add_assoc]

theorem valueAt_borrow (memory : Memory) (address : Word) :
    view.borrow.valueAt memory address = view.valueAt memory address := by
  rw [valueAt, valueAt]
  cases h : view.element with
  | struct layout => simp only [borrow, derive, h, share_share]
  | void | int _ _ | float | double | pointer _ => simp only [borrow, h]

theorem dereference_borrow (address : Word) :
    view.borrow.dereference address = view.dereference address := by
  simp only [dereference, borrow, share_share]

theorem read_offset (a : Int64) (store : Store) (index : Word) :
    (view.offset a).read store index = view.read store (UInt64.ofInt (a.toInt + index.toNat)) := by
  by_cases direct : view.levels = 0
  · have moved : (view.offset a).levels = 0 := direct
    rw [read_of_direct moved, read_of_direct direct, elementAddress_offset, ← view.check_borrow,
      ← view.valueAt_borrow]
    rfl
  · have moved : (view.offset a).levels ≠ 0 := direct
    rw [read_of_reference moved, read_of_reference direct, elementAddress_offset,
      ← view.dereference_borrow]
    rfl

theorem write_offset (a : Int64) (store : Store) (index : Word) (value : Value) :
    (view.offset a).write store index value =
      view.write store (UInt64.ofInt (a.toInt + index.toNat)) value := by
  by_cases direct : view.levels = 0
  · have moved : (view.offset a).levels = 0 := direct
    by_cases fits : view.element ≠ .void ∧ value.fits view.element = true
    · have moved' : (view.offset a).element ≠ .void ∧ value.fits (view.offset a).element = true := fits
      rw [write_of_fits moved moved'.1 moved'.2, write_of_fits direct fits.1 fits.2,
        elementAddress_offset, ← view.ensureExtent_borrow, ← view.ensureLive_borrow]
      rfl
    · have moved' : ¬ ((view.offset a).element ≠ .void ∧ value.fits (view.offset a).element = true) :=
        fits
      rw [write_of_unfit moved moved', write_of_unfit direct fits]
      rfl
  · have moved : (view.offset a).levels ≠ 0 := direct
    rw [write_of_reference moved, write_of_reference direct]

/-- Moves act on views: to move by `a` and then by `b` is to move by their sum, to move back gives the view
as it was, but for owning its memory, and at the index `j` of the moved view is what the view has at `a + j`,
all modulo the address space. -/
theorem offset_acts (a b : Int64) :
    (view.offset a).address = UInt64.ofInt (view.address.toNat + a.toInt * view.step.toNat) ∧
    (view.offset a).offset b = view.offset (a + b) ∧
    (view.offset a).offset (-a) = view.borrow ∧
    (∀ store (j : Word),
      (view.offset a).read store j = view.read store (UInt64.ofInt (a.toInt + j.toNat))) ∧
    ∀ store (j : Word) value,
      (view.offset a).write store j value =
        view.write store (UInt64.ofInt (a.toInt + j.toNat)) value := by
  refine ⟨view.address_offset a, view.offset_offset a b, ?_, view.read_offset a, view.write_offset a⟩
  rw [offset_offset, Int64.add_right_neg, offset_zero]

/-- From the second of two numbers of eight bytes, the furthest move backwards there is comes round to it,
since it is a multiple of the address space in bytes. -/
example :
    let view := (ofBuffer ⟨4096, 16⟩ .double).offset 1
    (view.offset Int64.minValue).address = view.address ∧
      (view.offset Int64.minValue).read .empty 0 = view.read .empty 0 := by
  cbv

end View
end Foreign
