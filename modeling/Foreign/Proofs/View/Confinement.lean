import Foreign.Proofs.View.Access
import Foreign.View.Text

/-!
Views of a buffer keep inside it. Whatever is made of such a view without reading an address from memory is
held to the same buffer, and each way of using a view that is held to a buffer uses the bytes of the
buffer or is refused. What a use depends on is said with two memories that agree on the buffer.
-/

namespace Foreign.View

/-- Views made of `origin` without reading an address from memory. -/
inductive Derived (origin : View) : View → Prop
  | origin : Derived origin origin
  | offset {view : View} (n : Int64) (derived : Derived origin view) : Derived origin (view.offset n)
  | cast {view : View} (type : CType) (derived : Derived origin view) : Derived origin (view.cast type)
  | reference {view : View} (derived : Derived origin view) : Derived origin view.reference
  | borrow {view : View} (derived : Derived origin view) : Derived origin view.borrow
  | field {view next : View} {name : String} (derived : Derived origin view)
      (found : view.field name = .ok next) : Derived origin next
  | element {view next : View} {store : Store} {index : Word} (derived : Derived origin view)
      (read : view.read store index = .ok (.struct next)) : Derived origin next
  | dereference {view next : View} {store : Store} {index : Word} (derived : Derived origin view)
      (reference : view.levels ≠ 0) (read : view.read store index = .ok (.pointer next)) :
      Derived origin next

variable {extent : Buffer} {view : View}

theorem derive_of_field {next : View} {name : String} (found : view.field name = .ok next) :
    ∃ address type, next = view.derive address type := by
  rw [View.field] at found
  split at found
  · split at found
    · obtain ⟨address, -, heq⟩ := Outcome.bind_eq_ok_iff.mp found
      cases heq
      exact ⟨_, _, rfl⟩
    · cases found
  · cases found

theorem derive_of_read_struct {next : View} {store : Store} {index : Word}
    (read : view.read store index = .ok (.struct next)) :
    ∃ address type, next = view.derive address type := by
  obtain ⟨-, heq⟩ | ⟨-, -, heq⟩ := read_eq_ok_iff.mp read
  · cases heq
  · obtain ⟨layout, -, rfl⟩ := valueAt_eq_struct_iff.mp heq.symm
    exact ⟨_, _, rfl⟩

theorem Derived.backed {origin : View} (derived : Derived origin view)
    (backed : origin.backing = .buffer extent) : view.backing = .buffer extent := by
  induction derived with
  | origin => exact backed
  | offset _ _ ih | cast _ _ ih | reference _ ih | borrow _ ih => exact share_of_backed ih
  | field _ found ih =>
      obtain ⟨_, _, rfl⟩ := derive_of_field found
      exact share_of_backed ih
  | element _ read ih =>
      obtain ⟨_, _, rfl⟩ := derive_of_read_struct read
      exact share_of_backed ih
  | dereference _ reference read ih =>
      rw [read_of_reference reference] at read
      cases read
      exact share_of_backed ih

theorem reaches_iff_holds (backed : view.backing = .buffer extent) (ends : extent.Ends) {store : Store}
    {address size : Word} :
    view.reaches store address size = true ↔ extent.Holds address.toNat size.toNat := by
  rw [View.reaches, backed]
  exact Buffer.contains_iff_holds ends

theorem check_of_not_holds (backed : view.backing = .buffer extent) (ends : extent.Ends) (store : Store)
    {address size : Word} (outside : ¬ extent.Holds address.toNat size.toNat) :
    view.check store address size = .error (.fault (.outsideBuffer address size extent)) := by
  rw [check, if_neg (mt (reaches_iff_holds backed ends).mp outside), backed]

theorem check_of_holds (backed : view.backing = .buffer extent) (ends : extent.Ends) (store : Store)
    {address size : Word} (holds : extent.Holds address.toNat size.toNat) :
    view.check store address size = .ok () :=
  check_of_reaches ((reaches_iff_holds backed ends).mpr holds)

theorem ensureExtent_of_not_holds (backed : view.backing = .buffer extent)
    {address size : Word} (outside : ¬ extent.Holds address.toNat size.toNat) :
    view.ensureExtent address size = .error (.value (.outOfExtent address size extent)) :=
  ensureExtent_eq_error_iff.mpr ⟨extent, backed, fun spans => outside spans.2, rfl⟩

theorem ensureExtent_of_holds (backed : view.backing = .buffer extent) (ends : extent.Ends)
    {address size : Word} (holds : extent.Holds address.toNat size.toNat) :
    view.ensureExtent address size = .ok () := by
  rw [ensureExtent_eq_ok_iff]
  intro room h
  cases backed.symm.trans h
  exact ⟨ends, holds⟩

/-- Reading elements: a reference needs no memory, anything else the bytes of the element. -/
structure ReadsInside (extent : Buffer) (view : View) : Prop where
  reference : view.levels ≠ 0 → ∀ index, ∃ next : View, next.backing = .buffer extent ∧
    ∀ store, view.read store index = .ok (.pointer next)
  inside : view.levels = 0 → ∀ store index,
    extent.Holds (view.elementAddress index).toNat view.element.size.toNat →
    view.read store index = .ok (view.valueAt store.memory (view.elementAddress index))
  outside : view.levels = 0 → ∀ store index,
    ¬ extent.Holds (view.elementAddress index).toNat view.element.size.toNat →
    view.read store index =
      .error (.fault (.outsideBuffer (view.elementAddress index) view.element.size extent))
  agree : ∀ (store other : Store) index, store.memory.AgreeOn extent other.memory →
    view.read store index = view.read other index

theorem readsInside_of_backed (backed : view.backing = .buffer extent) (ends : extent.Ends) :
    view.ReadsInside extent := by
  have hinside : view.levels = 0 → ∀ store index,
      extent.Holds (view.elementAddress index).toNat view.element.size.toNat →
      view.read store index = .ok (view.valueAt store.memory (view.elementAddress index)) :=
    fun direct store index holds => read_of_reaches direct ((reaches_iff_holds backed ends).mpr holds)
  have houtside : view.levels = 0 → ∀ store index,
      ¬ extent.Holds (view.elementAddress index).toNat view.element.size.toNat →
      view.read store index =
        .error (.fault (.outsideBuffer (view.elementAddress index) view.element.size extent)) := by
    intro direct store index outside
    rw [read_of_direct direct, check_of_not_holds backed ends store outside]
    rfl
  refine ⟨?_, hinside, houtside, ?_⟩
  · intro reference index
    exact ⟨_, share_of_backed backed, fun store => read_of_reference reference store index⟩
  · intro store other index agree
    by_cases direct : view.levels = 0
    · by_cases holds : extent.Holds (view.elementAddress index).toNat view.element.size.toNat
      · rw [hinside direct store index holds, hinside direct other index holds]
        rw [valueAt_congr (agree.read ends holds)]
      · rw [houtside direct store index holds, houtside direct other index holds]
    · rw [read_of_reference direct, read_of_reference direct]

/-- Writing elements. A write that is done has the element in the buffer and changes nothing outside it;
where a struct comes from a buffer, its bytes are in that buffer. -/
structure WritesInside (extent : Buffer) (view : View) : Prop where
  done : ∀ store later index value, view.write store index value = .ok later →
    view.levels = 0 ∧ extent.Holds (view.elementAddress index).toNat view.element.size.toNat ∧
    later = { store with
      memory := store.memory.write (view.elementAddress index)
        (payload store view.element.size.toNat value) } ∧
    ∀ a, ¬ extent.Holds a.toNat 1 → later.memory.byte a = store.memory.byte a
  source : ∀ store later index (source : View) room, source.backing = .buffer room → room.Ends →
    view.write store index (.struct source) = .ok later →
    room.Holds source.address.toNat view.element.size.toNat
  outside : view.levels = 0 → view.element ≠ .void → ∀ store index value,
    value.fits view.element = true →
    ¬ extent.Holds (view.elementAddress index).toNat view.element.size.toNat →
    view.write store index value =
      .error (.value (.outOfExtent (view.elementAddress index) view.element.size extent))
  sourceOutside : view.levels = 0 → view.element ≠ .void → ∀ store index (source : View) room,
    (Value.struct source).fits view.element = true → source.backing = .buffer room → room.Ends →
    extent.Holds (view.elementAddress index).toNat view.element.size.toNat →
    ¬ room.Holds source.address.toNat view.element.size.toNat →
    view.write store index (.struct source) =
      .error (.value (.outOfExtent source.address view.element.size room))

theorem writesInside_of_backed (backed : view.backing = .buffer extent) (ends : extent.Ends) :
    view.WritesInside extent := by
  refine ⟨?_, ?_, ?_, ?_⟩
  · intro store later index value written
    obtain ⟨direct, -, fits, reaches, -, rfl⟩ := write_eq_ok_iff.mp written
    have holds := (reaches_iff_holds backed ends).mp reaches
    refine ⟨direct, holds, rfl, ?_⟩
    intro a outside
    apply Memory.byte_write_of_not_holds ends _ outside
    rwa [length_payload fits]
  · intro store later index source room backed' ends' written
    obtain ⟨-, -, -, -, reaches, -⟩ := write_eq_ok_iff.mp written
    exact (reaches_iff_holds backed' ends').mp (reaches source rfl)
  · intro direct complete store index value fits outside
    rw [write_of_fits direct complete fits, ensureExtent_of_not_holds backed outside]
    rfl
  · intro direct complete store index source room fits backed' _ holds outside
    rw [write_of_fits direct complete fits, ensureExtent_of_holds backed ends holds, Outcome.ok_bind,
      ensureSourceExtent, ensureExtent_of_not_holds backed' outside]
    rfl

/-- Where a scalar lies, as a number: no product and no sum wraps. -/
def scalarPlace (view : View) (kind : ScalarKind) (index : Word) : Nat :=
  view.address.toNat + index.toNat * kind.size

/-- Reading and writing scalars. -/
structure ScalarsInside (extent : Buffer) (view : View) : Prop where
  read : ∀ store kind index, extent.Holds (view.scalarPlace kind index) kind.size →
    view.readScalar store kind index = .ok (Scalar.decode kind
      (store.memory.read (UInt64.ofNat (view.scalarPlace kind index)) kind.size))
  readOutside : ∀ store kind index, ¬ extent.Holds (view.scalarPlace kind index) kind.size →
    ∃ cause, view.readScalar store kind index = .error (.fault cause)
  write : ∀ store index (scalar : Scalar),
    extent.Holds (view.scalarPlace scalar.kind index) scalar.kind.size →
    view.writeScalar store index scalar =
      .ok { store with
        memory := store.memory.write (UInt64.ofNat (view.scalarPlace scalar.kind index)) scalar.encode }
  writeOutside : ∀ store index (scalar : Scalar),
    ¬ extent.Holds (view.scalarPlace scalar.kind index) scalar.kind.size →
    ∃ cause, view.writeScalar store index scalar = .error (.fault cause)

theorem toNat_size (kind : ScalarKind) : (UInt64.ofNat kind.size).toNat = kind.size := by
  cases kind <;> rfl

theorem scalarAddress_of_lt {kind : ScalarKind} {index : Word}
    (room : view.scalarPlace kind index < 2 ^ 64) :
    view.scalarAddress kind index = .ok (UInt64.ofNat (view.scalarPlace kind index)) := by
  rw [scalarPlace] at room ⊢
  have hdistance : (index * UInt64.ofNat kind.size).toNat = index.toNat * kind.size := by
    rw [Word.toNat_mul_of_lt (by rw [toNat_size]; omega), toNat_size]
  have hplace : view.address + index * UInt64.ofNat kind.size =
      UInt64.ofNat (view.address.toNat + index.toNat * kind.size) := by
    rw [← UInt64.toNat_inj, Word.toNat_add_of_lt (by rw [hdistance]; exact room), hdistance,
      Word.toNat_ofNat_of_lt room]
  rw [scalarAddress, Outcome.product_of_lt (by rw [toNat_size]; omega), Outcome.ok_bind,
    Outcome.sum_of_lt (by rw [hdistance]; exact room), hplace]

theorem scalarAddress_of_le {kind : ScalarKind} {index : Word}
    (wraps : 2 ^ 64 ≤ view.scalarPlace kind index) :
    ∃ cause, view.scalarAddress kind index = .error (.fault cause) := by
  rw [scalarPlace] at wraps
  by_cases fits : index.toNat * kind.size < 2 ^ 64
  · have hdistance : (index * UInt64.ofNat kind.size).toNat = index.toNat * kind.size := by
      rw [Word.toNat_mul_of_lt (by rwa [toNat_size]), toNat_size]
    refine ⟨.addOverflow, ?_⟩
    rw [scalarAddress, Outcome.product_of_lt (by rwa [toNat_size]), Outcome.ok_bind,
      Outcome.sum_of_le (by rwa [hdistance])]
  · refine ⟨.multiplyOverflow, ?_⟩
    rw [scalarAddress, Outcome.product_of_le (by rw [toNat_size]; omega), Outcome.error_bind]

/-- What stands before a scalar access, when the exact place of the scalar is in the buffer. -/
theorem scalar_of_holds (backed : view.backing = .buffer extent) (ends : extent.Ends) (store : Store)
    {kind : ScalarKind} {index : Word} (holds : extent.Holds (view.scalarPlace kind index) kind.size) :
    view.scalarAddress kind index = .ok (UInt64.ofNat (view.scalarPlace kind index)) ∧
      view.check store (UInt64.ofNat (view.scalarPlace kind index)) (UInt64.ofNat kind.size) = .ok () := by
  have room : view.scalarPlace kind index < 2 ^ 64 :=
    Nat.lt_of_le_of_lt (Nat.le_trans (Nat.le_add_right _ _) holds.2) ends
  refine ⟨scalarAddress_of_lt room, check_of_holds backed ends store ?_⟩
  rwa [Word.toNat_ofNat_of_lt room, toNat_size]

/-- Otherwise the access faults before it touches memory: at an operation that would wrap, or at the
check. -/
theorem scalar_of_not_holds (backed : view.backing = .buffer extent) (ends : extent.Ends) (store : Store)
    {kind : ScalarKind} {index : Word}
    (outside : ¬ extent.Holds (view.scalarPlace kind index) kind.size) :
    ∃ cause, ∀ {α : Type} (next : Word → Outcome α),
      (do let address ← view.scalarAddress kind index
          view.check store address (UInt64.ofNat kind.size)
          next address) = .error (.fault cause) := by
  by_cases room : view.scalarPlace kind index < 2 ^ 64
  · refine ⟨.outsideBuffer (UInt64.ofNat (view.scalarPlace kind index)) (UInt64.ofNat kind.size) extent,
      fun next => ?_⟩
    rw [scalarAddress_of_lt room, Outcome.ok_bind, check_of_not_holds backed ends store, Outcome.error_bind]
    rwa [Word.toNat_ofNat_of_lt room, toNat_size]
  · obtain ⟨cause, hfault⟩ := scalarAddress_of_le (Nat.le_of_not_lt room)
    exact ⟨cause, fun next => by rw [hfault, Outcome.error_bind]⟩

theorem scalarsInside_of_backed (backed : view.backing = .buffer extent) (ends : extent.Ends) :
    view.ScalarsInside extent := by
  refine ⟨?_, ?_, ?_, ?_⟩
  · intro store kind index holds
    obtain ⟨haddress, hcheck⟩ := scalar_of_holds backed ends store holds
    rw [readScalar, haddress, Outcome.ok_bind, hcheck]
    rfl
  · intro store kind index outside
    obtain ⟨cause, hfault⟩ := scalar_of_not_holds backed ends store outside
    exact ⟨cause, hfault _⟩
  · intro store index scalar holds
    obtain ⟨haddress, hcheck⟩ := scalar_of_holds backed ends store holds
    rw [writeScalar, haddress, Outcome.ok_bind, hcheck]
    rfl
  · intro store index scalar outside
    obtain ⟨cause, hfault⟩ := scalar_of_not_holds backed ends store outside
    exact ⟨cause, hfault _⟩

/-- Reading text. Only the bytes from the view to the end of the buffer are looked at. -/
structure TextInside (extent : Buffer) (view : View) : Prop where
  null : view.address = 0 → ∀ store, view.readText store = .ok none
  inside : view.address ≠ 0 → ∀ store, extent.Holds view.address.toNat 1 →
    view.readText store = .ok ((untilZero (store.memory.read view.address
      (extent.start.toNat + extent.size.toNat - view.address.toNat))).map Utf8.decode)
  outside : view.address ≠ 0 → ∀ store, ¬ extent.Holds view.address.toNat 1 →
    view.readText store = .error (.fault (.outsideBuffer view.address 1 extent))

theorem textInside_of_backed (backed : view.backing = .buffer extent) (ends : extent.Ends) :
    view.TextInside extent := by
  have hnull : view.address ≠ 0 → view.isNull = false := fun h => beq_false_of_ne h
  refine ⟨?_, ?_, ?_⟩
  · intro h store
    rw [readText, isNull, h]
    rfl
  · intro h store holds
    have hstop : extent.stop.toNat = extent.start.toNat + extent.size.toNat := Word.toNat_add_of_lt ends
    have hle : view.address ≤ extent.stop := by
      rw [UInt64.le_iff_toNat_le, hstop]
      exact Nat.le_trans (Nat.le_add_right _ _) holds.2
    have hsize : (extent.stop - view.address).toNat =
        extent.start.toNat + extent.size.toNat - view.address.toNat := by
      rw [UInt64.toNat_sub_of_le _ _ hle, hstop]
    rw [readText, hnull h, ← hsize]
    simp only [Bool.false_eq_true, if_false, backed]
    rw [check_of_holds backed ends store holds]
    rfl
  · intro h store outside
    rw [readText, hnull h]
    simp only [Bool.false_eq_true, if_false, backed]
    rw [check_of_not_holds backed ends store outside]
    rfl

/-- A view that is held to a buffer, whatever is done with it. -/
structure Confined (extent : Buffer) (view : View) : Prop where
  backed : view.backing = .buffer extent
  reads : view.ReadsInside extent
  writes : view.WritesInside extent
  scalars : view.ScalarsInside extent
  text : view.TextInside extent

/-- All that is made of a view of a buffer is held to the buffer. -/
theorem confined_of_derived {origin : View} (backed : origin.backing = .buffer extent)
    (ends : extent.Ends) (derived : Derived origin view) : view.Confined extent := by
  have hbacked := derived.backed backed
  exact ⟨hbacked, readsInside_of_backed hbacked ends, writesInside_of_backed hbacked ends,
    scalarsInside_of_backed hbacked ends, textInside_of_backed hbacked ends⟩

/-- The last of four numbers taken for a wider one, which runs past the end. -/
theorem confined_of_derived_sample :
    ∃ extent view, Buffer.Ends extent ∧ Derived (ofBuffer extent (.int .w32 true)) view ∧
      view.levels = 0 ∧ (view.elementAddress 0).toNat + view.element.size.toNat = 4116 ∧
      view.read .empty 0 = .error (.fault (.outsideBuffer 4108 8 extent)) ∧
      view.write .empty 0 (.scalar (.zero .f64)) = .error (.value (.outOfExtent 4108 8 extent)) := by
  have ends : Buffer.Ends ⟨4096, 16⟩ := by decide
  have derived : Derived (ofBuffer ⟨4096, 16⟩ (.int .w32 true))
      (((ofBuffer ⟨4096, 16⟩ (.int .w32 true)).offset 3).cast .double) :=
    .cast .double (.offset 3 .origin)
  have outside : ¬ Buffer.Holds ⟨4096, 16⟩ 4108 8 := by decide
  have confined := confined_of_derived rfl ends derived
  exact ⟨_, _, ends, derived, rfl, rfl, confined.reads.outside rfl .empty 0 outside,
    confined.writes.outside rfl (fun h => (nomatch h)) .empty 0 (.scalar (.zero .f64)) rfl outside⟩

end Foreign.View
