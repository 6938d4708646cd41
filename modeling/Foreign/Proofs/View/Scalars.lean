import Foreign.Proofs.View.Confinement
import Foreign.Proofs.View.RoundTrip

/-!
Scalars as elements. An access to a scalar finds its place by arithmetic that faults where it would wrap, and
takes the number of its bytes from the kind; an access to an element wraps, and asks the type. While the
place is in the address space the two are one and the same, whatever the elements of the view are, except
that a write outside the buffer is a fault for the one and an error for the other.
-/

namespace Foreign

namespace ScalarKind

theorem scalarKind?_type (kind : ScalarKind) : kind.type.scalarKind? = some kind := by
  cases kind <;> rfl

theorem size_type (kind : ScalarKind) : kind.type.size = UInt64.ofNat kind.size := by
  cases kind <;> rfl

theorem stride_type (kind : ScalarKind) : kind.type.stride = UInt64.ofNat kind.size := by
  cases kind <;> rfl

theorem type_ne_void (kind : ScalarKind) : kind.type ≠ .void := by
  intro h
  cases kind <;> cases h

theorem isPlain_type (kind : ScalarKind) : kind.type.IsPlain := by
  intro layout h
  cases kind <;> cases h

end ScalarKind

namespace View

/-- What a write of a scalar comes to, and the write of the same element. -/
inductive WritesAlike : Outcome Store → Outcome Store → Prop
  | done (later : Store) : WritesAlike (.ok later) (.ok later)
  | outside (address size : Word) (extent : Buffer) :
      WritesAlike (.error (.fault (.outsideBuffer address size extent)))
        (.error (.value (.outOfExtent address size extent)))
  | missing : WritesAlike (.error .undefined) (.error .undefined)

theorem WritesAlike.fault_iff {scalar element : Outcome Store} (alike : WritesAlike scalar element) :
    (∃ cause, scalar = .error (.fault cause)) ↔
      ∃ address size extent, element = .error (.value (.outOfExtent address size extent)) := by
  cases alike <;> simp

theorem WritesAlike.eq_of_no_fault {scalar element : Outcome Store}
    (alike : WritesAlike scalar element) (calm : ∀ cause, scalar ≠ .error (.fault cause)) :
    scalar = element := by
  cases alike with
  | done later => rfl
  | outside address size extent => exact absurd rfl (calm _)
  | missing => rfl

variable {view : View} {store : Store} {kind : ScalarKind} {index : Word}

theorem elementAddress_cast (view : View) (kind : ScalarKind) (index : Word) :
    (view.cast kind.type).elementAddress index = UInt64.ofNat (view.scalarPlace kind index) := by
  have hstep : (view.cast kind.type).step = UInt64.ofNat kind.size :=
    (step_of_direct rfl kind.type_ne_void).trans kind.stride_type
  rw [elementAddress, hstep]
  change view.address + index * UInt64.ofNat kind.size = _
  rw [scalarPlace, UInt64.ofNat_add, UInt64.ofNat_mul, UInt64.ofNat_toNat,
    UInt64.ofNat_toNat]

theorem readScalar_of_lt (room : view.scalarPlace kind index < 2 ^ 64) (store : Store) :
    view.readScalar store kind index =
      (view.check store (UInt64.ofNat (view.scalarPlace kind index)) (UInt64.ofNat kind.size)).map
        fun _ => Scalar.decode kind
          (store.memory.read (UInt64.ofNat (view.scalarPlace kind index)) kind.size) := by
  rw [readScalar, scalarAddress_of_lt room, Outcome.ok_bind]
  cases view.check store (UInt64.ofNat (view.scalarPlace kind index)) (UInt64.ofNat kind.size) <;> rfl

theorem writeScalar_of_lt {scalar : Scalar} (room : view.scalarPlace scalar.kind index < 2 ^ 64)
    (store : Store) :
    view.writeScalar store index scalar =
      (view.check store (UInt64.ofNat (view.scalarPlace scalar.kind index))
        (UInt64.ofNat scalar.kind.size)).map fun _ =>
          { store with
            memory := store.memory.write (UInt64.ofNat (view.scalarPlace scalar.kind index))
              scalar.encode } := by
  rw [writeScalar, scalarAddress_of_lt room, Outcome.ok_bind]
  cases view.check store (UInt64.ofNat (view.scalarPlace scalar.kind index))
    (UInt64.ofNat scalar.kind.size) <;> rfl

theorem check_cast (view : View) (type : CType) (store : Store) (address size : Word) :
    (view.cast type).check store address size = view.check store address size := by
  rw [check, check, cast, reaches_derive, derive]
  cases view.backing <;> rfl

theorem read_cast (room : view.scalarPlace kind index < 2 ^ 64) (store : Store) :
    (view.cast kind.type).read store index = (view.readScalar store kind index).map .scalar := by
  have hvalue : ∀ address, (view.cast kind.type).valueAt store.memory address =
      .scalar (Scalar.decode kind (store.memory.read address kind.size)) := by
    intro address
    rw [valueAt_of_plain kind.isPlain_type]
    change Value.decode kind.type (store.memory.read address kind.type.size.toNat) = _
    rw [Value.decode_of_scalarKind? kind.scalarKind?_type, kind.size_type, toNat_size]
  rw [read_of_direct rfl, elementAddress_cast, check_cast, hvalue, readScalar_of_lt room]
  change (view.check store _ kind.type.size).map _ = _
  rw [kind.size_type]
  cases view.check store (UInt64.ofNat (view.scalarPlace kind index)) (UInt64.ofNat kind.size) <;> rfl

/-- Both writes are settled by whether the bytes may be used, and where not by the backing of the view. -/
theorem writesAlike_cast {scalar : Scalar} (room : view.scalarPlace scalar.kind index < 2 ^ 64)
    (store : Store) :
    WritesAlike (view.writeScalar store index scalar)
      ((view.cast scalar.kind.type).write store index (.scalar scalar)) := by
  have fits : (Value.scalar scalar).fits scalar.kind.type = true :=
    Value.fits_iff.mpr (.scalar scalar.kind.scalarKind?_type)
  have hplace := view.elementAddress_cast scalar.kind index
  have hsize : (view.cast scalar.kind.type).element.size = UInt64.ofNat scalar.kind.size :=
    scalar.kind.size_type
  rw [writeScalar_of_lt room, write_of_fits rfl scalar.kind.type_ne_void fits, hplace, hsize]
  generalize UInt64.ofNat (view.scalarPlace scalar.kind index) = address
  generalize UInt64.ofNat scalar.kind.size = size
  have hbacking : (view.cast scalar.kind.type).backing = view.backing.share := rfl
  rw [check, reaches, ensureExtent, ensureLive, hbacking]
  cases view.backing with
  | buffer extent =>
      cases inside : extent.contains address size with
      | true =>
          simp only [Backing.share, inside, if_true, Outcome.ok_bind, ensureSourceExtent]
          exact .done _
      | false =>
          simp only [Backing.share, inside, Bool.false_eq_true, if_false]
          exact .outside address size extent
  | borrowed | heap =>
      cases store.allows address size with
      | true =>
          simp only [Backing.share, if_true, Outcome.ok_bind, ensureSourceExtent]
          exact .done _
      | false =>
          simp only [Backing.share, Bool.false_eq_true, if_false, Outcome.ok_bind,
            ensureSourceExtent]
          exact .missing

/-- Where the place of a scalar is in the address space, it is read and written as an element of its own
type is. -/
theorem scalar_access_agrees (view : View) (store : Store) {kind : ScalarKind} {index : Word}
    (room : view.scalarPlace kind index < 2 ^ 64) :
    (view.cast kind.type).read store index = (view.readScalar store kind index).map .scalar ∧
    ∀ scalar : Scalar, scalar.kind = kind →
      ((∃ cause, view.writeScalar store index scalar = .error (.fault cause)) ↔
        ∃ address size extent, (view.cast kind.type).write store index (.scalar scalar) =
          .error (.value (.outOfExtent address size extent))) ∧
      ((∀ cause, view.writeScalar store index scalar ≠ .error (.fault cause)) →
        view.writeScalar store index scalar =
          (view.cast kind.type).write store index (.scalar scalar)) := by
  refine ⟨read_cast room store, ?_⟩
  rintro scalar rfl
  have alike := writesAlike_cast room store
  exact ⟨alike.fault_iff, alike.eq_of_no_fault⟩

/-- The second number and the third, of which there is none, of a pair seen through a reference. -/
theorem scalar_access_agrees_pair :
    let view := (ofBuffer ⟨4096, 8⟩ (.struct Layout.samplePair)).reference
    let store : Store := ⟨Memory.zeros.write 4096 [1, 2, 3, 4, 5, 6, 7, 8], []⟩
    view.scalarPlace .i32 1 < 2 ^ 64 ∧ view.scalarPlace .i32 2 < 2 ^ 64 ∧
      (view.cast (.int .w32 true)).read store 1 = .ok (.scalar (.ofNat .i32 0x08070605)) ∧
      ∃ address size extent, (view.cast (.int .w32 true)).write store 2 (.scalar (.zero .i32)) =
        .error (.value (.outOfExtent address size extent)) := by
  intro view store
  have room : view.scalarPlace .i32 1 < 2 ^ 64 := by decide
  have room' : view.scalarPlace .i32 2 < 2 ^ 64 := by decide
  have reads := (scalar_access_agrees view store room).1
  have writes := (scalar_access_agrees view store room').2 (.zero .i32) rfl
  have bytes : store.memory.read 4100 4 = [5, 6, 7, 8] := by decide
  have scalar : view.readScalar store .i32 1 = .ok (.ofNat .i32 0x08070605) := by
    rw [readScalar_of_lt room]
    change (view.check store 4100 4).map (fun _ => Scalar.decode .i32 (store.memory.read 4100 4)) = _
    rw [bytes]
    rfl
  rw [scalar] at reads
  exact ⟨room, room', reads, writes.1.mp ⟨_, rfl⟩⟩

end View
end Foreign
