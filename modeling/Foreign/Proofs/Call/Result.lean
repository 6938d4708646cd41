import Foreign.Call.Dispatch
import Foreign.Proofs.Call.Storage
import Foreign.Proofs.Layout.Placement

/-!
Results that are not accepted from a callback. A value of another type than the result's leaves zeros. A
struct that lies outside its own buffer is of the right type, is refused only when its bytes are asked for,
and leaves in the storage what was there.
-/

namespace Foreign

theorem drop_overlay (storage : List UInt8) {bytes : List UInt8} {n : Nat} (h : bytes.length ≤ n) :
    (overlay storage bytes).drop n = storage.drop n := by
  rw [overlay, List.drop_append, List.drop_eq_nil_of_le h, List.nil_append, List.drop_drop,
    Nat.add_sub_cancel' h]

namespace Marshal

/-- The bytes of the result in the storage are zero. -/
def Zeroed (type : CType) (storage : List UInt8) : Prop :=
  storage.take (resultWidth type) = List.replicate (resultWidth type) 0

/-- The values that are not accepted, with what is in the storage after them. -/
inductive Rejected (type : CType) (storage : List UInt8) : Value → List UInt8 → Prop
  | mismatch {value : Value} (complete : type ≠ .void) (unfit : value.fits type = false) :
      Rejected type storage value (overlay storage (List.replicate (resultWidth type) 0))
  | outside {source : View} {extent : Buffer} (fits : (Value.struct source).fits type = true)
      (backed : source.backing = .buffer extent)
      (leaves : ¬ extent.Spans source.address type.size) :
      Rejected type storage (.struct source) storage

variable {store : Store} {type : CType} {value : Value} {storage after : List UInt8}

theorem writeResult_of_unfit (complete : type ≠ .void) (unfit : value.fits type = false) :
    writeResult store type value storage =
      .ok ⟨false, overlay storage (List.replicate (resultWidth type) 0)⟩ := by
  have hvoid := CType.isVoid_of_complete complete
  unfold writeResult
  simp only [hvoid, unfit, Bool.not_false, Bool.false_eq_true, if_false, if_true]

/-- What a result can come to: it is rejected, or bytes of it are laid over the storage. -/
theorem settled {accepted : Bool}
    (written : writeResult store type value storage = .ok ⟨accepted, after⟩) :
    accepted = false ∧ Rejected type storage value after ∨
      accepted = true ∧ ∃ bytes, bytes.length ≤ resultWidth type ∧ after = overlay storage bytes := by
  by_cases void : type = .void
  · subst void
    cases written
    exact .inr ⟨rfl, [], Nat.zero_le _, rfl⟩
  cases fits : value.fits type with
  | false =>
      rw [writeResult_of_unfit void fits] at written
      cases written
      exact .inl ⟨rfl, .mismatch void fits⟩
  | true =>
      by_cases struct : ∃ source, value = .struct source
      · obtain ⟨source, rfl⟩ := struct
        rw [writeResult_of_source storage fits] at written
        cases hextent : source.ensureExtent source.address type.size with
        | error failure =>
            obtain ⟨extent, backed, leaves, -⟩ := View.ensureExtent_eq_error_iff.mp hextent
            rw [hextent] at written
            cases written
            exact .inl ⟨rfl, .outside fits backed leaves⟩
        | ok _ =>
            rw [hextent] at written
            obtain ⟨_, -, ⟨⟩⟩ := Outcome.map_eq_ok_iff.mp written
            refine .inr ⟨rfl, _, ?_, rfl⟩
            rw [Memory.length_read]
            exact size_le_resultWidth type
      · have plain := (Value.fits_iff.mp fits).plain (not_exists.mp struct)
        rw [writeResult_of_number store storage fits void plain] at written
        cases written
        exact .inr ⟨rfl, _, Value.length_widened_le (Value.fits_iff.mp fits) plain, rfl⟩

theorem writeResult_eq_rejected_iff :
    writeResult store type value storage = .ok ⟨false, after⟩ ↔ Rejected type storage value after := by
  constructor
  · intro written
    obtain ⟨-, rejected⟩ | ⟨⟨⟩, -⟩ := settled written
    exact rejected
  · intro rejected
    cases rejected with
    | mismatch complete unfit => exact writeResult_of_unfit complete unfit
    | outside fits backed leaves =>
        rw [writeResult_of_source storage fits,
          View.ensureExtent_eq_error_iff.mpr ⟨_, backed, leaves, rfl⟩]

theorem Rejected.zeroed_iff (rejected : Rejected type storage value after) :
    Zeroed type after ↔ value.fits type = false ∨ Zeroed type storage := by
  cases rejected with
  | mismatch _ unfit =>
      exact iff_of_true (take_overlay storage (List.length_replicate ..)) (.inl unfit)
  | outside fits _ _ => simp only [fits, Bool.true_eq_false, false_or]

theorem Rejected.drop (rejected : Rejected type storage value after) :
    after.drop (resultWidth type) = storage.drop (resultWidth type) := by
  cases rejected with
  | mismatch _ _ => exact drop_overlay storage (Nat.le_of_eq (List.length_replicate ..))
  | outside _ _ _ => rfl

theorem drop_of_writeResult {accepted : Bool}
    (written : writeResult store type value storage = .ok ⟨accepted, after⟩) :
    after.drop (resultWidth type) = storage.drop (resultWidth type) := by
  obtain ⟨-, rejected⟩ | ⟨-, bytes, hlength, rfl⟩ := settled written
  · exact rejected.drop
  · exact drop_overlay storage hlength

theorem finish_of_rejected {machine : Machine} {interface : Interface}
    (rejected : Rejected interface.signature.result
      (Machine.resultStorage interface.signature.result) value after) :
    machine.finish interface value =
      (.ok after, machine.record (.callbackMismatch interface.signature value.kindName)) := by
  rw [Machine.finish]
  simp only [writeResult_eq_rejected_iff.mpr rejected]

/-- Which results are rejected, and what their caller finds. There are zeros for a value of another type, but
for a struct outside its buffer only where there were zeros before; both are reported alike. -/
theorem rejected_zeroed_iff (store : Store) (type : CType) (value : Value) (storage : List UInt8) :
    (∀ after, writeResult store type value storage = .ok ⟨false, after⟩ ↔
      Rejected type storage value after) ∧
    (∀ after, Rejected type storage value after →
      (Zeroed type after ↔ value.fits type = false ∨ Zeroed type storage)) ∧
    (∀ accepted after, writeResult store type value storage = .ok ⟨accepted, after⟩ →
      after.drop (resultWidth type) = storage.drop (resultWidth type)) ∧
    ∀ (machine : Machine) (interface : Interface) (after : List UInt8),
      interface.signature.result = type → Machine.resultStorage type = storage →
      Rejected type storage value after →
      machine.finish interface value =
        (.ok after, machine.record (.callbackMismatch interface.signature value.kindName)) := by
  refine ⟨fun after => writeResult_eq_rejected_iff, fun after => Rejected.zeroed_iff,
    fun accepted after => drop_of_writeResult, ?_⟩
  rintro machine interface after rfl rfl rejected
  exact finish_of_rejected rejected

/-- A pair behind its buffer is rejected, and the caller finds the bytes that were in the storage. -/
theorem stale_result :
    let pair := View.ofBuffer ⟨4096, 8⟩ (.struct Layout.samplePair)
    let storage := List.replicate 8 0xaa
    writeResult .empty pair.element (.struct (pair.offset 1)) storage = .ok ⟨false, storage⟩ ∧
      ¬ Zeroed pair.element storage := by
  intro pair storage
  have leaves : ¬ Buffer.Spans ⟨4096, 8⟩ (pair.offset 1).address pair.element.size := by decide
  refine ⟨writeResult_eq_rejected_iff.mpr ?_, by unfold Zeroed; decide⟩
  exact .outside (Value.fits_iff.mpr (.struct rfl)) rfl leaves

end Marshal
end Foreign
