import Foreign.Proofs.Session.Attempt
import Foreign.Proofs.View.Access

/-!
What a write does. It is refused for the first reason that holds, and memory stays as it was; or it is
done, and the bytes of the element become those of the value while all others stay. The bytes of a struct
are the ones its source had before the write, wherever the two lie. The last reason stands for memory that
the program does not own, where nothing is defined.
-/

namespace Foreign

/-- The byte of a value in its place `i`: of a number the least significant comes first, of a struct they
are in memory. -/
def Value.byteAt (memory : Memory) (i : Nat) : Value → UInt8
  | .void => 0
  | .scalar s => UInt8.ofNat (s.bits.toNat >>> (8 * i))
  | .pointer view => UInt8.ofNat (view.address.toNat >>> (8 * i))
  | .struct source => memory.byte (source.address + UInt64.ofNat i)

namespace View

/-- The view takes the value: it is no reference, and its element is not void and the value fits it. -/
def Takes (view : View) (value : Value) : Prop :=
  view.levels = 0 ∧ view.element ≠ .void ∧ value.fits view.element = true

/-- The source of a struct has `size` bytes in its buffer, if it has one. -/
def SourceKeeps (size : Word) (value : Value) : Prop :=
  ∀ source, value = .struct source → source.Keeps source.address size

def SourceLive (store : Store) (size : Word) (value : Value) : Prop :=
  ∀ source, value = .struct source → source.Live store source.address size

/-- The reasons for refusing a write, each where the ones above it do not hold. -/
inductive Refuses (view : View) (store : Store) (index : Word) (value : Value) : Failure → Prop
  | reference (levels : view.levels ≠ 0) :
      Refuses view store index value (.value .readOnlyIndirection)
  | mismatch (direct : view.levels = 0)
      (unfit : view.element = .void ∨ value.fits view.element = false) :
      Refuses view store index value (.value (.typeMismatch view.element value.kindName))
  | place {extent : Buffer} (takes : view.Takes value) (backed : view.backing = .buffer extent)
      (leaves : ¬ extent.Spans (view.elementAddress index) view.element.size) :
      Refuses view store index value
        (.value (.outOfExtent (view.elementAddress index) view.element.size extent))
  | source {source : View} {extent : Buffer} (takes : view.Takes value)
      (keeps : view.Keeps (view.elementAddress index) view.element.size)
      (struct : value = .struct source) (backed : source.backing = .buffer extent)
      (leaves : ¬ extent.Spans source.address view.element.size) :
      Refuses view store index value (.value (.outOfExtent source.address view.element.size extent))
  | memory (takes : view.Takes value)
      (keeps : view.Keeps (view.elementAddress index) view.element.size)
      (sourceKeeps : SourceKeeps view.element.size value)
      (missing : ¬ (view.Live store (view.elementAddress index) view.element.size ∧
        SourceLive store view.element.size value)) :
      Refuses view store index value .undefined

/-- What a write that is done leaves. -/
structure Written (view : View) (store : Store) (index : Word) (value : Value) (later : Store) :
    Prop where
  blocks : later.blocks = store.blocks
  inside : ∀ i < view.element.size.toNat,
    later.memory.byte (view.elementAddress index + UInt64.ofNat i) = value.byteAt store.memory i
  outside : ∀ a, (∀ i < view.element.size.toNat, a ≠ view.elementAddress index + UInt64.ofNat i) →
    later.memory.byte a = store.memory.byte a

theorem ensureSourceExtent_eq_ok_iff {size : Word} {value : Value} :
    ensureSourceExtent size value = .ok () ↔ SourceKeeps size value := by
  cases value <;> simp [ensureSourceExtent, SourceKeeps, ensureExtent_eq_ok_iff]

theorem ensureSourceExtent_eq_error_iff {size : Word} {value : Value} {failure : Failure} :
    ensureSourceExtent size value = .error failure ↔
      ∃ source extent, value = .struct source ∧ source.backing = .buffer extent ∧
        ¬ extent.Spans source.address size ∧
        failure = .value (.outOfExtent source.address size extent) := by
  cases value <;> simp [ensureSourceExtent, ensureExtent_eq_error_iff]

theorem ensureSourceLive_eq_error_iff {store : Store} {size : Word} {value : Value}
    {failure : Failure} :
    ensureSourceLive store size value = .error failure ↔
      ¬ SourceLive store size value ∧ failure = .undefined := by
  cases value <;> simp [ensureSourceLive, SourceLive, ensureLive_eq_error_iff]

variable {view : View} {store later : Store} {index : Word} {value : Value} {failure : Failure}

theorem refuses_of_write_error (h : view.write store index value = .error failure) :
    view.Refuses store index value failure := by
  by_cases direct : view.levels = 0
  · by_cases fits : view.element ≠ .void ∧ value.fits view.element = true
    · have takes : view.Takes value := ⟨direct, fits⟩
      -- the two extents are checked before either memory is looked for
      rw [write_of_fits direct fits.1 fits.2] at h
      rcases Outcome.bind_eq_error_iff.mp h with h | ⟨⟨⟩, hextent, h⟩
      · obtain ⟨extent, backed, leaves, rfl⟩ := ensureExtent_eq_error_iff.mp h
        exact .place takes backed leaves
      have keeps := ensureExtent_eq_ok_iff.mp hextent
      rcases Outcome.bind_eq_error_iff.mp h with h | ⟨⟨⟩, hsource, h⟩
      · obtain ⟨source, extent, struct, backed, leaves, rfl⟩ := ensureSourceExtent_eq_error_iff.mp h
        exact .source takes keeps struct backed leaves
      have sourceKeeps := ensureSourceExtent_eq_ok_iff.mp hsource
      rcases Outcome.bind_eq_error_iff.mp h with h | ⟨⟨⟩, -, h⟩
      · obtain ⟨missing, rfl⟩ := ensureLive_eq_error_iff.mp h
        exact .memory takes keeps sourceKeeps (mt And.left missing)
      rcases Outcome.bind_eq_error_iff.mp h with h | ⟨⟨⟩, -, ⟨⟩⟩
      obtain ⟨missing, rfl⟩ := ensureSourceLive_eq_error_iff.mp h
      exact .memory takes keeps sourceKeeps (mt And.right missing)
    · rw [write_of_unfit direct fits] at h
      cases h
      rw [not_and_or, not_not, Bool.not_eq_true] at fits
      exact .mismatch direct fits
  · rw [write_of_reference direct] at h
    cases h
    exact .reference direct

theorem write_of_refuses (h : view.Refuses store index value failure) :
    view.write store index value = .error failure := by
  cases h with
  | reference levels => exact write_of_reference levels store index value
  | mismatch direct unfit =>
      apply write_of_unfit direct
      rwa [not_and_or, not_not, Bool.not_eq_true]
  | place takes backed leaves =>
      rw [write_of_fits takes.1 takes.2.1 takes.2.2,
        ensureExtent_eq_error_iff.mpr ⟨_, backed, leaves, rfl⟩]
      rfl
  | source takes keeps struct backed leaves =>
      rw [write_of_fits takes.1 takes.2.1 takes.2.2, ensureExtent_eq_ok_iff.mpr keeps,
        ensureSourceExtent_eq_error_iff.mpr ⟨_, _, struct, backed, leaves, rfl⟩]
      rfl
  | memory takes keeps sourceKeeps missing =>
      rw [write_of_fits takes.1 takes.2.1 takes.2.2, ensureExtent_eq_ok_iff.mpr keeps,
        ensureSourceExtent_eq_ok_iff.mpr sourceKeeps]
      by_cases live : view.Live store (view.elementAddress index) view.element.size
      · rw [ensureLive_eq_ok_iff.mpr live,
          ensureSourceLive_eq_error_iff.mpr ⟨fun source => missing ⟨live, source⟩, rfl⟩]
        rfl
      · rw [ensureLive_eq_error_iff.mpr ⟨live, rfl⟩]
        rfl

theorem write_eq_error_iff :
    view.write store index value = .error failure ↔ view.Refuses store index value failure :=
  ⟨refuses_of_write_error, write_of_refuses⟩

theorem getElem_payload {size i : Nat} (hi : i < (payload store size value).length) :
    (payload store size value)[i] = value.byteAt store.memory i := by
  cases value with
  | void => cases hi
  | scalar s => exact LittleEndian.getElem_encode _ hi
  | pointer target => exact LittleEndian.getElem_encode _ hi
  | struct source => simp [payload, Memory.read, Value.byteAt]

theorem written_of_write (h : view.write store index value = .ok later) :
    view.Written store index value later := by
  obtain ⟨-, -, fits, -, -, rfl⟩ := write_eq_ok_iff.mp h
  have hlength := length_payload fits store
  refine ⟨rfl, ?_, ?_⟩
  · intro i hi
    rw [← hlength] at hi
    rw [Memory.byte_write_add hi, getElem_payload]
    rw [hlength]
    exact Nat.le_of_lt view.element.size.toNat_lt
  · intro a outside
    apply Memory.byte_write_of_ne
    rwa [hlength]

theorem exists_written (h : ∀ failure, ¬ view.Refuses store index value failure) :
    ∃ later, view.write store index value = .ok later ∧ view.Written store index value later := by
  cases hwrite : view.write store index value with
  | error failure => exact absurd (refuses_of_write_error hwrite) (h failure)
  | ok later => exact ⟨later, rfl, written_of_write hwrite⟩

/-- A write is refused for the first reason that holds, and done where none does. In a session a refused one
leaves the store as it was. -/
theorem write_all_or_nothing (view : View) (store : Store) (index : Word) (value : Value) :
    (∀ failure, view.write store index value = .error failure ↔
      view.Refuses store index value failure) ∧
    ((∀ failure, ¬ view.Refuses store index value failure) → ∃ later,
      view.write store index value = .ok later ∧ view.Written store index value later) ∧
    ∀ (session : Session) (name : String) (expr : ValueExpr),
      session.machine.store = store → session.Names name view expr value →
      (∀ failure, view.Refuses store index value failure → ∃ after,
        session.take (.write name index expr) = (.error (.failed failure), after) ∧
        after.machine.store = store) ∧
      ((∀ failure, ¬ view.Refuses store index value failure) → ∃ after,
        session.take (.write name index expr) = (.ok .done, after) ∧
        view.Written store index value after.machine.store) := by
  refine ⟨fun failure => write_eq_error_iff, exists_written, ?_⟩
  rintro session name expr rfl names
  obtain ⟨after, taken, hstore⟩ := names.take_write index
  constructor
  · intro failure refuses
    rw [write_of_refuses refuses] at taken hstore
    exact ⟨after, taken, hstore⟩
  · intro none
    obtain ⟨later, hwrite, written⟩ := exists_written none
    rw [hwrite] at taken hstore
    refine ⟨after, taken, ?_⟩
    rw [hstore]
    exact written

/-- A pair that is written one byte on, over its own second half. -/
example :
    let pair : CType := .struct ⟨"pair", [⟨"a", .int .w8 false, 1, 0⟩, ⟨"b", .int .w8 false, 1, 1⟩], 2, 1⟩
    let source := ofBuffer ⟨4096, 3⟩ pair
    let store : Store := ⟨Memory.zeros.write 4096 [1, 2, 3], []⟩
    ((source.cast (.int .w8 false)).offset 1 |>.cast pair |>.write store 0 (.struct source)).map
      (fun later => later.memory.read 4096 3) = .ok [1, 1, 2] := by
  cbv

end Foreign.View
