import Foreign.Session.Run

/-!
Attempts one after the other. Finding what names, types and values mean leaves the store of a session
alone, so a step that only does that before it writes finds the memory of the session it started in.
-/

namespace Foreign
namespace Attempt

variable {α β : Type}

theorem run_bind (act : Attempt α) (next : α → Attempt β) (session : Session) :
    (act >>= next).run.run session =
      match act.run.run session with
      | (.ok a, later) => (next a).run.run later
      | (.error refusal, later) => (.error refusal, later) := by
  rw [ExceptT.run_bind, StateT.run_bind]
  rcases act.run.run session with ⟨_ | _, later⟩ <;> rfl

theorem run_get (session : Session) :
    (get : Attempt Session).run.run session = (.ok session, session) := rfl

/-- The attempt leaves the store alone, however it ends. -/
def KeepsStore (act : Attempt α) : Prop :=
  ∀ session, (act.run.run session).2.machine.store = session.machine.store

theorem keepsStore_pure (a : α) : KeepsStore (pure a) := fun _ => rfl

theorem keepsStore_throw (refusal : Refusal) : KeepsStore (throw refusal : Attempt α) := fun _ => rfl

theorem KeepsStore.bind {act : Attempt α} {next : α → Attempt β} (h : KeepsStore act)
    (hnext : ∀ a, KeepsStore (next a)) : KeepsStore (act >>= next) := by
  intro session
  have hact := h session
  rw [run_bind]
  generalize act.run.run session = ended at hact
  rcases ended with ⟨_ | a, later⟩
  · exact hact
  · exact (hnext a later).trans hact

theorem keepsStore_record (event : Event) : KeepsStore (record event) := fun _ => rfl

theorem keepsStore_records (events : List Event) : KeepsStore (events.forM record) := by
  induction events with
  | nil => exact keepsStore_pure ()
  | cons event events ih => exact (keepsStore_record event).bind fun _ => ih

theorem run_find (names : Session → List (String × α)) (missing : Refusal) (name : String)
    (session : Session) :
    (find names missing name).run.run session =
      match (names session).lookup name with
      | some meaning => (.ok meaning, session)
      | none => (.error missing, session) := by
  change (match (names session).lookup name with
    | some meaning => pure meaning
    | none => throw missing : Attempt α).run.run session = _
  cases (names session).lookup name <;> rfl

theorem keepsStore_find (names : Session → List (String × α)) (missing : Refusal) (name : String) :
    KeepsStore (find names missing name) := by
  intro session
  rw [run_find]
  cases (names session).lookup name <;> rfl

theorem keepsStore_type (expr : TypeExpr) : KeepsStore (type expr) := by
  have hget : KeepsStore (get : Attempt Session) := fun _ => rfl
  refine hget.bind fun session => (keepsStore_records _).bind fun _ => ?_
  split
  · exact keepsStore_pure _
  · exact keepsStore_throw _
  · exact keepsStore_throw _

theorem keepsStore_value (expr : ValueExpr) : KeepsStore (value expr) := by
  cases expr with
  | void | scalar s => exact keepsStore_pure _
  | pointer name | struct name | function name =>
      exact (keepsStore_find _ _ _).bind fun _ => keepsStore_pure _
  | null pointee => exact (keepsStore_type pointee).bind fun _ => keepsStore_pure _

end Attempt

/-- In the session, `name` is the view and `expr` means the value. -/
structure Session.Names (session : Session) (name : String) (view : View) (expr : ValueExpr)
    (value : Value) : Prop where
  view : ∃ origin, session.views.lookup name = some ⟨view, origin⟩
  value : ∃ later, (Attempt.value expr).run.run session = (.ok value, later)

/-- A step that writes leaves the store that the write does, or the one that was there. -/
theorem Session.Names.take_write {session : Session} {name : String} {view : View} {expr : ValueExpr}
    {value : Value} (names : session.Names name view expr value) (index : Word) :
    ∃ after, session.take (.write name index expr) =
        (((view.write session.machine.store index value).map fun _ => .done).mapError .failed, after) ∧
      after.machine.store =
        (view.write session.machine.store index value).toOption.getD session.machine.store := by
  obtain ⟨origin, named⟩ := names.view
  obtain ⟨later, means⟩ := names.value
  have hstore : later.machine.store = session.machine.store := by
    have h := Attempt.keepsStore_value expr session
    rwa [means] at h
  rw [Session.take, Step.attempt, Attempt.write, Attempt.run_bind, Attempt.view, Attempt.run_find, named]
  simp only [Attempt.run_bind, Attempt.run_get, means, hstore]
  cases view.write session.machine.store index value with
  | error failure => exact ⟨later, rfl, hstore⟩
  | ok store => exact ⟨_, rfl, rfl⟩

end Foreign
