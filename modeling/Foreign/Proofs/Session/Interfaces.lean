import Foreign.Proofs.Call.Interface
import Foreign.Proofs.Session.Attempt

/-!
A session that is asked for interfaces, time and again and for signatures that may have none. What it
answers is what it would answer without a cache; the cache only makes equal signatures share their
interface, and a signature without an interface leaves it as it was.
-/

namespace Foreign

namespace Session

/-- What asking a session for an interface comes to, and the session afterwards. -/
def ask (session : Session) (signature : Signature) : Except Refusal Interface × Session :=
  (Attempt.interface signature).run.run session

/-- The session as if no interface had been asked for. -/
def uncached (session : Session) : Session :=
  { session with machine := { session.machine with interfaces := [] } }

theorem ask_of_ok {session : Session} {signature : Signature} {interface : Interface}
    {interfaces : Interfaces}
    (built : session.machine.interfaces.build signature = .ok (interface, interfaces)) :
    session.ask signature =
      (.ok interface, { session with machine := { session.machine with interfaces } }) := by
  have hmachine := Machine.interface_eq_ok_iff.mpr ⟨interfaces, built, rfl⟩
  rw [ask, Attempt.interface, Attempt.onMachine, Attempt.run_bind, Attempt.run_get]
  dsimp only
  rw [hmachine]
  rfl

theorem ask_of_error {session : Session} {signature : Signature} {failure : Failure}
    (built : session.machine.interfaces.build signature = .error failure) :
    session.ask signature = (.error (.failed failure), session) := by
  have hmachine : session.machine.interface signature = .error failure := by
    rw [Machine.interface, built]
    rfl
  rw [ask, Attempt.interface, Attempt.onMachine, Attempt.run_bind, Attempt.run_get]
  dsimp only
  rw [hmachine]
  cases failure <;> rfl

theorem ask_contents {session : Session} (lawful : session.machine.interfaces.Lawful)
    (signature : Signature) :
    (session.ask signature).1.map Interface.contents =
      ((Interface.prepare 0 signature).map Interface.contents).mapError .failed := by
  rw [← lawful.build_contents]
  cases built : session.machine.interfaces.build signature with
  | ok made =>
      rw [ask_of_ok built]
      rfl
  | error failure =>
      rw [ask_of_error built]
      rfl

end Session

/-- A session with the signatures that it was asked for, and what each of them came to. -/
structure Asked where
  session : Session
  answers : List (Signature × Except Refusal Interface)

namespace Asked

def step (asked : Asked) (signature : Signature) : Asked :=
  let (answer, session) := asked.session.ask signature
  ⟨session, asked.answers ++ [(signature, answer)]⟩

def steps (asked : Asked) (signatures : List Signature) : Asked :=
  signatures.foldl step asked

def ofSignatures (session : Session) (signatures : List Signature) : Asked :=
  steps ⟨session.uncached, []⟩ signatures

def interfaces (asked : Asked) : Interfaces :=
  asked.session.machine.interfaces

/-- The interface that the cache has for a signature. -/
def cached? (asked : Asked) (signature : Signature) : Option Interface :=
  asked.interfaces.find? (·.signature = signature)

/-- What every step keeps: the cache holds the interfaces that were given out and no others, and each
answer is the one that a session without a cache would give. -/
structure Invariant (asked : Asked) : Prop where
  lawful : asked.interfaces.Lawful
  entries : ∀ interface ∈ asked.interfaces, (interface.signature, .ok interface) ∈ asked.answers
  given : ∀ signature interface, (signature, .ok interface) ∈ asked.answers →
    interface ∈ asked.interfaces ∧ interface.signature = signature
  alone : ∀ signature answer, (signature, answer) ∈ asked.answers →
    answer.map Interface.contents =
      ((Interface.prepare 0 signature).map Interface.contents).mapError .failed

theorem Invariant.step {asked : Asked} (invariant : asked.Invariant) (signature : Signature) :
    (asked.step signature).Invariant := by
  have halone : ∀ other answer,
      (other, answer) ∈ asked.answers ++ [(signature, (asked.session.ask signature).1)] →
      answer.map Interface.contents =
        ((Interface.prepare 0 other).map Interface.contents).mapError .failed := by
    intro other answer mem
    rcases List.mem_append.mp mem with earlier | last
    · exact invariant.alone other answer earlier
    · obtain ⟨rfl, rfl⟩ := Prod.mk.inj (List.mem_singleton.mp last)
      exact asked.session.ask_contents invariant.lawful other
  rw [Asked.step]
  cases built : asked.session.machine.interfaces.build signature with
  | error failure =>
      rw [Session.ask_of_error built] at halone ⊢
      refine ⟨invariant.lawful, ?_, ?_, halone⟩
      · intro interface mem
        exact List.mem_append_left _ (invariant.entries interface mem)
      · intro other interface mem
        rcases List.mem_append.mp mem with earlier | last
        · exact invariant.given other interface earlier
        · cases List.mem_singleton.mp last
  | ok made =>
      obtain ⟨interface, next⟩ := made
      rw [Session.ask_of_ok built] at halone ⊢
      obtain ⟨hlawful, hmem⟩ := invariant.lawful.build built
      have hsignature := Interfaces.signature_of_build built
      refine ⟨hlawful, ?_, ?_, halone⟩
      · intro entry mem
        rcases (hmem entry).mp mem with heq | earlier
        · rw [heq, hsignature]
          exact List.mem_append_right _ List.mem_cons_self
        · exact List.mem_append_left _ (invariant.entries entry earlier)
      · intro other entry mem
        rcases List.mem_append.mp mem with earlier | last
        · obtain ⟨hentry, hother⟩ := invariant.given other entry earlier
          exact ⟨(hmem entry).mpr (.inr hentry), hother⟩
        · cases List.mem_singleton.mp last
          exact ⟨(hmem interface).mpr (.inl rfl), hsignature⟩

theorem Invariant.steps {asked : Asked} (invariant : asked.Invariant) (signatures : List Signature) :
    (asked.steps signatures).Invariant := by
  induction signatures generalizing asked with
  | nil => exact invariant
  | cons signature rest ih => exact ih (invariant.step signature)

theorem invariant_ofSignatures (session : Session) (signatures : List Signature) :
    (ofSignatures session signatures).Invariant := by
  apply Invariant.steps
  exact ⟨Interfaces.lawful_nil, by simp [interfaces, Session.uncached], by simp, by simp⟩

/-- What holds of a session that has been asked: which interfaces it keeps, what it answered, when two
answers share an interface, and what becomes of it when a signature has none. -/
structure Transparent (asked : Asked) : Prop where
  entry : ∀ signature interface, asked.cached? signature = some interface ↔
    (signature, .ok interface) ∈ asked.answers
  keyed : ∀ signature interface, asked.cached? signature = some interface →
    interface.signature = signature ∧
      Convention.platform.shapes signature.parameters = .ok interface.shapes
  found : ∀ interface ∈ asked.interfaces, asked.cached? interface.signature = some interface
  alone : ∀ signature answer, (signature, answer) ∈ asked.answers →
    answer.map Interface.contents = (asked.session.uncached.ask signature).1.map Interface.contents
  shared : ∀ signature other interface interface', (signature, .ok interface) ∈ asked.answers →
    (other, .ok interface') ∈ asked.answers →
    (interface.serial = interface'.serial ↔
      signature.parameters = other.parameters ∧ signature.result = other.result) ∧
    (interface.serial = interface'.serial → interface = interface')
  failed : ∀ signature refusal, (asked.session.ask signature).1 = .error refusal →
    (asked.session.ask signature).2 = asked.session

/-- Types that are equal only by structure: they are told apart though they are alike to look at. -/
structure ToldApart : Prop where
  long : ∀ signed, CType.int .long signed ≠ .int .w64 signed
  struct : ∀ layout other : Layout, layout.name = other.name → layout.fields ≠ other.fields →
    CType.struct layout ≠ .struct other ∧ (CType.struct layout).text = (CType.struct other).text

theorem toldApart : ToldApart := by
  refine ⟨fun _ h => (nomatch h), fun layout other name fields => ⟨?_, ?_⟩⟩
  · intro same
    exact fields (congrArg Layout.fields (CType.struct.inj same))
  · rw [CType.text, CType.text, name]

/-- The cache of interfaces shows in nothing but in which answers are one and the same, whatever a session
was asked before. -/
theorem ofSignatures_transparent (session : Session) (signatures : List Signature) :
    (ofSignatures session signatures).Transparent ∧ ToldApart := by
  have invariant := invariant_ofSignatures session signatures
  generalize ofSignatures session signatures = asked at invariant
  have hentry : ∀ signature interface, asked.cached? signature = some interface ↔
      (signature, .ok interface) ∈ asked.answers := by
    intro signature interface
    rw [cached?, invariant.lawful.find?_eq_some_iff]
    constructor
    · rintro ⟨mem, rfl⟩
      exact invariant.entries interface mem
    · exact invariant.given signature interface
  refine ⟨⟨hentry, ?_, ?_, ?_, ?_, ?_⟩, toldApart⟩
  · intro signature interface cached
    obtain ⟨mem, rfl⟩ := invariant.lawful.find?_eq_some_iff.mp cached
    obtain ⟨-, _, _, shapes, -, -, hshapes, heq⟩ :=
      Interface.prepare_eq_ok_iff.mp (invariant.lawful.prepared interface mem)
    rw [heq]
    exact ⟨rfl, hshapes⟩
  · intro interface mem
    exact invariant.lawful.find?_eq_some_iff.mpr ⟨mem, rfl⟩
  · intro signature answer mem
    rw [invariant.alone signature answer mem, Session.ask_contents Interfaces.lawful_nil]
  · intro signature other interface interface' given given'
    obtain ⟨mem, rfl⟩ := invariant.given _ _ given
    obtain ⟨mem', rfl⟩ := invariant.given _ _ given'
    have hserial := invariant.lawful.eq_of_serial mem mem'
    refine ⟨⟨fun same => ?_, fun ⟨parameters, result⟩ => ?_⟩, hserial⟩
    · rw [hserial same]
      exact ⟨rfl, rfl⟩
    · have same : interface.signature = interface'.signature :=
        Signature.mk.injEq .. ▸ ⟨parameters, result⟩
      rw [invariant.lawful.eq_of_signature mem mem' same]
  · intro signature refusal refused
    cases built : asked.session.machine.interfaces.build signature with
    | ok made =>
        rw [Session.ask_of_ok built] at refused
        cases refused
    | error failure => rw [Session.ask_of_error built]

end Asked
end Foreign
