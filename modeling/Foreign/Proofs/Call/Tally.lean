import Foreign.Proofs.Call.Failure

/-!
What a run of calls counts. A callback may call other functions in its turn, so a run is told by all the
calls that were made in it and how each of them ended. Those that returned have been counted, and so have
those whose struct result had no room; no other call that failed has left a trace.
-/

namespace Foreign.Machine

variable {machine after : Machine}

/-- Neither a call nor the entry of a callback lies between the two. -/
structure Uncounted (machine after : Machine) : Prop where
  calls : after.callsMade = machine.callsMade
  callbacks : after.callbacksEntered = machine.callbacksEntered

theorem Uncounted.refl (machine : Machine) : machine.Uncounted machine :=
  ⟨rfl, rfl⟩

theorem Uncounted.trans {next : Machine} (first : machine.Uncounted next)
    (second : next.Uncounted after) : machine.Uncounted after :=
  ⟨second.calls.trans first.calls, second.callbacks.trans first.callbacks⟩

theorem uncounted_of_receive {type : CType} {bytes : List UInt8} {value : Value}
    (received : machine.receive type bytes = .ok (value, after)) : machine.Uncounted after := by
  unfold receive at received
  split at received
  next layout =>
    cases created : View.newStruct machine.store layout with
    | error cause => cases created ▸ received
    | ok made =>
        cases created ▸ received
        exact ⟨rfl, rfl⟩
  · cases received
    exact .refl _

theorem uncounted_of_receiveFrom {index : Nat} {types : List CType} {arguments : List (List UInt8)}
    {values : List Value} (received : machine.receiveFrom index types arguments = .ok (values, after)) :
    machine.Uncounted after := by
  induction types generalizing machine index arguments values with
  | nil =>
      cases received
      exact .refl _
  | cons type types ih =>
      cases arguments with
      | nil =>
          cases received
          exact .refl _
      | cons bytes arguments =>
          rw [receiveFrom] at received
          obtain ⟨⟨value, next⟩, first, received⟩ := Outcome.bind_eq_ok_iff.mp received
          obtain ⟨⟨all, last⟩, rest, received⟩ := Outcome.bind_eq_ok_iff.mp received
          cases received
          cases hreceive : machine.receive type bytes with
          | error cause => cases hreceive ▸ first
          | ok made =>
              cases hreceive ▸ first
              exact (uncounted_of_receive hreceive).trans (ih rest)

theorem uncounted_finish (machine : Machine) (interface : Interface) (value : Value) :
    machine.Uncounted (machine.finish interface value).2 := by
  unfold finish
  dsimp only
  split <;> exact ⟨rfl, rfl⟩

theorem uncounted_conclude (result : CType) (staging : View) (ended : Outcome (List UInt8) × Machine) :
    ended.2.Uncounted (conclude result staging ended).2 := by
  obtain ⟨outcome, left⟩ := ended
  cases outcome with
  | error failure => exact .refl left
  | ok bytes => cases result <;> exact ⟨rfl, rfl⟩

theorem ready_of_prepare {function : Function} {values : List Value} {entered : Machine} {staging : View}
    {arguments : List (List UInt8)}
    (prepared : machine.prepare function values = .ready entered staging arguments) :
    (machine.calling values.length).Uncounted entered := by
  rw [prepare] at prepared
  repeat' split at prepared
  all_goals cases prepared
  all_goals exact ⟨rfl, rfl⟩

/-- What a run comes to: how its calls ended, each after those that were made in it, and how often a
callback was entered. -/
structure Tally where
  outcomes : List (Outcome Value)
  entries : Nat

namespace Tally

def empty : Tally := ⟨[], 0⟩

def entering (tally : Tally) : Tally :=
  { tally with entries := tally.entries + 1 }

def ending (tally : Tally) (outcome : Outcome Value) : Tally :=
  { tally with outcomes := tally.outcomes ++ [outcome] }

def append (tally other : Tally) : Tally :=
  ⟨tally.outcomes ++ other.outcomes, tally.entries + other.entries⟩

def isReturned : Outcome Value → Bool
  | .ok _ => true
  | .error _ => false

def isUnstaged : Outcome Value → Bool
  | .error (.invocation (.returnStorage _)) => true
  | _ => false

def returned (tally : Tally) : Nat :=
  tally.outcomes.countP isReturned

def unstaged (tally : Tally) : Nat :=
  tally.outcomes.countP isUnstaged

/-- Every call of the run has ended with a value or was told why it has none. -/
def Definite (tally : Tally) : Prop :=
  ∀ failure, .error failure ∈ tally.outcomes → ∃ cause, failure = .invocation cause

/-- What the calls that a body makes come to, made by `call` and told by `tally`. -/
def ofBody (call : Machine → Function → List Value → Outcome Value × Machine)
    (tally : Machine → Function → List Value → Tally) : Body → Machine → Tally
  | .value _, _ => .empty
  | .memory update next, machine =>
    ofBody call tally (next machine.store) { machine with store := update machine.store }
  | .call target values next, machine =>
    (tally machine target values).append <|
      match call machine target values with
      | (.ok result, machine) => ofBody call tally (next (.ok result)) machine
      | (.error (.invocation cause), machine) => ofBody call tally (next (.error cause)) machine
      | (.error _, _) => .empty
  | .panic _, _ => .empty

end Tally

mutual

def enterTally (depth : Nat) (machine : Machine) (address : Word) (arguments : List (List UInt8)) :
    Tally :=
  match depth with
  | 0 => .empty
  | depth + 1 =>
    match machine.codeAt? address with
    | none => .empty
    | some (.native .applyInt) =>
      match Native.address arguments 0, Native.scalar arguments 1 .i32 with
      | .ok target, .ok value => enterTally depth machine target [value.encode]
      | _, _ => .empty
    | some (.native _) => .empty
    | some (.trampoline interface managed) =>
      match (machine.entering interface).receiveFrom 0 interface.signature.parameters arguments with
      | .error _ => Tally.empty.entering
      | .ok (values, after) =>
        (Tally.ofBody (fun machine target values => machine.callWithin depth target values)
          (fun machine target values => callTally depth machine target values) (managed values)
          (after.receiving values)).entering

def callTally (depth : Nat) (machine : Machine) (function : Function) (values : List Value) : Tally :=
  match depth with
  | 0 => Tally.empty.ending (.error .undefined)
  | depth + 1 =>
    let inner := match machine.prepare function values with
      | .ready entered _ arguments => enterTally depth entered function.address arguments
      | _ => .empty
    inner.ending (machine.callWithin (depth + 1) function values).1

end

/-- The counts of the machine have grown by the tally. -/
structure Counts (machine after : Machine) (tally : Tally) : Prop where
  callbacks : after.callbacksEntered = machine.callbacksEntered + tally.entries
  calls : tally.Definite → after.callsMade = machine.callsMade + (tally.returned + tally.unstaged)

section

variable {next : Machine} {tally : Tally}

theorem Uncounted.counts (uncounted : machine.Uncounted after) : machine.Counts after .empty :=
  ⟨uncounted.callbacks, fun _ => uncounted.calls⟩

theorem Uncounted.trans_counts (uncounted : machine.Uncounted next) (counts : next.Counts after tally) :
    machine.Counts after tally := by
  refine ⟨?_, ?_⟩
  · rw [counts.callbacks, uncounted.callbacks]
  · intro definite
    rw [counts.calls definite, uncounted.calls]

theorem Counts.trans_uncounted (counts : machine.Counts next tally) (uncounted : next.Uncounted after) :
    machine.Counts after tally :=
  ⟨uncounted.callbacks.trans counts.callbacks,
    fun definite => uncounted.calls.trans (counts.calls definite)⟩

theorem Counts.of_entering {interface : Interface}
    (counts : (machine.entering interface).Counts after tally) : machine.Counts after tally.entering := by
  refine ⟨?_, counts.calls⟩
  rw [counts.callbacks]
  exact Nat.add_right_comm machine.callbacksEntered 1 tally.entries

theorem Counts.append {other : Tally} (first : machine.Counts next tally)
    (second : next.Counts after other) : machine.Counts after (tally.append other) := by
  refine ⟨?_, ?_⟩
  · rw [second.callbacks, first.callbacks]
    exact Nat.add_assoc _ _ _
  · intro definite
    have hfirst := first.calls fun failure mem => definite failure (List.mem_append_left _ mem)
    have hsecond := second.calls fun failure mem => definite failure (List.mem_append_right _ mem)
    simp only [Tally.append, Tally.returned, Tally.unstaged, List.countP_append] at hfirst hsecond ⊢
    omega

theorem Tally.definite_of_ending {outcome : Outcome Value} (definite : (tally.ending outcome).Definite) :
    tally.Definite ∧ ∀ failure, outcome = .error failure → ∃ cause, failure = .invocation cause := by
  refine ⟨fun failure mem => definite failure (List.mem_append_left _ mem), ?_⟩
  rintro failure rfl
  exact definite failure (List.mem_append_right _ (List.mem_singleton_self _))

end

def EntersCounted (depth : Nat) : Prop :=
  ∀ (machine : Machine) (address : Word) (arguments : List (List UInt8)),
    machine.Counts (machine.enter depth address arguments).2 (machine.enterTally depth address arguments)

def CallsCounted (depth : Nat) : Prop :=
  ∀ (machine : Machine) (function : Function) (values : List Value),
    machine.Counts (machine.callWithin depth function values).2 (machine.callTally depth function values)

section

variable {depth : Nat}

theorem EntersCounted.calls (enters : EntersCounted depth) : CallsCounted (depth + 1) := by
  intro machine function values
  rw [callTally, callWithin_succ]
  cases prepared : machine.prepare function values with
  | refused failure =>
      refine ⟨rfl, ?_⟩
      intro definite
      obtain ⟨cause, rfl⟩ := (Tally.definite_of_ending definite).2 failure rfl
      have refuses := (machine.prepare_eq_refused_iff).mp prepared
      cases cause with
      | returnStorage lack => exact absurd refuses (not_refuses_returnStorage lack)
      | nullTarget | argumentCount _ _ | argumentType _ _ _ => rfl
  | unstaged lack => exact ⟨rfl, fun _ => rfl⟩
  | ready entered staging arguments =>
      have hready := ready_of_prepare prepared
      have hinner := (enters entered function.address arguments).trans_uncounted
        (uncounted_conclude function.interface.signature.result staging _)
      refine ⟨?_, ?_⟩
      · dsimp only
        rw [hinner.callbacks, hready.callbacks]
        rfl
      · intro definite
        obtain ⟨hdefinite, hown⟩ := Tally.definite_of_ending definite
        have hcalls := hinner.calls hdefinite
        rw [hready.calls] at hcalls
        dsimp only
        rw [hcalls]
        -- The call itself is counted when it is begun, and it has ended with a value.
        cases ended : (conclude function.interface.signature.result staging
            (entered.enter depth function.address arguments)).1 with
        | error failure =>
            obtain ⟨cause, rfl⟩ := hown failure ended
            have failed := conclude_eq_error_iff.mp (Prod.ext ended rfl)
            exact absurd (broken_of_enter failed) (Failure.not_broken_invocation cause)
        | ok value =>
            simp only [Tally.ending, Tally.returned, Tally.unstaged, List.countP_append, calling]
            change machine.callsMade + 1 + _ = machine.callsMade + (_ + 1 + (_ + 0))
            omega

theorem enterTally_of_native {native : Native} {address : Word}
    (code : machine.codeAt? address = some (.native native)) (alone : native ≠ .applyInt)
    (arguments : List (List UInt8)) : machine.enterTally (depth + 1) address arguments = .empty := by
  rw [enterTally, code]
  cases native with
  | applyInt => exact absurd rfl alone
  | add | sumArray | recordScore | makeRecord | fill | textLength | wrapByte | abs | longAbs | toUpper => rfl

/-- By induction on the body: each call is counted, and so is what comes after it. -/
theorem CallsCounted.perform (calls : CallsCounted depth) (signature : Signature) (body : Body)
    (machine : Machine) :
    machine.Counts (machine.perform depth signature body).2
      (Tally.ofBody (fun machine target values => machine.callWithin depth target values)
        (fun machine target values => machine.callTally depth target values) body machine) := by
  induction body generalizing machine with
  | value value => exact (Uncounted.refl machine).counts
  | memory update next ih =>
      have hupdated : machine.Uncounted { machine with store := update machine.store } := ⟨rfl, rfl⟩
      exact hupdated.trans_counts (ih machine.store _)
  | call target values next ih =>
      have hcall := calls machine target values
      rw [Machine.perform, Body.run, Tally.ofBody]
      cases called : machine.callWithin depth target values with
      | mk outcome left =>
          rw [called] at hcall
          cases outcome with
          | ok result => exact hcall.append (ih (.ok result) left)
          | error failure =>
              cases failure with
              | invocation cause => exact hcall.append (ih (.error cause) left)
              | undefined | layout _ | link _ | value _ | alloc _ | settings _ | fault _ =>
                  exact hcall.append (Uncounted.refl left).counts
  | panic message => exact Uncounted.counts ⟨rfl, rfl⟩

theorem CallsCounted.enters_trampoline (calls : CallsCounted depth) {machine : Machine} {address : Word}
    {interface : Interface} {managed : Managed}
    (code : machine.codeAt? address = some (.trampoline interface managed))
    (arguments : List (List UInt8)) :
    machine.Counts (machine.enter (depth + 1) address arguments).2
      (machine.enterTally (depth + 1) address arguments) := by
  rw [enter_of_code code, enterTally, code]
  dsimp only
  cases received : (machine.entering interface).receiveFrom 0 interface.signature.parameters arguments with
  | error failure =>
      have hpanicked : (machine.entering interface).Uncounted
          ((machine.entering interface).record (.callbackPanicked interface.signature)) := ⟨rfl, rfl⟩
      exact hpanicked.counts.of_entering
  | ok delivered =>
      obtain ⟨values, delivered⟩ := delivered
      have hreceived : (machine.entering interface).Uncounted (delivered.receiving values) :=
        (uncounted_of_receiveFrom received).trans ⟨rfl, rfl⟩
      have hcalls := (hreceived.trans_counts
        (calls.perform interface.signature (managed values) _)).of_entering
      dsimp only
      cases ran : (delivered.receiving values).perform depth interface.signature (managed values) with
      | mk outcome left =>
          rw [ran] at hcalls
          cases outcome with
          | ok value => exact hcalls.trans_uncounted (uncounted_finish left interface value)
          | error failure => exact hcalls

theorem CallsCounted.enters (calls : CallsCounted depth) (enters : EntersCounted depth) :
    EntersCounted (depth + 1) := by
  intro machine address arguments
  have hrefl := (Uncounted.refl machine).counts
  cases code : machine.codeAt? address with
  | none =>
      rw [enter, enterTally, code]
      exact hrefl
  | some found =>
      cases found with
      | native native =>
          by_cases alone : native = .applyInt
          · subst alone
            rw [enter, enterTally, code]
            dsimp only
            cases Native.address arguments 0 with
            | error failure => exact hrefl
            | ok target =>
                cases Native.scalar arguments 1 .i32 with
                | error failure => exact hrefl
                | ok value => exact enters machine target [value.encode]
          · rw [enterTally_of_native code alone, enter_of_native code alone]
            cases native.run arguments machine.store with
            | error failure => exact hrefl
            | ok ran => exact Uncounted.counts ⟨rfl, rfl⟩
      | trampoline interface managed => exact calls.enters_trampoline code arguments

theorem counted (depth : Nat) : EntersCounted depth ∧ CallsCounted depth := by
  induction depth with
  | zero =>
      refine ⟨?_, ?_⟩
      · intro machine address arguments
        rw [enter, enterTally]
        exact (Uncounted.refl machine).counts
      · intro machine function values
        rw [callWithin, callTally]
        exact ⟨rfl, fun _ => rfl⟩
  | succ depth ih => exact ⟨ih.2.enters ih.1, ih.1.calls⟩

end

/-- Calls one after the other, each with the depth that calls in it may come to. -/
def callAll (machine : Machine) : List (Nat × Function × List Value) → Machine
  | [] => machine
  | (depth, function, values) :: rest => (machine.callWithin depth function values).2.callAll rest

def tallyAll (machine : Machine) : List (Nat × Function × List Value) → Tally
  | [] => .empty
  | (depth, function, values) :: rest =>
    (machine.callTally depth function values).append
      ((machine.callWithin depth function values).2.tallyAll rest)

theorem counts_callAll (machine : Machine) (calls : List (Nat × Function × List Value)) :
    machine.Counts (machine.callAll calls) (machine.tallyAll calls) := by
  induction calls generalizing machine with
  | nil => exact (Uncounted.refl machine).counts
  | cons first rest ih =>
      obtain ⟨depth, function, values⟩ := first
      exact ((counted depth).2 machine function values).append (ih _)

/-- The calls that fail are those that are refused, of which there is no trace, and those whose struct
result has no room, which have been counted and reported as calls, and nothing else has happened. So
a run has counted, of the calls that were made in it, those that returned and those that had no room. Both
hold however deep the calls may nest. -/
theorem call_failures (machine : Machine) :
    (∀ depth function values cause after,
      machine.callWithin (depth + 1) function values = (.error (.invocation cause), after) ↔
        Refuses function values cause ∧ after = machine ∨
        Unstaged machine function values cause ∧ after = machine.calling values.length) ∧
    ∀ calls, machine.Counts (machine.callAll calls) (machine.tallyAll calls) :=
  ⟨fun _ _ _ _ _ => callWithin_eq_error_iff, machine.counts_callAll⟩

/-- A callback without parameters in a process with no other code. -/
def sampleCallback : Function :=
  ⟨entryAddress 0, ⟨0, ⟨[], .void⟩, [], [], .void⟩, true⟩

def sampleCallbackMachine : Machine :=
  ofCode [.trampoline sampleCallback.interface fun _ => .value .void]

/-- The callback is called as it is to be, and then with an argument. -/
theorem call_failures_sample :
    let calls := [(2, sampleCallback, []), (2, sampleCallback, [.null .void])]
    (sampleCallbackMachine.tallyAll calls).Definite ∧
      (sampleCallbackMachine.callAll calls).callsMade = 1 ∧
      (sampleCallbackMachine.callAll calls).callbacksEntered = 1 := by
  intro calls
  have outcomes : (sampleCallbackMachine.tallyAll calls).outcomes =
      [.ok .void, .error (.invocation (.argumentCount 0 1))] := rfl
  have entries : (sampleCallbackMachine.tallyAll calls).entries = 1 := rfl
  have definite : (sampleCallbackMachine.tallyAll calls).Definite := by
    rw [Tally.Definite, outcomes]
    simp
  have counts := (call_failures sampleCallbackMachine).2 calls
  have made := counts.calls definite
  have entered := counts.callbacks
  rw [Tally.returned, Tally.unstaged, outcomes] at made
  rw [entries] at entered
  exact ⟨definite, made, entered⟩

/-- A callback that gives back a pair is called when another block has used up the addresses: it is not
entered, and still the call is counted. -/
theorem unstaged_call_counted :
    ∃ extent full interface, Store.empty.allocate 0x2fffbfffe000 = some (extent, full) ∧
      Interface.prepare 0 ⟨[], .struct Layout.samplePair⟩ = .ok interface ∧
      let machine : Machine :=
        { ofCode [.trampoline interface fun _ => .value .void] with store := full }
      let outcome := machine.call ⟨entryAddress 0, interface, true⟩ []
      outcome.1 = .error (.invocation (.returnStorage (.outOfMemory 8))) ∧
        outcome.2.callsMade = machine.callsMade + 1 ∧
        outcome.2.events.length = machine.events.length + 1 ∧
        outcome.2.callbacksEntered = machine.callbacksEntered := by
  obtain ⟨interface, prepared⟩ : ∃ interface,
      Interface.prepare 0 ⟨[], .struct Layout.samplePair⟩ = .ok interface := ⟨_, rfl⟩
  refine ⟨_, _, interface, rfl, prepared, ?_⟩
  have hsignature := Interface.signature_of_prepare prepared
  intro machine outcome
  have target : entryAddress 0 ≠ 0 := by decide
  have marshalled : Marshal.slots interface.signature.parameters [] = .ok [] := by rw [hsignature]; rfl
  have loaded : Marshal.load machine.store interface.signature.parameters [] = .ok [] := by
    rw [hsignature]
    rfl
  have result : interface.signature.result = .struct Layout.samplePair := by rw [hsignature]
  have unstaged : machine.Unstaged ⟨entryAddress 0, interface, true⟩ [] _ :=
    .full target marshalled loaded result rfl
  have failed : outcome = _ := call_eq_error_iff.mpr (.inr ⟨unstaged, rfl⟩)
  rw [failed]
  exact ⟨rfl, rfl, rfl, rfl⟩

end Foreign.Machine
