import Foreign.Proofs.Call.Callback

/-!
Calls that fail. A call is refused before anything has happened, except for one cause: the storage for a
struct result is asked for when the call has been counted and reported already. Once the function is entered
nothing that goes wrong in it looks like a refused call.
-/

namespace Foreign

namespace Outcome

variable {α β : Type}

/-- Where it fails, the program has no meaning. -/
def OnlyUndefined (x : Outcome α) : Prop :=
  ∀ failure, x = .error failure → failure = .undefined

theorem onlyUndefined_ok (a : α) : OnlyUndefined (.ok a) := by
  rintro failure ⟨⟩

theorem onlyUndefined_error : OnlyUndefined (.error .undefined : Outcome α) :=
  fun _ h => (Except.error.inj h).symm

theorem OnlyUndefined.bind {x : Outcome α} {f : α → Outcome β} (h : OnlyUndefined x)
    (next : ∀ a, OnlyUndefined (f a)) : OnlyUndefined (x >>= f) := by
  intro failure failed
  obtain hx | ⟨a, -, ha⟩ := bind_eq_error_iff.mp failed
  · exact h failure hx
  · exact next a failure ha

end Outcome

namespace Native

open Outcome

variable (arguments : List Bytes)

theorem onlyUndefined_scalar (index : Nat) (kind : ScalarKind) :
    OnlyUndefined (scalar arguments index kind) := by
  rw [scalar]
  cases arguments[index]? with
  | none => exact onlyUndefined_error
  | some bytes =>
      dsimp only
      by_cases enough : kind.size ≤ bytes.length
      · rw [if_pos enough]
        exact onlyUndefined_ok _
      · rw [if_neg enough]
        exact onlyUndefined_error

theorem onlyUndefined_integer (index : Nat) (kind : ScalarKind) :
    OnlyUndefined (integer arguments index kind) :=
  (onlyUndefined_scalar arguments index kind).bind fun _ => onlyUndefined_ok _

theorem onlyUndefined_address (index : Nat) : OnlyUndefined (address arguments index) :=
  (onlyUndefined_scalar arguments index .u64).bind fun _ => onlyUndefined_ok _

theorem onlyUndefined_load (store : Store) (address size : Word) :
    OnlyUndefined (load store address size) := by
  rw [load]
  cases store.load? address size with
  | none => exact onlyUndefined_error
  | some bytes => exact onlyUndefined_ok bytes

theorem onlyUndefined_sumFrom (store : Store) (total : Int) (count : Nat) (address : Word) :
    OnlyUndefined (sumFrom store total count address) := by
  induction count generalizing total address with
  | zero => exact onlyUndefined_ok total
  | succ count ih => exact (onlyUndefined_load store address 8).bind fun _ => ih _ _

theorem onlyUndefined_textLengthAt (store : Store) (address : Word) :
    OnlyUndefined (textLengthAt store address) := by
  rw [textLengthAt]
  cases store.blockAt? address with
  | none => exact onlyUndefined_error
  | some block =>
      dsimp only
      cases List.findIdx? _ _ with
      | none => exact onlyUndefined_error
      | some length => exact onlyUndefined_ok length

theorem onlyUndefined_run (native : Native) (store : Store) :
    OnlyUndefined (native.run arguments store) := by
  cases native with
  | applyInt => exact onlyUndefined_error
  | add =>
      exact (onlyUndefined_integer arguments 0 .i32).bind fun _ =>
        (onlyUndefined_integer arguments 1 .i32).bind fun _ => onlyUndefined_ok _
  | sumArray =>
      exact (onlyUndefined_address arguments 0).bind fun _ =>
        (onlyUndefined_integer arguments 1 .u32).bind fun _ =>
          (onlyUndefined_sumFrom store 0 _ _).bind fun _ => onlyUndefined_ok _
  | recordScore =>
      refine OnlyUndefined.bind ?_ fun _ => onlyUndefined_ok _
      exact (onlyUndefined_integer _ 0 .i16).bind fun _ =>
        (onlyUndefined_integer _ 0 .i32).bind fun _ =>
          (onlyUndefined_scalar _ 0 .u64).bind fun _ => onlyUndefined_ok _
  | makeRecord =>
      exact (onlyUndefined_scalar arguments 0 .i16).bind fun _ =>
        (onlyUndefined_scalar arguments 1 .i32).bind fun _ =>
          (onlyUndefined_scalar arguments 2 .f64).bind fun _ => onlyUndefined_ok _
  | fill =>
      refine (onlyUndefined_address arguments 0).bind fun start =>
        (onlyUndefined_scalar arguments 1 .i32).bind fun count => ?_
      cases store.save? (start + UInt64.ofNat countOffset) count.encode with
      | none => exact onlyUndefined_error
      | some later => exact onlyUndefined_ok _
  | textLength =>
      exact (onlyUndefined_address arguments 0).bind fun _ =>
        (onlyUndefined_textLengthAt store _).bind fun _ => onlyUndefined_ok _
  | wrapByte => exact (onlyUndefined_integer arguments 0 .u8).bind fun _ => onlyUndefined_ok _
  | longAbs => exact (onlyUndefined_integer arguments 0 .i64).bind fun _ => onlyUndefined_ok _
  | abs | toUpper =>
      exact (onlyUndefined_integer arguments 0 .i32).bind fun _ => onlyUndefined_ok _

end Native

namespace Marshal

theorem onlyUndefined_load (store : Store) (types : List CType) (slots : List Slot) :
    (load store types slots).OnlyUndefined := by
  induction types generalizing slots with
  | nil => exact Outcome.onlyUndefined_ok []
  | cons type types ih =>
      cases slots with
      | nil => exact Outcome.onlyUndefined_ok []
      | cons slot slots =>
          rw [load]
          cases slot.load? type store with
          | none => exact Outcome.onlyUndefined_error
          | some bytes => exact (ih slots).bind fun _ => Outcome.onlyUndefined_ok _

end Marshal

/-- A failure of code that runs, which is never that of a call that was refused: the code has no meaning, or
the process ends. -/
inductive Failure.Broken : Failure → Prop
  | undefined : Broken .undefined
  | fault (cause : Fault) : Broken (.fault cause)

theorem Failure.not_broken_invocation (cause : InvocationError) : ¬ (Failure.invocation cause).Broken := by
  rintro ⟨⟩

theorem Outcome.OnlyUndefined.broken {α : Type} {x : Outcome α} (h : x.OnlyUndefined) {failure : Failure}
    (failed : x = .error failure) : failure.Broken :=
  h failure failed ▸ .undefined

namespace View

theorem onlyUndefined_ensureLive (view : View) (store : Store) (address size : Word) :
    (view.ensureLive store address size).OnlyUndefined :=
  fun _ failed => (ensureLive_eq_error_iff.mp failed).2

end View

namespace Marshal

theorem onlyUndefined_writeResult (store : Store) (type : CType) (value : Value)
    (storage : List UInt8) : (writeResult store type value storage).OnlyUndefined := by
  unfold writeResult
  split_ifs
  · exact Outcome.onlyUndefined_ok _
  · exact Outcome.onlyUndefined_ok _
  · split
    · split
      · exact Outcome.onlyUndefined_ok _
      next live =>
        rw [View.onlyUndefined_ensureLive _ _ _ _ _ live]
        exact Outcome.onlyUndefined_error
      · exact Outcome.onlyUndefined_ok _
    · split <;> exact Outcome.onlyUndefined_ok _

end Marshal

namespace Machine

variable {machine after : Machine} {failure : Failure}

theorem broken_of_receiveFrom {index : Nat} {types : List CType} {arguments : List (List UInt8)}
    (failed : machine.receiveFrom index types arguments = .error failure) : failure.Broken := by
  induction types generalizing machine index arguments with
  | nil => cases failed
  | cons type types ih =>
      cases arguments with
      | nil => cases failed
      | cons bytes arguments =>
          rw [receiveFrom] at failed
          obtain first | ⟨⟨value, next⟩, -, failed⟩ := Outcome.bind_eq_error_iff.mp failed
          · cases received : machine.receive type bytes with
            | ok made => cases received ▸ first
            | error cause =>
                cases received ▸ first
                exact .fault _
          · obtain rest | ⟨⟨values, last⟩, -, failed⟩ := Outcome.bind_eq_error_iff.mp failed
            · exact ih rest
            · cases failed

/-- What a call comes to is a value, a refusal, or a failure that the caller does not live to see. -/
def CallsBreak (depth : Nat) : Prop :=
  ∀ (machine after : Machine) (function : Function) (values : List Value) (failure : Failure),
    machine.callWithin depth function values = (.error failure, after) →
      failure.Broken ∨ ∃ cause, failure = .invocation cause

/-- A body never fails as a call does that was refused: it is told of the refusal and goes on. -/
theorem CallsBreak.perform {depth : Nat} (calls : CallsBreak depth) {signature : Signature} {body : Body}
    (failed : machine.perform depth signature body = (.error failure, after)) : failure.Broken := by
  induction body generalizing machine with
  | value value => cases failed
  | memory update next ih => exact ih machine.store failed
  | call target values next ih =>
      rw [Machine.perform, Body.run] at failed
      split at failed
      · exact ih _ failed
      · exact ih _ failed
      next refused called =>
        cases failed
        obtain broken | ⟨cause, rfl⟩ := calls _ _ _ _ _ called
        · exact broken
        · exact (refused cause rfl).elim
  | panic message =>
      cases failed
      exact .fault _

theorem broken_of_finish {interface : Interface} {value : Value}
    (failed : machine.finish interface value = (.error failure, after)) : failure.Broken := by
  unfold finish at failed
  dsimp only at failed
  split at failed
  · cases failed
  · cases failed
  next written =>
    cases failed
    exact (Marshal.onlyUndefined_writeResult _ _ _ _).broken written

theorem enter_of_native {native : Native} {address : Word}
    (code : machine.codeAt? address = some (.native native)) (alone : native ≠ .applyInt) (depth : Nat)
    (arguments : List (List UInt8)) :
    machine.enter (depth + 1) address arguments =
      match native.run arguments machine.store with
      | .ok (bytes, store) => (.ok bytes, { machine with store })
      | .error failure => (.error failure, machine) := by
  rw [enter, code]
  cases native with
  | applyInt => exact absurd rfl alone
  | add | sumArray | recordScore | makeRecord | fill | textLength | wrapByte | abs | longAbs | toUpper => rfl

theorem conclude_eq_error_iff {result : CType} {staging : View}
    {ended : Outcome (List UInt8) × Machine} :
    conclude result staging ended = (.error failure, after) ↔ ended = (.error failure, after) := by
  obtain ⟨outcome, left⟩ := ended
  cases outcome with
  | error cause => simp only [conclude, Prod.mk.injEq, Except.error.injEq]
  | ok bytes => cases result <;> simp only [conclude, Prod.mk.injEq, reduceCtorEq, false_and]

/-- What a call's preparation is given up for. -/
theorem broken_or_refused_of_prepare {function : Function} {values : List Value}
    (prepared : machine.prepare function values = .refused failure) :
    failure.Broken ∨ ∃ cause, failure = .invocation cause := by
  rw [prepare] at prepared
  split at prepared
  · cases prepared
    exact .inr ⟨_, rfl⟩
  · split at prepared
    next rejected =>
      cases prepared
      obtain ⟨cause, -, rfl⟩ := Marshal.slots_eq_error_iff.mp rejected
      exact .inr ⟨cause, rfl⟩
    · split at prepared
      next loaded =>
        cases prepared
        exact .inl ((Marshal.onlyUndefined_load _ _ _).broken loaded)
      · split at prepared
        · split at prepared <;> cases prepared
        · cases prepared

/-- Code that fails never fails as a call does that was refused. -/
def EntersBreak (depth : Nat) : Prop :=
  ∀ (machine after : Machine) (address : Word) (arguments : List (List UInt8)) (failure : Failure),
    machine.enter depth address arguments = (.error failure, after) → failure.Broken

section

variable {depth : Nat}

theorem EntersBreak.calls (enters : EntersBreak depth) : CallsBreak (depth + 1) := by
  intro machine after function values failure failed
  rw [callWithin_succ] at failed
  split at failed
  next prepared =>
    cases failed
    exact broken_or_refused_of_prepare prepared
  · cases failed
    exact .inr ⟨_, rfl⟩
  · exact .inl (enters _ _ _ _ _ (conclude_eq_error_iff.mp failed))

theorem CallsBreak.enters (calls : CallsBreak depth) (enters : EntersBreak depth) :
    EntersBreak (depth + 1) := by
  intro machine after address arguments failure failed
  cases code : machine.codeAt? address with
  | none =>
      rw [enter, code] at failed
      cases failed
      exact .undefined
  | some found =>
      cases found with
      | native native =>
          by_cases alone : native = .applyInt
          · subst alone
            rw [enter, code] at failed
            dsimp only at failed
            split at failed
            · exact enters _ _ _ _ _ failed
            · cases failed
              exact .undefined
          · rw [enter_of_native code alone] at failed
            split at failed
            · cases failed
            next ran =>
              cases failed
              exact (Native.onlyUndefined_run _ _ _).broken ran
      | trampoline interface managed =>
          rw [enter_of_code code] at failed
          split at failed
          next received =>
            cases failed
            exact broken_of_receiveFrom received
          · split at failed
            · exact broken_of_finish failed
            next ran =>
              cases failed
              exact calls.perform ran

theorem breaks (depth : Nat) : EntersBreak depth ∧ CallsBreak depth := by
  induction depth with
  | zero =>
      refine ⟨?_, ?_⟩
      · intro machine after address arguments failure failed
        rw [enter] at failed
        cases failed
        exact .undefined
      · intro machine after function values failure failed
        rw [callWithin] at failed
        cases failed
        exact .inl .undefined
  | succ depth ih => exact ⟨ih.2.enters ih.1, ih.1.calls⟩

theorem broken_of_enter {address : Word} {arguments : List (List UInt8)}
    (failed : machine.enter depth address arguments = (.error failure, after)) : failure.Broken :=
  (breaks depth).1 _ _ _ _ _ failed

end

/-- What a call is refused for before anything has happened. -/
inductive Refuses (function : Function) (values : List Value) : InvocationError → Prop
  | target (null : function.address = 0) : Refuses function values .nullTarget
  | arguments {cause : InvocationError} (target : function.address ≠ 0)
      (rejects : Marshal.Rejects function.interface.signature.parameters values cause) :
      Refuses function values cause

/-- A call whose arguments are right and whose struct result has no room. -/
inductive Unstaged (machine : Machine) (function : Function) (values : List Value) :
    InvocationError → Prop
  | full {layout : Layout} {slots : List Slot} {arguments : List (List UInt8)}
      (target : function.address ≠ 0)
      (marshalled : Marshal.slots function.interface.signature.parameters values = .ok slots)
      (loaded : Marshal.load machine.store function.interface.signature.parameters slots = .ok arguments)
      (result : function.interface.signature.result = .struct layout)
      (full : machine.store.allocate layout.size = none) :
      Unstaged machine function values (.returnStorage (.outOfMemory layout.size))

section

variable {function : Function} {values : List Value} {cause : InvocationError}

theorem refuses_iff_of_ne (target : function.address ≠ 0) : Refuses function values cause ↔
    Marshal.slots function.interface.signature.parameters values = .error (.invocation cause) := by
  rw [Marshal.slots_eq_error_iff]
  constructor
  · rintro (null | ⟨-, rejects⟩)
    · exact absurd null target
    · exact ⟨cause, rejects, rfl⟩
  · rintro ⟨_, rejects, ⟨⟩⟩
    exact .arguments target rejects

theorem refuses_iff_of_null (null : function.address = 0) :
    Refuses function values cause ↔ cause = .nullTarget := by
  constructor
  · rintro (_ | ⟨target, -⟩)
    · rfl
    · exact absurd null target
  · rintro rfl
    exact .target null

theorem not_refuses_returnStorage (lack : AllocError) : ¬ Refuses function values (.returnStorage lack) := by
  rintro (_ | ⟨-, ⟨⟩⟩)

theorem newStruct_eq_error_iff {store : Store} {layout : Layout} {lack : AllocError} :
    View.newStruct store layout = .error lack ↔
      store.allocate layout.size = none ∧ lack = .outOfMemory layout.size := by
  rw [View.newStruct, View.buffer, View.fresh]
  cases store.allocate layout.size with
  | none => exact ⟨fun h => ⟨rfl, (Except.error.inj h).symm⟩, fun h => congrArg Except.error h.2.symm⟩
  | some made => exact iff_of_false (by rintro ⟨⟩) (by rintro ⟨⟨⟩, -⟩)

theorem prepare_eq_refused_iff (machine : Machine) :
    machine.prepare function values = .refused (.invocation cause) ↔ Refuses function values cause := by
  rw [prepare]
  by_cases null : function.address = 0
  · rw [if_pos null, refuses_iff_of_null null]
    exact ⟨fun h => by cases h; rfl, fun h => by rw [h]⟩
  · rw [if_neg null, refuses_iff_of_ne null]
    cases marshalled : Marshal.slots function.interface.signature.parameters values with
    | error failure => simp only [Prepared.refused.injEq, Except.error.injEq]
    | ok slots =>
        refine iff_of_false ?_ (by rintro ⟨⟩)
        dsimp only
        split
        next loaded =>
          rw [Marshal.onlyUndefined_load _ _ _ _ loaded]
          rintro ⟨⟩
        · split
          · split <;> rintro ⟨⟩
          · rintro ⟨⟩

theorem Unstaged.prepare (unstaged : Unstaged machine function values cause) :
    ∃ lack, cause = .returnStorage lack ∧ machine.prepare function values = .unstaged lack := by
  obtain ⟨target, marshalled, loaded, result, full⟩ := unstaged
  have created := newStruct_eq_error_iff.mpr ⟨full, rfl⟩
  refine ⟨_, rfl, ?_⟩
  rw [Machine.prepare, if_neg target, marshalled]
  dsimp only
  rw [loaded, result]
  dsimp only
  rw [created]

theorem unstaged_of_prepare {lack : AllocError} (h : machine.prepare function values = .unstaged lack) :
    Unstaged machine function values (.returnStorage lack) := by
  rw [prepare] at h
  split at h
  · cases h
  next target =>
    split at h
    · cases h
    next marshalled =>
      split at h
      · cases h
      next loaded =>
        split at h
        next result =>
          split at h
          next created =>
            obtain ⟨full, rfl⟩ := newStruct_eq_error_iff.mp created
            cases h
            exact .full target marshalled loaded result full
          · cases h
        · cases h

/-- Which calls fail, and what has happened then. -/
theorem callWithin_eq_error_iff {depth : Nat} :
    machine.callWithin (depth + 1) function values = (.error (.invocation cause), after) ↔
      Refuses function values cause ∧ after = machine ∨
      Unstaged machine function values cause ∧ after = machine.calling values.length := by
  rw [callWithin_succ, ← machine.prepare_eq_refused_iff]
  cases prepared : machine.prepare function values with
  | refused failure =>
      have staged : ¬ Unstaged machine function values cause := by
        intro unstaged
        obtain ⟨lack, -, heq⟩ := unstaged.prepare
        cases prepared.symm.trans heq
      simp only [Prod.mk.injEq, Except.error.injEq, Prepared.refused.injEq, staged, false_and, or_false]
      exact and_congr_right fun _ => eq_comm
  | unstaged lack =>
      constructor
      · rintro ⟨⟩
        exact .inr ⟨unstaged_of_prepare prepared, rfl⟩
      · rintro (⟨⟨⟩, -⟩ | ⟨unstaged, rfl⟩)
        obtain ⟨_, rfl, heq⟩ := unstaged.prepare
        cases prepared.symm.trans heq
        rfl
  | ready entered staging arguments =>
      refine iff_of_false ?_ ?_
      · intro failed
        exact Failure.not_broken_invocation cause (broken_of_enter (conclude_eq_error_iff.mp failed))
      · rintro (⟨⟨⟩, -⟩ | ⟨unstaged, -⟩)
        obtain ⟨lack, -, heq⟩ := unstaged.prepare
        cases prepared.symm.trans heq

theorem call_eq_error_iff :
    machine.call function values = (.error (.invocation cause), after) ↔
      Refuses function values cause ∧ after = machine ∨
      Unstaged machine function values cause ∧ after = machine.calling values.length :=
  callWithin_eq_error_iff

end

end Machine

end Foreign
