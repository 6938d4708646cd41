import Foreign.Proofs.Call.Delivery
import Foreign.Proofs.Call.Interface

/-!
Calls of callbacks. A call through the function pointer of a callback runs the callback's body exactly once,
on the arguments as they were given, and gives back what the body returned. The body may make calls of its
own; how many of them may nest in each other is the depth that it is run with.
-/

namespace Foreign

/-- The body makes no calls, whatever it finds in memory. -/
inductive Body.CallsNothing : Body → Prop
  | value (value : Value) : CallsNothing (.value value)
  | memory {update : Store → Store} {next : Store → Body} (rest : ∀ store, (next store).CallsNothing) :
      CallsNothing (.memory update next)
  | panic (message : String) : CallsNothing (.panic message)

namespace Machine

/-- Run a callback's body with `depth` levels left for its calls. -/
def perform (depth : Nat) (machine : Machine) (signature : Signature) (body : Body) :
    Outcome Value × Machine :=
  body.run signature (fun machine target values => machine.callWithin depth target values) machine

def entering (machine : Machine) (interface : Interface) : Machine :=
  { machine.record (.callbackEntered interface.signature.parameters.length) with
    callbacksEntered := machine.callbacksEntered + 1 }

def receiving (machine : Machine) (values : List Value) : Machine :=
  { machine with received := machine.received ++ [values] }

def calling (machine : Machine) (count : Nat) : Machine :=
  { machine.record (.nativeCall count) with callsMade := machine.callsMade + 1 }

/-- A body that makes no calls enters no callback. -/
theorem perform_once {body : Body} (calls : body.CallsNothing) (depth : Nat) (machine : Machine)
    (signature : Signature) :
    (machine.perform depth signature body).2.received = machine.received ∧
      (machine.perform depth signature body).2.callbacksEntered = machine.callbacksEntered := by
  induction calls generalizing machine with
  | value value => exact ⟨rfl, rfl⟩
  | memory rest ih => exact ih machine.store { machine with store := _ }
  | panic message => exact ⟨rfl, rfl⟩

theorem enter_of_code {machine : Machine} {address : Word} {interface : Interface} {managed : Managed}
    (code : machine.codeAt? address = some (.trampoline interface managed)) (depth : Nat)
    (arguments : List (List UInt8)) :
    machine.enter (depth + 1) address arguments =
      match (machine.entering interface).receiveFrom 0 interface.signature.parameters arguments with
      | .error failure =>
          (.error failure, (machine.entering interface).record (.callbackPanicked interface.signature))
      | .ok (values, after) =>
          match (after.receiving values).perform depth interface.signature (managed values) with
          | (.ok value, left) => left.finish interface value
          | (.error failure, left) => (.error failure, left) := by
  rw [enter, code]
  rfl

theorem finish_of_writeResult {machine : Machine} {interface : Interface} {value : Value}
    {storage : List UInt8}
    (written : Marshal.writeResult machine.store interface.signature.result value
      (resultStorage interface.signature.result) = .ok ⟨true, storage⟩) :
    machine.finish interface value = (.ok storage, machine) := by
  rw [finish]
  simp only [written]

/-- A call up to the point where the function is entered. -/
inductive Prepared where
  | refused (failure : Failure)
  | unstaged (cause : AllocError)
  /-- `staging` is where a struct result goes. -/
  | ready (entered : Machine) (staging : View) (arguments : List (List UInt8))

def prepare (machine : Machine) (function : Function) (values : List Value) : Prepared :=
  if function.address = 0 then .refused (.invocation .nullTarget)
  else match Marshal.slots function.interface.signature.parameters values with
    | .error failure => .refused failure
    | .ok slots =>
      match Marshal.load machine.store function.interface.signature.parameters slots with
      | .error failure => .refused failure
      | .ok arguments =>
        match function.interface.signature.result with
        | .struct layout =>
          match View.newStruct machine.store layout with
          | .error cause => .unstaged cause
          | .ok (staging, store) =>
            .ready (Machine.record { machine.calling values.length with store } (.allocated layout.size))
              staging arguments
        | _ => .ready (machine.calling values.length) default arguments

/-- What the caller gets when the function has ended. -/
def conclude (result : CType) (staging : View) :
    Outcome (List UInt8) × Machine → Outcome Value × Machine
  | (.error failure, left) => (.error failure, left)
  | (.ok bytes, left) =>
    match result with
    | .struct layout =>
      (.ok (.struct staging), Machine.record { left with
        store := { left.store with
          memory := left.store.memory.write staging.address (bytes.take layout.size.toNat) } }
        .nativeReturn)
    | type => (.ok (Marshal.readResult bytes type), left.record .nativeReturn)

theorem callWithin_succ (depth : Nat) (machine : Machine) (function : Function) (values : List Value) :
    machine.callWithin (depth + 1) function values =
      match machine.prepare function values with
      | .refused failure => (.error failure, machine)
      | .unstaged cause =>
        (.error (.invocation (.returnStorage cause)), machine.calling values.length)
      | .ready entered staging arguments =>
        conclude function.interface.signature.result staging
          (entered.enter depth function.address arguments) := by
  rw [callWithin, prepare]
  dsimp only
  by_cases null : function.address = 0
  · rw [if_pos null, if_pos null]
  · rw [if_neg null, if_neg null]
    cases Marshal.slots function.interface.signature.parameters values with
    | error failure => rfl
    | ok slots =>
        dsimp only
        cases Marshal.load machine.store function.interface.signature.parameters slots with
        | error failure => rfl
        | ok arguments =>
            dsimp only
            cases function.interface.signature.result with
            | struct layout =>
                dsimp only [record, calling]
                cases View.newStruct machine.store layout with
                | error cause => rfl
                | ok made => rfl
            | void | int _ _ | float | double | pointer _ => rfl

theorem conclude_of_plain {result : CType} (plain : result.IsPlain) (staging : View) (bytes : List UInt8)
    (left : Machine) :
    conclude result staging (.ok bytes, left) =
      (.ok (Marshal.readResult bytes result), left.record .nativeReturn) := by
  cases h : result with
  | struct layout => exact absurd h (plain layout)
  | void | int _ _ | float | double | pointer _ => rfl

section

variable {machine entered : Machine} {function : Function} {values : List Value} {slots : List Slot}
  {arguments : List (List UInt8)} {staging : View}

theorem callWithin_of_ready (prepared : machine.prepare function values = .ready entered staging arguments)
    (depth : Nat) :
    machine.callWithin (depth + 1) function values =
      conclude function.interface.signature.result staging
        (entered.enter depth function.address arguments) := by
  rw [callWithin_succ, prepared]

theorem prepare_of_plain (target : function.address ≠ 0)
    (marshalled : Marshal.slots function.interface.signature.parameters values = .ok slots)
    (loaded : Marshal.load machine.store function.interface.signature.parameters slots = .ok arguments)
    (plain : function.interface.signature.result.IsPlain) :
    machine.prepare function values = .ready (machine.calling values.length) default arguments := by
  rw [prepare, if_neg target, marshalled]
  dsimp only
  rw [loaded]
  cases h : function.interface.signature.result with
  | struct layout => exact absurd h (plain layout)
  | void | int _ _ | float | double | pointer _ => rfl

/-- The storage for a struct result is there before the function is entered. -/
theorem prepare_of_struct {layout : Layout} {store : Store} (target : function.address ≠ 0)
    (marshalled : Marshal.slots function.interface.signature.parameters values = .ok slots)
    (loaded : Marshal.load machine.store function.interface.signature.parameters slots = .ok arguments)
    (struct : function.interface.signature.result = .struct layout)
    (created : View.newStruct machine.store layout = .ok (staging, store)) :
    machine.prepare function values =
      .ready (Machine.record { machine.calling values.length with store } (.allocated layout.size))
        staging arguments := by
  rw [prepare, if_neg target, marshalled]
  dsimp only
  rw [loaded, struct]
  dsimp only
  rw [created]

end

/-- A callback has been entered once, with what it was called with, and all memory that was there is as it
was. -/
structure Entered (machine : Machine) (types : List CType) (values received : List Value)
    (entered : Machine) : Prop where
  delivered : DeliveredAll machine.store entered.store types values received
  received : entered.received = machine.received ++ [received]
  once : entered.callbacksEntered = machine.callbacksEntered + 1
  kept : machine.store.Grows entered.store
  code : entered.code = machine.code

/-- `next` is `machine` on the way to the callback. -/
structure Leads (machine next : Machine) : Prop where
  store : machine.store.Grows next.store
  ordered : next.store.Ordered
  code : next.code = machine.code
  received : next.received = machine.received
  entered : next.callbacksEntered = machine.callbacksEntered

theorem codeAt?_congr {machine next : Machine} (h : next.code = machine.code) (address : Word) :
    next.codeAt? address = machine.codeAt? address := by
  rw [codeAt?, codeAt?, h]

theorem enter_of_accepted {machine next : Machine} {address : Word} {interface : Interface}
    {managed : Managed} {values : List Value} (ordered : machine.store.Ordered)
    (leads : machine.Leads next)
    (code : machine.codeAt? address = some (.trampoline interface managed))
    (accepted : List.Forall₂ Value.Accepted interface.signature.parameters values)
    (allowed : ∀ view, .struct view ∈ values →
      machine.store.allows view.address view.element.size = true)
    (room : next.store.hasRoom (interface.signature.parameters.filterMap CType.structSize?) = true)
    (depth : Nat) :
    ∃ entered received, machine.Entered interface.signature.parameters values received entered ∧
      (∀ copy, .struct copy ∈ received → next.store.nextAddress ≤ copy.address.toNat) ∧
      next.enter (depth + 1) address
          (Marshal.payloads machine.store interface.signature.parameters values) =
        match entered.perform depth interface.signature (managed received) with
        | (.ok value, left) => left.finish interface value
        | (.error failure, left) => (.error failure, left) := by
  have hgrows : machine.store.Grows (next.entering interface).store := leads.store
  have hordered : (next.entering interface).store.Ordered := leads.ordered
  obtain ⟨all, after, hreceive, hafter, hall, hbehind⟩ :=
    receiveFrom_of_accepted ordered accepted allowed hgrows hordered room 0
  refine ⟨after.receiving all, all, ⟨hall, ?_, ?_, hgrows.trans hafter.store, ?_⟩, hbehind, ?_⟩
  · rw [receiving, hafter.others, ← leads.received]
    rfl
  · rw [receiving, hafter.others, ← leads.entered]
    rfl
  · rw [receiving, hafter.others, ← leads.code]
    rfl
  · rw [enter_of_code (codeAt?_congr leads.code address ▸ code), hreceive]

theorem finish_once (machine : Machine) (interface : Interface) (value : Value) :
    (machine.finish interface value).2.received = machine.received ∧
      (machine.finish interface value).2.callbacksEntered = machine.callbacksEntered := by
  unfold finish
  dsimp only
  split <;> exact ⟨rfl, rfl⟩

/-- What the caller gets when the body has ended with `value`. A struct comes in a block that was there
neither before the call nor, as a copy of an argument, in it. -/
structure Returned (before : Store) (left : Machine) (received : List Value) (type : CType) (value : Value)
    (outcome : Outcome Value × Machine) : Prop where
  once : outcome.2.received = left.received ∧ outcome.2.callbacksEntered = left.callbacksEntered
  void : type = .void → outcome.1 = .ok .void
  plain : type.IsPlain → type ≠ .void → value.fits type = true → outcome.1 = .ok (value.asRead type)
  struct : ∀ layout source, type = .struct layout → value = .struct source → value.fits type = true →
    source.reaches left.store source.address layout.size = true →
    ∃ extent, outcome.1 = .ok (.struct (.ofBuffer extent (.struct layout))) ∧
      extent.size = layout.size ∧
      (∀ block ∈ before.blocks, block.extent.finish < extent.start.toNat) ∧
      (∀ copy, .struct copy ∈ received → extent.finish < copy.address.toNat) ∧
      outcome.2.store.memory.read extent.start layout.size.toNat =
        left.store.memory.read source.address layout.size.toNat

theorem conclude_once (result : CType) (staging : View) (ended : Outcome (List UInt8) × Machine) :
    (conclude result staging ended).2.received = ended.2.received ∧
      (conclude result staging ended).2.callbacksEntered = ended.2.callbacksEntered := by
  obtain ⟨outcome, left⟩ := ended
  cases outcome with
  | error failure => exact ⟨rfl, rfl⟩
  | ok bytes => cases result <;> exact ⟨rfl, rfl⟩

theorem conclude_finish_once (left : Machine) (interface : Interface) (value : Value) (result : CType)
    (staging : View) :
    (conclude result staging (left.finish interface value)).2.received = left.received ∧
      (conclude result staging (left.finish interface value)).2.callbacksEntered = left.callbacksEntered := by
  obtain ⟨hreceived, hentered⟩ := conclude_once result staging (left.finish interface value)
  obtain ⟨hreceived', hentered'⟩ := finish_once left interface value
  exact ⟨hreceived.trans hreceived', hentered.trans hentered'⟩

section

variable {before : Store} {left : Machine} {received : List Value} {interface : Interface} {value : Value}

theorem returned_of_plain (plain : interface.signature.result.IsPlain) (staging : View) :
    Returned before left received interface.signature.result value
      (conclude interface.signature.result staging (left.finish interface value)) := by
  refine ⟨conclude_finish_once left interface value _ staging, ?_, ?_, ?_⟩
  · intro hvoid
    have hwritten : Marshal.writeResult left.store interface.signature.result value
        (resultStorage interface.signature.result) =
          .ok ⟨true, resultStorage interface.signature.result⟩ := by
      rw [hvoid]
      rfl
    rw [finish_of_writeResult hwritten, hvoid]
    rfl
  · intro _ complete fits
    obtain ⟨storage, hwritten, hread⟩ := Marshal.readResult_of_writeResult left.store
      (resultStorage interface.signature.result) fits complete plain
    rw [finish_of_writeResult hwritten, conclude_of_plain plain, hread]
  · intro layout _ hstruct
    exact absurd hstruct (plain layout)

theorem returned_of_struct {layout : Layout} {extent : Buffer}
    (struct : interface.signature.result = .struct layout) (size : extent.size = layout.size)
    (fresh : ∀ block ∈ before.blocks, block.extent.finish < extent.start.toNat)
    (apart : ∀ copy, .struct copy ∈ received → extent.finish < copy.address.toNat) :
    Returned before left received interface.signature.result value
      (conclude interface.signature.result (.ofBuffer extent (.struct layout))
        (left.finish interface value)) := by
  refine ⟨conclude_finish_once left interface value _ _, ?_, ?_, ?_⟩
  · intro hvoid
    rw [struct] at hvoid
    cases hvoid
  · intro plain
    exact absurd struct (plain layout)
  · intro other source hother hvalue fits reaches
    obtain rfl : other = layout := CType.struct.inj (hother.symm.trans struct)
    subst hvalue
    rw [struct] at fits
    have hwritten : Marshal.writeResult left.store interface.signature.result (.struct source)
        (resultStorage interface.signature.result) =
          .ok ⟨true, overlay (resultStorage (.struct other))
            (left.store.memory.read source.address other.size.toNat)⟩ := by
      rw [struct]
      exact Marshal.writeResult_of_struct _ fits reaches
    have hlength := Memory.length_read left.store.memory source.address other.size.toNat
    rw [finish_of_writeResult hwritten, struct]
    refine ⟨extent, rfl, size, fresh, apart, ?_⟩
    change (left.store.memory.write extent.start ((overlay _ _).take _)).read extent.start _ = _
    rw [take_overlay _ hlength]
    have hread := Memory.read_write left.store.memory extent.start
      (left.store.memory.read source.address other.size.toNat)
      (by rw [hlength]; exact Nat.le_of_lt other.size.toNat_lt)
    rwa [hlength] at hread

end

theorem codeAt?_entryAddress {machine : Machine} {index : Nat}
    (addressable : firstEntry + entrySpacing * index < 2 ^ 64) :
    machine.codeAt? (entryAddress index) = machine.code[index]? := by
  have haddress : (entryAddress index).toNat = firstEntry + entrySpacing * index :=
    Word.toNat_ofNat_of_lt addressable
  have hdistance : firstEntry + entrySpacing * index - firstEntry = entrySpacing * index :=
    Nat.add_sub_cancel_left _ _
  unfold codeAt?
  dsimp only
  rw [haddress, hdistance, Nat.mul_mod_right, Nat.mul_div_cancel_left index (by decide),
    if_pos ⟨Nat.le_add_right _ _, rfl⟩]

/-- A call that leads to a callback with arguments that it takes and room for the blocks it needs. -/
structure Callable (machine : Machine) (function : Function) (managed : Managed) (values : List Value)
    (slots : List Slot) : Prop where
  ordered : machine.store.Ordered
  target : function.address ≠ 0
  code : machine.codeAt? function.address = some (.trampoline function.interface managed)
  marshalled : Marshal.slots function.interface.signature.parameters values = .ok slots
  allowed : ∀ view, .struct view ∈ values →
    machine.store.allows view.address view.element.size = true
  room : machine.store.hasRoom function.interface.signature.blocks = true

/-- The body runs on what was delivered, and the caller gets what it ended with. -/
structure Answers (depth : Nat) (machine : Machine) (function : Function) (managed : Managed)
    (values : List Value) (entered : Machine) (received : List Value) : Prop where
  enters : machine.Entered function.interface.signature.parameters values received entered
  returned : ∀ value left,
    entered.perform depth function.interface.signature (managed received) = (.ok value, left) →
      Returned machine.store left received function.interface.signature.result value
        (machine.callWithin (depth + 2) function values)
  failed : ∀ failure left,
    entered.perform depth function.interface.signature (managed received) = (.error failure, left) →
      machine.callWithin (depth + 2) function values = (.error failure, left)

section

variable {machine entered : Machine} {function : Function} {managed : Managed}
  {values received : List Value} {slots : List Slot}

theorem Callable.answers_of_plain (callable : machine.Callable function managed values slots)
    (plain : function.interface.signature.result.IsPlain) (depth : Nat) :
    ∃ entered received, machine.Answers depth function managed values entered received := by
  obtain ⟨ordered, target, code, marshalled, allowed, room⟩ := callable
  obtain ⟨accepted, loaded⟩ := Marshal.load_of_slots marshalled allowed
  have prepared := prepare_of_plain target marshalled loaded plain
  have leads : machine.Leads (machine.calling values.length) := ⟨.refl _, ordered, rfl, rfl, rfl⟩
  rw [Signature.blocks, structSize?_of_plain plain] at room
  obtain ⟨entered, received, hentered, -, henter⟩ :=
    enter_of_accepted ordered leads code accepted allowed room depth
  refine ⟨entered, received, hentered, ?_, ?_⟩
  · intro value left ran
    rw [callWithin_of_ready prepared, henter, ran]
    exact returned_of_plain plain default
  · intro failure left ran
    rw [callWithin_of_ready prepared, henter, ran]
    rfl

theorem Callable.answers_of_struct (callable : machine.Callable function managed values slots)
    {layout : Layout} (struct : function.interface.signature.result = .struct layout) (depth : Nat) :
    ∃ entered received, machine.Answers depth function managed values entered received := by
  obtain ⟨ordered, target, code, marshalled, allowed, room⟩ := callable
  obtain ⟨accepted, loaded⟩ := Marshal.load_of_slots marshalled allowed
  have hblocks : function.interface.signature.blocks = layout.size ::
      function.interface.signature.parameters.filterMap CType.structSize? := by
    rw [Signature.blocks, struct]
    rfl
  rw [hblocks] at room
  obtain ⟨extent, store, allocated, hroom⟩ := Store.allocate_of_hasRoom room
  have hcreated : View.newStruct machine.store layout =
      .ok (.ofBuffer extent (.struct layout), store) :=
    View.buffer_eq_ok_iff.mpr ⟨extent, allocated, rfl⟩
  have prepared := prepare_of_struct target marshalled loaded struct hcreated
  obtain ⟨hstart, hsize, -⟩ := Store.start_of_allocate allocated
  have leads : machine.Leads (Machine.record { machine.calling values.length with store }
      (.allocated layout.size)) :=
    ⟨Store.grows_of_allocate allocated, ordered.allocate allocated, rfl, rfl, rfl⟩
  obtain ⟨entered, received, hentered, hbehind, henter⟩ :=
    enter_of_accepted ordered leads code accepted allowed hroom depth
  refine ⟨entered, received, hentered, ?_, ?_⟩
  · intro value left ran
    rw [callWithin_of_ready prepared, henter, ran]
    refine returned_of_struct struct hsize ?_ ?_
    · intro block mem
      rw [hstart]
      exact ordered.lt_nextAddress mem
    · intro copy mem
      exact Nat.lt_of_lt_of_le (Store.finish_lt_of_allocate allocated) (hbehind copy mem)
  · intro failure left ran
    rw [callWithin_of_ready prepared, henter, ran]
    rfl

theorem Callable.answers (callable : machine.Callable function managed values slots) (depth : Nat) :
    ∃ entered received, machine.Answers depth function managed values entered received := by
  by_cases plain : function.interface.signature.result.IsPlain
  · exact callable.answers_of_plain plain depth
  · obtain ⟨layout, hlayout⟩ := not_forall_not.mp plain
    exact callable.answers_of_struct hlayout depth

/-- Whatever a body without calls ends with, the callback has been entered once. -/
theorem Answers.once {depth : Nat} (answers : machine.Answers depth function managed values entered received)
    (calls : (managed received).CallsNothing) :
    (machine.callWithin (depth + 2) function values).2.received = machine.received ++ [received] ∧
      (machine.callWithin (depth + 2) function values).2.callbacksEntered =
        machine.callbacksEntered + 1 := by
  obtain ⟨hreceived, honce⟩ := perform_once calls depth entered function.interface.signature
  rw [answers.enters.received] at hreceived
  rw [answers.enters.once] at honce
  cases ran : entered.perform depth function.interface.signature (managed received) with
  | mk outcome left =>
      rw [ran] at hreceived honce
      cases outcome with
      | ok value =>
          obtain ⟨hleft, hcount⟩ := (answers.returned value left ran).once
          exact ⟨hleft.trans hreceived, hcount.trans honce⟩
      | error failure =>
          rw [answers.failed failure left ran]
          exact ⟨hreceived, honce⟩

end

/-- Calling a callback through its function pointer. The body runs once, on the arguments as the call had
them, and the caller gets what it returned: for any memory that the process can have come to, any
interface, any body, and any arguments that fit and lie in memory, so long as there is an address for the
callback and room for the blocks that structs need, and however deep the calls that the body makes may
nest. -/
theorem call_trampoline {machine prepared ready : Machine} {signature : Signature}
    {interface : Interface} {managed : Managed} {function : Function} {values : List Value}
    {slots : List Slot} (reached : machine.store.Reached)
    (built : machine.interface signature = .ok (interface, prepared))
    (wrapped : prepared.trampoline interface managed = (function, ready))
    (addressable : firstEntry + entrySpacing * machine.code.length < 2 ^ 64)
    (marshalled : Marshal.slots signature.parameters values = .ok slots)
    (allowed : ∀ view, .struct view ∈ values →
      machine.store.allows view.address view.element.size = true)
    (room : machine.store.hasRoom signature.blocks = true) (depth : Nat) :
    ∃ entered received, ready.Entered signature.parameters values received entered ∧
      received.length = values.length ∧
      (∀ value left, entered.perform depth signature (managed received) = (.ok value, left) →
        Returned ready.store left received signature.result value
          (ready.callWithin (depth + 2) function values)) ∧
      (∀ failure left, entered.perform depth signature (managed received) = (.error failure, left) →
        ready.callWithin (depth + 2) function values = (.error failure, left)) ∧
      ((managed received).CallsNothing →
        (ready.callWithin (depth + 2) function values).2.received = ready.received ++ [received] ∧
        (ready.callWithin (depth + 2) function values).2.callbacksEntered =
          ready.callbacksEntered + 1) := by
  obtain ⟨rfl, interfaces, rfl⟩ := interface_eq_ok built
  obtain ⟨rfl, rfl⟩ := Prod.mk.inj wrapped
  have hcode : codeAt? { machine with
      interfaces, code := machine.code ++ [.trampoline interface managed] }
        (entryAddress machine.code.length) = some (.trampoline interface managed) := by
    rw [codeAt?_entryAddress addressable]
    exact List.getElem?_concat_length ..
  have htarget : entryAddress machine.code.length ≠ 0 := by
    intro heq
    have haddress := Word.toNat_ofNat_of_lt addressable
    rw [← entryAddress, heq, UInt64.toNat_zero, firstEntry] at haddress
    omega
  -- Neither the interface nor the callback touches the store, so what held of it before still holds.
  have callable : Callable { machine with
      interfaces, code := machine.code ++ [.trampoline interface managed] }
        ⟨entryAddress machine.code.length, interface, true⟩ managed values slots :=
    ⟨reached.ordered, htarget, hcode, marshalled, allowed, room⟩
  obtain ⟨entered, received, answers⟩ := callable.answers depth
  exact ⟨entered, received, answers.enters, answers.enters.delivered.length_eq, answers.returned,
    answers.failed, answers.once⟩

/-- A pair in the first block of a process. -/
def samplePairView : View :=
  .ofBuffer ⟨0x100000000000, 8⟩ (.struct Layout.samplePair)

def sampleStore : Store :=
  ⟨Memory.zeros.clear 0x100000000000 8, [⟨⟨0x100000000000, 8⟩, true⟩]⟩

def sampleSignature : Signature :=
  ⟨[.struct Layout.samplePair, .int .w8 true], .int .w8 true⟩

/-- Gives back the second argument. -/
def sampleManaged : Managed :=
  fun values => .value (values.getD 1 .void)

/-- A pair by value and a byte, of which the body returns the byte. -/
theorem call_trampoline_sample :
    ∃ interface prepared function ready,
      Machine.interface { ofCode [] with store := sampleStore } sampleSignature =
        .ok (interface, prepared) ∧
      Machine.trampoline prepared interface sampleManaged = (function, ready) ∧
      (ready.call function [.struct samplePairView, .scalar (.ofInt .i8 (-7))]).1 =
        .ok (.scalar (.ofInt .i8 (-7))) ∧
      (ready.call function [.struct samplePairView, .scalar (.ofInt .i8 (-7))]).2.callbacksEntered = 1 := by
  have allocated : Store.empty.allocate 8 = some (⟨0x100000000000, 8⟩, sampleStore) := rfl
  obtain ⟨interface, prepared, built⟩ : ∃ interface prepared,
      Machine.interface { ofCode [] with store := sampleStore } sampleSignature =
        .ok (interface, prepared) := ⟨_, _, rfl⟩
  obtain ⟨function, ready, wrapped, hdepth, hentries⟩ : ∃ function ready,
      Machine.trampoline prepared interface sampleManaged = (function, ready) ∧
      ready.callDepth = 6 + 2 ∧ ready.callbacksEntered = 0 := by
    obtain ⟨-, interfaces, rfl⟩ := interface_eq_ok built
    exact ⟨_, _, rfl, rfl, rfl⟩
  obtain ⟨slots, marshalled⟩ : ∃ slots, Marshal.slots sampleSignature.parameters
      [.struct samplePairView, .scalar (.ofInt .i8 (-7))] = .ok slots :=
    Marshal.exists_slots (.cons ⟨.struct rfl, (nomatch ·)⟩ (.cons ⟨.scalar rfl, (nomatch ·)⟩ .nil))
  have allowed : ∀ view,
      Value.struct view ∈ [Value.struct samplePairView, .scalar (.ofInt .i8 (-7))] →
        sampleStore.allows view.address view.element.size = true := by
    intro view mem
    obtain rfl : view = samplePairView := by simpa using mem
    rfl
  have room : sampleStore.hasRoom sampleSignature.blocks = true := by rfl
  obtain ⟨entered, received, hentered, -, hreturned, -, honce⟩ :=
    call_trampoline (.allocate .empty allocated) built wrapped (by decide) marshalled allowed room 6
  have hvalue : received.getD 1 .void = .scalar (.ofInt .i8 (-7)) := by
    cases hentered.delivered with
    | cons _ rest _ =>
        cases rest with
        | cons second _ _ =>
            cases second
            rfl
  have hresult := (hreturned _ _ rfl).plain (fun _ h => (nomatch h)) (fun h => (nomatch h))
  rw [hvalue] at hresult
  refine ⟨interface, prepared, function, ready, built, wrapped, ?_⟩
  obtain ⟨-, hcount⟩ := honce (.value _)
  rw [hentries] at hcount
  rw [call, hdepth]
  exact ⟨hresult rfl, hcount⟩

end Machine
end Foreign
