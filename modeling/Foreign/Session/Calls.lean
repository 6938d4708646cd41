import Foreign.Session.Attempt
import Foreign.Call.Dispatch

/-!
The steps of a session that make and call functions.
-/

namespace Foreign

namespace Managed

def constant (value : Value) : Managed :=
  fun _ => .value value

/-- Gives back an argument; `void` if there is none. -/
def argument (index : Nat) : Managed :=
  fun values => .value ((values[index]?).getD .void)

/-- The sum of the integers among the values, modulo 2^64. -/
def integerSum (values : List Value) : BitVec 64 :=
  (values.filterMap Value.integer?).foldl (· + ·) 0

/-- The sum of the floating-point numbers among the values, from the first on. -/
def doubleSum (values : List Value) : BitVec 64 :=
  (values.filterMap Value.double?).foldl FloatBits.add 0

/-- The arguments' sum as a scalar of a kind. -/
def total (kind : ScalarKind) (values : List Value) : Scalar :=
  match kind with
  | .f32 => .ofNat .f32 (FloatBits.narrow (doubleSum values)).toNat
  | .f64 => .ofNat .f64 (doubleSum values).toNat
  | kind => .ofNat kind (integerSum values).toNat

def sum (kind : ScalarKind) : Managed :=
  fun values => .value (.scalar (total kind values))

/-- A field of the struct that a value is. -/
def structField? (store : Store) (value : Value) (name : String) : Option Value := do
  let field ← ((← value.struct?).field name).toOption
  (field.read store 0).toOption

/-- Gives back a field of the struct that an argument is; `void` if there is no such thing. -/
def field (index : Nat) (name : String) : Managed :=
  fun values => .memory id fun store =>
    .value (((values[index]?).bind fun value => structField? store value name).getD .void)

/-- Calls a function with the same arguments; a call that is refused gives `void`. -/
def relay (target : Function) : Managed :=
  fun values => .call target values fun outcome => .value (outcome.toOption.getD .void)

end Managed

namespace Attempt

/-- A struct that goes into a call or is to come out of one must lie in a live block, even if it has no
bytes. -/
def ensureInBlock (value : Value) : Attempt Unit := do
  match value with
  | .struct view =>
    if (← get).machine.store.blocks.any (·.holds view.address view.element.size) then return
    else throw (.failed .undefined)
  | _ => return

def managed : BodyExpr → Attempt Managed
  | .constant expr => do
    let value ← value expr
    ensureInBlock value
    return .constant value
  | .argument index => return .argument index
  | .sum kind => return .sum kind
  | .field index name => return .field index name
  | .call name => return .relay (← function name)

def callback (name : Option String) (parameters : List TypeExpr) (result : TypeExpr)
    (expr : BodyExpr) : Attempt Answer := do
  let interface ← interface (← signature parameters result)
  let managed ← managed expr
  let function ← modifyGet fun session =>
    let (function, machine) := session.machine.trampoline interface managed
    (function, { session with machine }.keepFunction name function)
  return .function function

/-- A function pointer to the code of another function, or to nothing. -/
def pointer (name : Option String) (parameters : List TypeExpr) (result : TypeExpr)
    (code : Option String) : Attempt Answer := do
  let address ← match code with
    | some other => pure (← function other).address
    | none => pure 0
  let interface ← interface (← signature parameters result)
  let function : Function := ⟨address, interface, false⟩
  modify (·.keepFunction name function)
  return .function function

def rewrap (name : Option String) (given : String) (parameters : List TypeExpr) (result : TypeExpr) :
    Attempt Answer := do
  let given ← function given
  let interface ← interface (← signature parameters result)
  let function ← modifyGet fun session =>
    let (function, machine) := session.machine.rewrap given interface
    (function, { session with machine }.keepFunction name function)
  return .rewrapped function given

/-- Number the allocation of a struct that a call gave back. -/
def numberResult (value : Value) : Attempt (Option Nat) := do
  match value with
  | .struct view =>
    match view.backing with
    | .buffer extent => some <$> modifyGet (·.number extent)
    | _ => return none
  | .pointer view => return (← get).originOf? view.address
  | _ => return none

def call (name : String) (exprs : List ValueExpr) (bound : Bool) (keptAs : Option String) :
    Attempt Answer := do
  let named ← function name
  let values ← exprs.mapM value
  values.forM ensureInBlock
  let function ← if bound then binding name else pure named
  let before := (← get).machine
  modify fun session => { session with machine := { session.machine with received := [] } }
  let result ← onMachine (·.call function values)
  let origin ← numberResult result
  let session ← get
  let report : CallReport :=
    { result := session.showFrom origin result
      received := session.machine.received.map fun values => values.map session.showValue
      calls := session.machine.callsMade - before.callsMade
      callbacks := session.machine.callbacksEntered - before.callbacksEntered }
  keep keptAs origin result
  return .call report

end Attempt
end Foreign
