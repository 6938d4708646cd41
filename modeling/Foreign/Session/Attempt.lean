import Foreign.Session.Answer
import Foreign.Session.Step

/-!
Attempts: computations in a session that may be refused. A refusal keeps what happened to the machine
before it, such as events.
-/

namespace Foreign

abbrev Attempt := ExceptT Refusal (StateM Session)

namespace Attempt

def ofOutcome : Outcome α → Attempt α
  | .ok a => pure a
  | .error failure => throw (.failed failure)

/-- Run something on the machine. What would use memory that is not there is not run at all. -/
def onMachine (act : Machine → Outcome α × Machine) : Attempt α := do
  let session ← get
  match act session.machine with
  | (.error .undefined, _) => throw (.failed .undefined)
  | (outcome, machine) =>
    set { session with machine }
    ofOutcome outcome

def setStore (store : Store) : Attempt Unit :=
  modify fun session => { session with machine := { session.machine with store } }

def record (event : Event) : Attempt Unit :=
  modify fun session => { session with machine := session.machine.record event }

/-- What a name stands for. -/
def find (names : Session → List (String × α)) (missing : Refusal) (name : String) : Attempt α := do
  match (names (← get)).lookup name with
  | some meaning => return meaning
  | none => throw missing

def view : String → Attempt Handle :=
  find Session.views .unknownView

def function : String → Attempt Function :=
  find Session.functions .unknownFunction

def binding : String → Attempt Function :=
  find Session.bindings .unknownBinding

def library : String → Attempt Library :=
  find Session.libraries .unknownLibrary

/-- The type that an expression means; the events of finding it are recorded. -/
def type (expr : TypeExpr) : Attempt CType := do
  let traced : Traced _ := (expr.elaborate (← get).scope .empty).run.run
  traced.events.forM record
  match traced.value with
  | .ok (.ok type) => return type
  | .ok (.error name) => throw (.unknownType name)
  | .error failure => throw (.failed failure)

def signature (parameters : List TypeExpr) (result : TypeExpr) : Attempt Signature := do
  let parameters ← parameters.mapM type
  let result ← type result
  return ⟨parameters, result⟩

def value : ValueExpr → Attempt Value
  | .void => return .void
  | .scalar s => return .scalar s
  | .pointer name => return .pointer (← view name).view.borrow
  | .struct name => return .struct (← view name).view.borrow
  | .null pointee => return .null (← type pointee)
  | .function name => return (← function name).toValue

def interface (signature : Signature) : Attempt Interface :=
  onMachine fun machine =>
    match machine.interface signature with
    | .ok (interface, machine) => (.ok interface, machine)
    | .error failure => (.error failure, machine)

def declarations (exprs : List DeclarationExpr) : Attempt (List Declaration) :=
  exprs.mapM fun expr => do
    return ⟨expr.symbol, ← signature expr.parameters expr.result⟩

/-- Name the view of a pointer or a struct that was reached from a numbered allocation. -/
def keep (name : Option String) (origin : Option Nat) (value : Value) : Attempt Unit :=
  match name, value with
  | some name, .pointer view | some name, .struct view =>
    modify (·.nameView name ⟨view, origin⟩)
  | _, _ => return

end Attempt
end Foreign
