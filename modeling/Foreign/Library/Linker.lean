import Foreign.Library.Host

/-!
Binding declarations to the symbols of a library. A policy says whether a batch stops at the first symbol
that is missing or tries them all and reports every missing one.
-/

namespace Foreign

structure Declaration where
  symbol : String
  signature : Signature

structure Binding where
  symbol : String
  function : Function

inductive LinkPolicy where
  | failFast
  | reportAll
  deriving DecidableEq, Repr, Inhabited

namespace LinkPolicy

def name : LinkPolicy → String
  | failFast => "fail-fast"
  | reportAll => "report-all"

def all : List LinkPolicy := [failFast, reportAll]

def ofName? (text : String) : Option LinkPolicy :=
  all.find? (·.name == text)

end LinkPolicy

/-- What a partial binding found, and the symbols it did not find, both in the order of declaration. -/
structure LinkReport where
  bindings : List Binding
  missing : List String

/-- A library with the functions bound from it, one for each symbol. -/
structure LinkedModule where
  bindings : List Binding
  library : Library

structure Linker where
  policy : LinkPolicy
  searchPaths : List String
  deriving DecidableEq, Repr

namespace Linker

def standard : Linker := ⟨.failFast, []⟩

/-- Bind one declaration: its symbol first, then its signature. -/
def resolve (library : Library) (machine : Machine) (declaration : Declaration) :
    Outcome Binding × Machine :=
  match library.symbol machine declaration.symbol with
  | (.error failure, machine) => (.error failure, machine)
  | (.ok address, machine) =>
    match machine.interface declaration.signature with
    | .error failure => (.error failure, machine)
    | .ok (interface, machine) => (.ok ⟨declaration.symbol, ⟨address, interface, false⟩⟩, machine)

/-- Bind declarations up to the first that fails. -/
def bindEach (library : Library) (machine : Machine) :
    List Declaration → Outcome (List Binding) × Machine
  | [] => (.ok [], machine)
  | declaration :: rest =>
    match resolve library machine declaration with
    | (.error failure, machine) => (.error failure, machine)
    | (.ok binding, machine) =>
      let (bindings, machine) := bindEach library machine rest
      (bindings.map (binding :: ·), machine)

/-- Bind what resolves and list the rest. Only a signature that cannot be called ends this early. -/
def bindAvailable (library : Library) (machine : Machine) :
    List Declaration → Outcome LinkReport × Machine
  | [] => (.ok ⟨[], []⟩, machine)
  | declaration :: rest =>
    match resolve library machine declaration with
    | (.ok binding, machine) =>
      let (report, machine) := bindAvailable library machine rest
      (report.map fun report => { report with bindings := binding :: report.bindings }, machine)
    | (.error (.link _), machine) =>
      let (report, machine) := bindAvailable library machine rest
      (report.map fun report => { report with missing := declaration.symbol :: report.missing }, machine)
    | (.error failure, machine) => (.error failure, machine)

def bind (linker : Linker) (library : Library) (machine : Machine) (declarations : List Declaration) :
    Outcome (List Binding) × Machine :=
  match linker.policy with
  | .failFast => bindEach library machine declarations
  | .reportAll =>
    match bindAvailable library machine declarations with
    | (.error failure, machine) => (.error failure, machine)
    | (.ok report, machine) =>
      if report.missing.isEmpty then (.ok report.bindings, machine)
      else (.error (.link (.missingSymbols report.missing)), machine)

end Linker

namespace LinkedModule

/-- Put a binding in place of an earlier one of its symbol. -/
def insert (bindings : List Binding) (binding : Binding) : List Binding :=
  bindings.filter (·.symbol != binding.symbol) ++ [binding]

def ofBindings (library : Library) (bindings : List Binding) : LinkedModule :=
  ⟨bindings.foldl insert [], library⟩

def get? (linked : LinkedModule) (symbol : String) : Option Binding :=
  linked.bindings.find? (·.symbol == symbol)

def size (linked : LinkedModule) : Nat :=
  linked.bindings.length

/-- The bindings in the order of their symbols. -/
def sorted (linked : LinkedModule) : List Binding :=
  linked.bindings.mergeSort fun a b => a.symbol ≤ b.symbol

def text (linked : LinkedModule) : String :=
  s!"LinkedModule \x7b library: \"{linked.library.name}\", symbols: {linked.size} \x7d"

end LinkedModule

def Linker.link (linker : Linker) (host : Host) (machine : Machine) (path : String)
    (declarations : List Declaration) : Outcome LinkedModule × Machine :=
  let loaded :=
    if Path.isAbsolute path then Library.load host machine path
    else Library.loadFrom host machine path linker.searchPaths
  match loaded with
  | (.error failure, machine) => (.error failure, machine)
  | (.ok library, machine) =>
    let (bindings, machine) := linker.bind library machine declarations
    (bindings.map (LinkedModule.ofBindings library), machine)

end Foreign
