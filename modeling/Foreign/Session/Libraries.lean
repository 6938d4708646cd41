import Foreign.Session.Attempt

/-!
The steps of a session that load libraries and bind functions from them.
-/

namespace Foreign.Attempt

def keepLibrary (name : Option String) (library : Library) : Attempt Answer := do
  modify (·.keepLibrary name library)
  return .library library

def openProgram (name : Option String) : Attempt Answer := do
  keepLibrary name (.program (← get).host)

def openLibrary (name : Option String) (path : String) (searchPaths : Option (List String)) :
    Attempt Answer := do
  let host := (← get).host
  let library ← onMachine fun machine =>
    match searchPaths with
    | some paths => Library.loadFrom host machine path paths
    | none => Library.load host machine path
  keepLibrary name library

def symbol (name symbol : String) : Attempt Answer := do
  let library ← library name
  let _ ← onMachine fun machine => library.symbol machine symbol
  return .found

def nameBindings (bindings : List Binding) : Attempt Unit :=
  modify fun session => bindings.foldl Session.nameBinding session

def bind (name : String) (exprs : List DeclarationExpr) (linker : Linker) : Attempt Answer := do
  let declarations ← declarations exprs
  let library ← library name
  let bindings ← onMachine fun machine => linker.bind library machine declarations
  nameBindings bindings
  return .bindings bindings

def bindAvailable (name : String) (exprs : List DeclarationExpr) : Attempt Answer := do
  let declarations ← declarations exprs
  let library ← library name
  let report ← onMachine fun machine => Linker.bindAvailable library machine declarations
  nameBindings report.bindings
  return .report report

def link (path : String) (exprs : List DeclarationExpr) (linker : Linker) : Attempt Answer := do
  let declarations ← declarations exprs
  let before := (← get).machine.librariesLoaded
  let host := (← get).host
  let linked ← onMachine fun machine => linker.link host machine path declarations
  nameBindings linked.bindings
  return .linked linked ((← get).machine.librariesLoaded - before)

end Foreign.Attempt
