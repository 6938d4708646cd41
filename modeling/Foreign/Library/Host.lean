import Foreign.Call.Machine
import Foreign.Text.Path

/-!
Libraries that can be loaded, and looking up symbols in them. A library is found by its path; a bare name
is looked for in the search paths first.
-/

namespace Foreign

/-- Exported symbols with the addresses of their code. -/
abbrev Exports := List (String × Word)

structure Image where
  path : String
  exports : Exports

/-- What the platform has to load from. -/
structure Host where
  images : List Image
  /-- Libraries of the platform, which it finds by their bare names. -/
  system : List (String × Exports)
  /-- Symbols of the running program itself. -/
  program : Exports

/-- A loaded library under the name it was opened by. -/
structure Library where
  name : String
  exports : Exports

namespace Host

/-- The library file that a path leads to. -/
def image? (host : Host) (path : String) : Option Image :=
  if Path.endsInName path then host.images.find? fun image => Path.same image.path path
  else none

def isFile (host : Host) (path : String) : Bool :=
  (host.image? path).isSome

/-- The exports that a name leads to. The empty name is the program's own. -/
def exports? (host : Host) (name : String) : Option Exports :=
  if name.isEmpty then some host.program
  else if name.contains '/' then (host.image? name).map (·.exports)
  else host.system.lookup name

end Host

namespace Library

def hasNul (name : String) : Bool :=
  name.contains '\x00'

def load (host : Host) (machine : Machine) (name : String) : Outcome Library × Machine :=
  if hasNul name then (.error (.link (.invalidLibraryName name)), machine)
  else match host.exports? name with
    | none => (.error (.link (.loadFailed name)), machine)
    | some exports =>
      let machine := { machine with librariesLoaded := machine.librariesLoaded + 1 }
      (.ok ⟨name, exports⟩, machine.record (.libraryLoaded name))

/-- The path under the first search path that has the file, or else the name itself. -/
def locate (host : Host) (name : String) (searchPaths : List String) : String :=
  ((searchPaths.map fun directory => Path.join directory name).find? host.isFile).getD name

def loadFrom (host : Host) (machine : Machine) (name : String) (searchPaths : List String) :
    Outcome Library × Machine :=
  load host machine (locate host name searchPaths)

def program (host : Host) : Library :=
  ⟨"<process>", host.program⟩

/-- The address of a symbol. A symbol at the null address is not there. -/
def address? (library : Library) (name : String) : Option Word :=
  (library.exports.lookup name).filter (· ≠ 0)

def symbol (library : Library) (machine : Machine) (name : String) : Outcome Word × Machine :=
  if hasNul name then (.error (.link (.invalidSymbolName name)), machine)
  else match library.address? name with
    | some address => (.ok address, machine.record (.symbolResolved name))
    | none => (.error (.link (.missingSymbol name)), machine.record (.symbolMissing name))

def text (library : Library) : String :=
  s!"Library \x7b name: \"{library.name}\" \x7d"

end Library
end Foreign
