import Foreign.FileTree
import Foreign.Memory.Store
import Foreign.Signature
import Foreign.Text.Shown
import Foreign.Text.Slice

/-!
Why an operation has no result. Each family of causes belongs to one part of the library; a fault is an
operation that was asked for something it can never do, and an undefined access is one on memory that
is not there. Messages show addresses through a function, since a reader of a message may know an
address by another name than its number.
-/

namespace Foreign

inductive LayoutError where
  | incompleteField (struct field : String)
  | zeroCardinality (struct field : String)
  | duplicateField (struct field : String)
  | unknownStruct (struct field target : String)
  | redefined (struct : String)
  | missingTarget (struct field : String)
  | unreadable
  deriving DecidableEq, Repr

inductive LinkError where
  | invalidLibraryName (name : String)
  | loadFailed (name : String)
  | invalidSymbolName (name : String)
  | missingSymbol (name : String)
  | missingSymbols (names : List String)
  deriving DecidableEq, Repr

inductive AllocError where
  | zeroLength
  | outOfMemory (size : Word)
  | overflow (count size : Word)
  deriving DecidableEq, Repr

inductive InvocationError where
  | nullTarget
  | argumentCount (expected got : Nat)
  | argumentType (index : Nat) (expected : CType) (found : String)
  | returnStorage (cause : AllocError)

inductive ValueError where
  | typeMismatch (expected : CType) (found : String)
  | notAStruct (type : CType)
  | unknownField (struct field : String)
  | readOnlyIndirection
  /-- The access leaves the buffer that backs the view. -/
  | outOfExtent (address size : Word) (buffer : Buffer)

inductive SettingsError where
  | unreadable
  | malformed
  deriving DecidableEq, Repr

inductive Fault where
  | addOverflow
  | multiplyOverflow
  | outsideBuffer (address size : Word) (buffer : Buffer)
  | voidParameter (index : Nat) (signature : Signature)
  | emptyStruct (name : String)
  /-- A list was to grow beyond the room that any list can have. -/
  | capacityOverflow
  /-- A callback has no room for its own copy of a struct. -/
  | unstagedArgument (index : Nat) (cause : AllocError)
  /-- A callback gave up, for a reason of its own. -/
  | callbackPanic (message : String)
  /-- A part of a text was to begin or to end inside a character. -/
  | badEdge (bad : Text.BadEdge)
  | logDirectory (obstacle : Obstacle)
  | logFile (obstacle : Obstacle)

inductive Failure where
  | layout (cause : LayoutError)
  | link (cause : LinkError)
  | invocation (cause : InvocationError)
  | value (cause : ValueError)
  | alloc (cause : AllocError)
  | settings (cause : SettingsError)
  | fault (cause : Fault)
  /-- An access to memory that no live block holds. -/
  | undefined

namespace LayoutError

def message : LayoutError → String
  | incompleteField struct field => s!"field `{field}` of struct `{struct}` has incomplete type void"
  | zeroCardinality struct field => s!"field `{field}` of struct `{struct}` has cardinality 0"
  | duplicateField struct field => s!"struct `{struct}` declares field `{field}` more than once"
  | unknownStruct struct field target =>
    s!"field `{field}` of struct `{struct}` embeds unknown struct `{target}`"
  | redefined struct => s!"struct `{struct}` is already defined with a different field list"
  | missingTarget struct field =>
    s!"invalid struct description: field `{field}` of struct `{struct}` has type struct but no target"
  | unreadable => "invalid struct description"

end LayoutError

namespace LinkError

def message : LinkError → String
  | invalidLibraryName name => s!"invalid library name `{name}`"
  | loadFailed name => s!"failed to load library `{name}`"
  | invalidSymbolName name => s!"invalid symbol name `{name}`"
  | missingSymbol name => s!"symbol `{name}` not found"
  | missingSymbols names => "symbols not found: " ++ ", ".intercalate names

/-- The symbols that did not resolve, when that is the cause. -/
def missing : LinkError → List String
  | missingSymbol name | invalidSymbolName name => [name]
  | missingSymbols names => names
  | _ => []

end LinkError

namespace AllocError

def message : AllocError → String
  | zeroLength => "cannot allocate zero length array"
  | outOfMemory size => s!"allocation of {size.toNat} bytes failed"
  | overflow count size => s!"allocation size overflows: {count.toNat} x {size.toNat}"

end AllocError

namespace InvocationError

def message : InvocationError → String
  | nullTarget => "call target is null (unresolved symbol?)"
  | argumentCount expected got => s!"expected {expected} arguments, got {got}"
  | argumentType index expected found => s!"argument {index}: expected {expected.text}, found {found}"
  | returnStorage cause => s!"failed to stage struct return: {cause.message}"

end InvocationError

/-- How a message shows an address that was reached from a buffer. -/
abbrev ShowAddress := Buffer → Word → String

namespace ValueError

def message (place : ShowAddress) : ValueError → String
  | typeMismatch expected found => s!"cannot store {found} into element of type {expected.text}"
  | notAStruct type => s!"view of type {type.text} is not a struct"
  | unknownField struct field => s!"struct `{struct}` has no field `{field}`"
  | readOnlyIndirection => "cannot write through a pointer-to-pointer cast"
  | outOfExtent address size buffer =>
    s!"access of {size.toNat} bytes at {place buffer address} is outside the backing buffer"

end ValueError

namespace SettingsError

def message : SettingsError → String
  | unreadable => "failed to read config"
  | malformed => "failed to parse config"

end SettingsError

def Obstacle.report : Obstacle → String
  | occupied => systemError 17 "AlreadyExists" "File exists"
  | passesFile => systemError 20 "NotADirectory" "Not a directory"
  | nameTooLong => systemError 36 "InvalidFilename" "File name too long"
  | nulInName =>
    "Error \x7b kind: InvalidInput, message: \"file name contained an unexpected NUL byte\" \x7d"
where
  systemError (code : Nat) (kind message : String) : String :=
    s!"Os \x7b code: {code}, kind: {kind}, message: \"{message}\" \x7d"

namespace Fault

def message (place : ShowAddress) : Fault → String
  | addOverflow => "attempt to add with overflow"
  | multiplyOverflow => "attempt to multiply with overflow"
  | outsideBuffer address size buffer =>
    s!"access of {size.toNat} bytes at {place buffer address} is outside buffer " ++
      s!"Buffer \x7b address: {place buffer buffer.start}, len: {buffer.size.toNat} \x7d"
  | voidParameter index signature => s!"parameter {index} of {signature.text} is void"
  | emptyStruct name => s!"struct {name} has no fields and cannot be passed by value"
  | capacityOverflow => "capacity overflow"
  | unstagedArgument index cause => s!"callback argument {index} could not be staged: {cause.message}"
  | callbackPanic message => message
  | badEdge bad =>
    s!"{bad.edge.name} byte index {bad.position} is not a char boundary; " ++
      s!"it is inside {Text.quoted bad.character} (bytes {bad.first}..{bad.next} of string)"
  | logDirectory obstacle => logOutput "directory" obstacle
  | logFile obstacle => logOutput "file" obstacle
where
  logOutput (part : String) (obstacle : Obstacle) : String :=
    "initializing rolling file appender failed: InitError \x7b " ++
      s!"context: \"failed to create log {part}\", source: {obstacle.report} \x7d"

end Fault

namespace Failure

def message (place : ShowAddress) : Failure → String
  | layout cause => cause.message
  | link cause => cause.message
  | invocation cause => cause.message
  | value cause => cause.message place
  | alloc cause => cause.message
  | settings cause => cause.message
  | fault cause => cause.message place
  | undefined => "access to memory that is not there"

end Failure

/-- An operation's result, or why it has none. -/
abbrev Outcome (α : Type) := Except Failure α

namespace Outcome

/-- A sum that must fit a word. -/
def sum (a b : Word) : Outcome Word :=
  match a.add? b with
  | some c => .ok c
  | none => .error (.fault .addOverflow)

/-- A product that must fit a word. -/
def product (a b : Word) : Outcome Word :=
  match a.mul? b with
  | some c => .ok c
  | none => .error (.fault .multiplyOverflow)

end Outcome
end Foreign
