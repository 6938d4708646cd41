import Foreign.Log.Level

/-!
How logging is set up: what is logged, in which form and where to. Variables of the environment override
parts of it.
-/

namespace Foreign

abbrev Environment := List (String × String)

namespace Log

inductive Output where
  | stdout
  | stderr
  /-- A file for each day in a directory; the date is added to the file name. -/
  | files (directory fileName : String)
  deriving DecidableEq, Repr

structure Setup where
  level : Level
  format : Format
  output : Output
  /-- Whether the opening and closing of spans is logged. -/
  spans : Bool
  /-- Filter directives on top of the level. -/
  filter : Option String
  deriving DecidableEq, Repr

namespace Setup

def standard : Setup :=
  ⟨.info, .compact, .stderr, false, none⟩

/-- Everything, in full. -/
def verbose : Setup :=
  ⟨.trace, .pretty, .stderr, true, none⟩

/-- The name that log files begin with. -/
def fileName : String := "abicall"

def filesIn (directory : String) : Output :=
  .files directory fileName

/-- The setup under an environment. Level and format names that mean nothing are passed over. -/
def override (setup : Setup) (environment : Environment) : Setup :=
  { setup with
    level := (environment.lookup "ABICALL_LOG_LEVEL" >>= Level.ofName?).getD setup.level
    format := (environment.lookup "ABICALL_LOG_FORMAT" >>= Format.ofName?).getD setup.format
    output := ((environment.lookup "ABICALL_LOG_DIR").map filesIn).getD setup.output
    spans := setup.spans || (environment.lookup "ABICALL_LOG_SPANS").isSome }

def ofEnvironment (environment : Environment) : Setup :=
  standard.override environment

end Setup
end Log
end Foreign
