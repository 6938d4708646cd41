import Foreign.FileTree
import Foreign.Log.Filter

/-!
The logger of a process. Starting it settles the setup for good: later starts change nothing.
-/

namespace Foreign.Log

def filePath (directory fileName day : String) : String :=
  Path.join directory (fileName ++ "." ++ day)

/-- A day as file names give it. All days take the same room. -/
def anyDay : String := "2000-01-01"

/-- Make the place for the output in a tree of files. -/
def Output.prepare (output : Output) (tree : FileTree) (place : Place) : Outcome Unit :=
  match output with
  | .files directory fileName =>
    match tree.obstacle? place (Path.trim directory) with
    | some obstacle => throw (.fault (.logDirectory obstacle))
    | none =>
      if FileTree.isTooLong (filePath directory fileName anyDay) then
        throw (.fault (.logFile .nameTooLong))
      else return
  | _ => return

structure Started where
  setup : Setup
  filter : Filter

structure Logger where
  started : Option Started

namespace Logger

def idle : Logger := ⟨none⟩

/-- Start logging in a process that runs at a place in a tree of files. -/
def start (logger : Logger) (setup : Setup) (environment : Environment) (tree : FileTree)
    (place : Place) : Outcome Logger := do
  match logger.started with
  | some _ => return logger
  | none =>
    let filter ← Filter.library.build setup environment
    setup.output.prepare tree place
    return ⟨some ⟨setup, filter⟩⟩

def isStarted (logger : Logger) : Bool :=
  logger.started.isSome

/-- The most verbose level of events of a target that is logged. -/
def verbosity (logger : Logger) (target : String) : Verbosity :=
  logger.started.bind fun started => started.filter.verbosity target

/-- The file that is logged to, below the directory where the process runs; `date` is the day. -/
def file? (logger : Logger) (date : String) : Option String := do
  match (← logger.started).setup.output with
  | .files directory fileName =>
    if Path.isAbsolute directory then none
    else
      let below ← Path.normal? (Path.components directory)
      return "/".intercalate (below ++ [fileName ++ "." ++ date])
  | _ => none

theorem start_of_isStarted {logger : Logger} (h : logger.isStarted) (setup : Setup)
    (environment : Environment) (tree : FileTree) (place : Place) :
    logger.start setup environment tree place = .ok logger := by
  cases hs : logger.started with
  | none => simp [isStarted, hs] at h
  | some _ => simp only [start, hs]; rfl

theorem isStarted_of_start {logger started : Logger} {setup : Setup} {environment : Environment}
    {tree : FileTree} {place : Place} (h : logger.start setup environment tree place = .ok started) :
    started.isStarted := by
  cases hs : logger.started with
  | some _ =>
    rw [start_of_isStarted (by simp [isStarted, hs])] at h
    cases h
    simp [isStarted, hs]
  | none =>
    simp only [start, hs, bind, Except.bind] at h
    split at h
    · cases h
    · split at h
      · cases h
      · cases h; rfl

theorem start_start {logger started : Logger} {setup : Setup} {environment : Environment}
    {tree : FileTree} {place : Place} (h : logger.start setup environment tree place = .ok started)
    (other : Setup) (changed : Environment) (files : FileTree) (directory : Place) :
    started.start other changed files directory = .ok started :=
  start_of_isStarted (isStarted_of_start h) other changed files directory

end Logger
end Foreign.Log
