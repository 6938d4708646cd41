import Foreign.Settings.Basic
import Foreign.Toml.Decode

/-!
Settings in TOML: a record for logging and one for linking, each with fields that may be left out.
-/

namespace Foreign

open Toml (Node)

def LogSettings.ofNode? (node : Node) : Option LogSettings := do
  let entries ← node.record? ["level", "format", "directory", "spans", "filter"]
  let level ← entries.optional "level" standard.level Node.string?
  let format ← entries.optional "format" standard.format fun node => do
    let name ← node.choice?
    Log.Format.all.find? (·.name == name)
  let directory ← entries.optional "directory" none fun node => some <$> node.string?
  let spans ← entries.optional "spans" standard.spans Node.boolean?
  let filter ← entries.optional "filter" none fun node => some <$> node.string?
  return ⟨level, format, directory, spans, filter⟩

def Linker.ofNode? (node : Node) : Option Linker := do
  let entries ← node.record? ["policy", "search_paths"]
  let policy ← entries.optional "policy" standard.policy fun node => do
    LinkPolicy.ofName? (← node.choice?)
  let searchPaths ← entries.optional "search_paths" standard.searchPaths fun node => do
    (← node.list?).mapM Node.string?
  return ⟨policy, searchPaths⟩

namespace Settings

def ofNode? (node : Node) : Option Settings := do
  let entries ← node.record? ["logging", "linker"]
  let log ← entries.optional "logging" .standard LogSettings.ofNode?
  let linker ← entries.optional "linker" .standard Linker.ofNode?
  return ⟨log, linker⟩

def ofText (text : String) : Outcome Settings :=
  match Node.ofText? text >>= ofNode? with
  | some settings => .ok settings
  | none => .error (.settings .malformed)

end Settings
end Foreign
