import Foreign.FileTree
import Foreign.Settings.Text

/-!
Settings from files. The settings in effect at a directory are those of the nearest usable settings file
in it or above it; a file that cannot be read or understood is passed over.
-/

namespace Foreign.Settings

def fileName : String := "abicall.toml"

def load (tree : FileTree) (directory : Place) (path : String) : Outcome Settings :=
  match tree.readText? directory path with
  | some text => ofText text
  | none => .error (.settings .unreadable)

/-- The path of the settings file in each directory that the text of a path goes through, the last
directory first. -/
def candidates (path : String) : List String :=
  (Path.ascent path).map fun directory => Path.join directory fileName

/-- The settings found on the way up from the start. The start itself need not exist. -/
def discoverFrom (tree : FileTree) (directory : Place) (start : String) : Option Settings :=
  let files := (candidates start).filter (tree.leadsToFile directory)
  files.findSome? fun path => (load tree directory path).toOption

/-- The settings in effect at a directory. -/
def discover (tree : FileTree) (directory : Place) : Settings :=
  (discoverFrom tree directory ("/" ++ "/".intercalate directory)).getD standard

end Foreign.Settings
