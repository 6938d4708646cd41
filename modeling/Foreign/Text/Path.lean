/-!
Paths as text: components between slashes, the joining of a path to a directory, and the way up from the end
of a path.
-/

namespace Foreign.Path

def isAbsolute (path : String) : Bool :=
  path.startsWith "/"

/-- Whether a part between slashes leads on. An empty one and a single dot stay where they are. -/
def isStep (part : String) : Bool :=
  part != "" && part != "."

/-- The components that say where to go. -/
def components (path : String) : List String :=
  (path.splitOn "/").filter isStep

/-- `path` seen from `directory`. An absolute path stands for itself. -/
def join (directory path : String) : String :=
  if isAbsolute path || directory.isEmpty then path
  else if directory.endsWith "/" then directory ++ path
  else directory ++ "/" ++ path

/-- Whether the path ends in a name. Behind a slash or a dot there can only be a directory. -/
def endsInName (path : String) : Bool :=
  (path.splitOn "/").getLast?.any isStep

/-- Whether two paths name one place, as far as the text shows. -/
def same (a b : String) : Bool :=
  isAbsolute a == isAbsolute b && components a == components b

/-- The components with the steps up taken, unless they lead out of where they begin. -/
def normal? (components : List String) : Option (List String) :=
  (components.foldlM (fun reached part =>
    match part, reached with
    | "..", [] => none
    | "..", _ :: above => some above
    | _, _ => some (part :: reached)) []).map List.reverse

/-- The components of a path and of all that lead to it, the longest first. -/
def ancestors : List String → List (List String)
  | [] => [[]]
  | part :: rest => (ancestors rest).map (part :: ·) ++ [[]]

/-- Where the text of a path begins. -/
inductive Start where
  | top
  /-- At a single dot, which is a way of its own to say where one is. -/
  | dot
  | here
  deriving DecidableEq, Repr

/-- Where a path begins, and the parts behind that. -/
def divide (path : String) : Start × List String :=
  match path.splitOn "/" with
  | "" :: part :: rest => (.top, part :: rest)
  | "." :: rest => (.dot, rest)
  | parts => (.here, parts)

/-- The text of the path with the given parts. -/
def Start.path (start : Start) (parts : List String) : String :=
  match start with
  | top => "/" ++ "/".intercalate parts
  | dot => "/".intercalate ("." :: parts)
  | here => "/".intercalate parts

/-- Parts, given from the end, without those that come before the first step. -/
def toStep (parts : List String) : List String :=
  parts.dropWhile fun part => !isStep part

/-- What is above each step in turn, with the parts given from the end. -/
def above : List String → List (List String)
  | [] => []
  | part :: rest => if isStep part then toStep rest :: above rest else above rest

/-- The path without the slashes and single dots at its end, which change nothing in a directory's path. -/
def trim (path : String) : String :=
  let (start, parts) := divide path
  start.path (toStep parts.reverse).reverse

/-- The path and the paths of what is above it, as far as its text shows. -/
def ascent (path : String) : List String :=
  let (start, parts) := divide path
  let higher := (above parts.reverse).map fun parts => start.path parts.reverse
  path :: higher ++ if start = .dot then [""] else []

end Foreign.Path
