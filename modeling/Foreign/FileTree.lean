import Foreign.Text.Path
import Foreign.Text.Utf8

/-!
A tree of directories and files. A place in it is the list of names that leads there from the top. Paths
are followed step by step from a place: a step up really goes up, and only directories can be passed.
-/

namespace Foreign

abbrev Place := List String

inductive Entry where
  | directory
  | file (bytes : List UInt8)
  /-- A file that must not be read. -/
  | sealed
  deriving DecidableEq, Repr

/-- What keeps a directory from being made. -/
inductive Obstacle where
  /-- A file has the directory's name. -/
  | occupied
  /-- A file is on the way to the directory. -/
  | passesFile
  /-- A name, or the path as a whole, has too many bytes. -/
  | nameTooLong
  /-- A name has the character with code 0 in it. -/
  | nulInName
  deriving DecidableEq, Repr

/-- What is where, apart from the top, which is always a directory. -/
structure FileTree where
  entries : List (Place × Entry)

namespace FileTree

def empty : FileTree := ⟨[]⟩

def entry? (tree : FileTree) (place : Place) : Option Entry :=
  if place.isEmpty then some .directory else tree.entries.lookup place

def isFile (tree : FileTree) (place : Place) : Bool :=
  match tree.entry? place with
  | some (.file _) | some .sealed => true
  | _ => false

def insert (tree : FileTree) (place : Place) (entry : Entry) : FileTree :=
  ⟨(place, entry) :: tree.entries⟩

/-- Where steps lead through directories. -/
def follow (place : Place) (steps : List String) : Place :=
  steps.foldl (fun place step => if step = ".." then place.dropLast else place ++ [step]) place

/-- The directory that steps from a place lead to, and all on the way to it. -/
def addDirectory (tree : FileTree) (place : Place) (steps : List String) : FileTree :=
  (Path.ancestors steps).foldl (fun tree steps => tree.insert (follow place steps) .directory) tree

def addFile (tree : FileTree) (place : Place) (steps : List String) (bytes : List UInt8) : FileTree :=
  (tree.addDirectory place steps.dropLast).insert (follow place steps) (.file bytes)

/-- The place that the steps lead to. An empty step or a single dot stays in a directory. -/
def walk (tree : FileTree) (place : Place) : List String → Option Place
  | [] => some place
  | step :: rest =>
    match tree.entry? place with
    | some .directory =>
      if step = "" || step = "." then tree.walk place rest
      else if step = ".." then tree.walk place.dropLast rest
      else
        let next := place ++ [step]
        if (tree.entry? next).isSome then tree.walk next rest else none
    | _ => none

def maxNameSize : Nat := 255

def isTooLong (path : String) : Bool :=
  4095 < path.utf8ByteSize

/-- The place that a path leads to from a directory. -/
def locate? (tree : FileTree) (directory : Place) (path : String) : Option Place :=
  if isTooLong path then none
  else tree.walk (if Path.isAbsolute path then [] else directory) (path.splitOn "/")

/-- Whether a path leads to a file. -/
def leadsToFile (tree : FileTree) (directory : Place) (path : String) : Bool :=
  (tree.locate? directory path).any tree.isFile

/-- What keeps a directory from being made where the steps lead to, along with all that are missing on the
way. Once one has been missing, those behind it are made one by one: a file among them then has the name of
a directory, rather than being passed. -/
def obstacleAt? (tree : FileTree) (place : Place) (isMaking : Bool) : List String → Option Obstacle
  | [] => if tree.isFile place then some .occupied else none
  | step :: rest =>
    if tree.isFile place then some (if isMaking then .occupied else .passesFile)
    else if step = ".." then tree.obstacleAt? place.dropLast isMaking rest
    else if maxNameSize < step.utf8ByteSize then some .nameTooLong
    else
      let next := place ++ [step]
      tree.obstacleAt? next (isMaking || (tree.entry? next).isNone) rest

/-- What keeps the directory at the end of a path from being made. -/
def obstacle? (tree : FileTree) (directory : Place) (path : String) : Option Obstacle :=
  if path.contains '\x00' then some .nulInName
  else if isTooLong path then some .nameTooLong
  else tree.obstacleAt? (if Path.isAbsolute path then [] else directory) false (Path.components path)

def read? (tree : FileTree) (directory : Place) (path : String) : Option (List UInt8) := do
  match tree.entry? (← tree.locate? directory path) with
  | some (.file bytes) => some bytes
  | _ => none

def readText? (tree : FileTree) (directory : Place) (path : String) : Option String := do
  let bytes ← tree.read? directory path
  if Utf8.isValid bytes then some (Utf8.decode bytes) else none

end FileTree
end Foreign
