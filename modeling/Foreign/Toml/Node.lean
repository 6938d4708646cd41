/-!
TOML documents as trees. A table remembers how it came about, because that decides whether later lines
may add to it.
-/

namespace Foreign.Toml

inductive TableKind where
  /-- Opened by a header; also the document itself. -/
  | header
  /-- Passed through by the header of a table inside it. -/
  | implied
  /-- Made by a dotted key. -/
  | dotted
  /-- Written in braces, and closed with them. -/
  | inline
  deriving DecidableEq, Repr

inductive Node where
  | string (text : String)
  | integer (n : Int)
  | float
  | boolean (b : Bool)
  | dateTime
  | array (items : List Node)
  | table (kind : TableKind) (entries : List (String × Node))
  /-- An array of tables, each opened by a header of its own. -/
  | tables (items : List (List (String × Node)))

abbrev Entries := List (String × Node)

namespace Entries

/-- Give a new node to a key that is there. -/
def replace (entries : Entries) (key : String) (node : Node) : Entries :=
  entries.map fun entry => if entry.1 = key then (key, node) else entry

/-- Change the table that `path` leads to. Tables on the way that do not exist are made. A path of
headers may pass through any table that is not closed, a dotted key only through those that no header
opened; both pass through an array of tables by its last element. -/
def descend (dotted : Bool) (change : TableKind → Entries → Option Entries) :
    List String → TableKind → Entries → Option Entries
  | [], kind, entries => change kind entries
  | key :: path, _, entries =>
    match entries.lookup key with
    | none =>
      let kind := if dotted then .dotted else .implied
      (descend dotted change path kind []).map fun inner => entries ++ [(key, .table kind inner)]
    | some (.table kind inner) =>
      if kind = .inline || (dotted && kind = .header) then none
      else (descend dotted change path kind inner).map fun inner => entries.replace key (.table kind inner)
    | some (.tables items) =>
      match items.getLast? with
      | some last =>
        (descend dotted change path .header last).map fun last =>
          entries.replace key (.tables (items.dropLast ++ [last]))
      | none => none
    | some _ => none

def add (key : String) (node : Node) (viaDots : Bool) (kind : TableKind) (entries : Entries) :
    Option Entries :=
  if (kind == .dotted) != viaDots || (entries.lookup key).isSome then none
  else some (entries ++ [(key, node)])

/-- Add what a key, dotted or not, stands for in a table. -/
def assign (path : List String) (key : String) (node : Node) (kind : TableKind) (entries : Entries) :
    Option Entries :=
  descend true (add key node !path.isEmpty) path kind entries

/-- Open a table by its header. One that was only passed through so far may still be opened. -/
def openTable (path : List String) (key : String) (entries : Entries) : Option Entries :=
  descend false (fun _ parent =>
    match parent.lookup key with
    | none => some (parent ++ [(key, .table .header [])])
    | some (.table .implied inner) => some (parent.replace key (.table .header inner))
    | some _ => none) path .header entries

/-- Open the next element of an array of tables by its header. -/
def openElement (path : List String) (key : String) (entries : Entries) : Option Entries :=
  descend false (fun _ parent =>
    match parent.lookup key with
    | none => some (parent ++ [(key, .tables [[]])])
    | some (.tables items) => some (parent.replace key (.tables (items ++ [[]])))
    | some _ => none) path .header entries

end Entries

/-- A meaningful line. A dotted key is the keys before its last one, and the last. -/
inductive Line where
  | assignment (path : List String) (key : String) (node : Node)
  | table (path : List String) (key : String)
  | element (path : List String) (key : String)

/-- A document that is being read: its tree, and the table that plain keys belong to. -/
structure Draft where
  root : Entries
  current : List String

namespace Draft

def line (draft : Draft) : Line → Option Draft
  | .assignment path key node =>
    (Entries.descend false (Entries.assign path key node) draft.current .header draft.root).map
      fun root => { draft with root }
  | .table path key =>
    (Entries.openTable path key draft.root).map fun root => ⟨root, path ++ [key]⟩
  | .element path key =>
    (Entries.openElement path key draft.root).map fun root => ⟨root, path ++ [key]⟩

end Draft

/-- The document that the lines make up, unless one of them defines again what is already there. -/
def Node.ofLines? (lines : List Line) : Option Node :=
  (lines.foldlM Draft.line (⟨[], []⟩ : Draft)).map fun draft => .table .header draft.root

/-- The table in braces with the given keys. -/
def Node.inline? (assignments : List (List String × String × Node)) : Option Node :=
  (assignments.foldlM (fun entries (path, key, node) =>
    Entries.assign path key node .inline entries) []).map (.table .inline)

end Foreign.Toml
