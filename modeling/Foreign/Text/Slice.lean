/-!
Parts of a text between positions that count bytes. A position inside a character bounds no part.
-/

namespace Foreign.Text

inductive Edge where
  | start
  | stop
  deriving DecidableEq, Repr

def Edge.name : Edge → String
  | start => "start"
  | stop => "end"

/-- An edge of a part that is inside a character. -/
structure BadEdge where
  edge : Edge
  position : Nat
  character : Char
  first : Nat
  deriving DecidableEq, Repr

namespace BadEdge

def next (bad : BadEdge) : Nat :=
  bad.first + bad.character.utf8Size

end BadEdge

/-- The character that a position is inside of and where it begins, for characters from `first` on. -/
def inside? (position first : Nat) : List Char → Option (Char × Nat)
  | [] => none
  | c :: rest =>
    if position ≤ first then none
    else if position < first + c.utf8Size then some (c, first)
    else inside? position (first + c.utf8Size) rest

/-- The characters behind the first `count` bytes. -/
def behind (count : Nat) : List Char → List Char
  | [] => []
  | c :: rest => if count = 0 then c :: rest else behind (count - c.utf8Size) rest

/-- The characters in the first `count` bytes. -/
def within (count : Nat) : List Char → List Char
  | [] => []
  | c :: rest => if count = 0 then [] else c :: within (count - c.utf8Size) rest

/-- The part of a text between two positions. -/
def slice (text : String) (start stop : Nat) : Except BadEdge String :=
  match inside? start 0 text.toList, inside? stop 0 text.toList with
  | some (c, first), _ => .error ⟨.start, start, c, first⟩
  | none, some (c, first) => .error ⟨.stop, stop, c, first⟩
  | none, none => .ok (String.ofList (within (stop - start) (behind start text.toList)))

end Foreign.Text
