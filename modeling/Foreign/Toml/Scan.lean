/-!
Scanning text from the front. A scan takes characters off the front of the text, or fails and takes none.
-/

namespace Foreign.Toml

abbrev Scan := StateT (List Char) Option

namespace Scan

def fail : Scan α := fun _ => none

def peek : Scan (Option Char) := fun text => some (text.head?, text)

def satisfy (p : Char → Bool) : Scan Char
  | c :: rest => if p c then some (c, rest) else none
  | [] => none

def char (c : Char) : Scan Unit := fun text =>
  match text with
  | d :: rest => if c = d then some ((), rest) else none
  | [] => none

def word (chars : String) : Scan Unit :=
  chars.toList.forM char

def takeWhile (p : Char → Bool) : Scan (List Char) := fun text => some (text.span p)

def takeWhile1 (p : Char → Bool) : Scan (List Char) := fun text =>
  match text.span p with
  | ([], _) => none
  | split => some split

def finish : Scan Unit := fun text => if text.isEmpty then some ((), []) else none

/-- What `scan` finds, if it finds something. -/
def optional (scan : Scan α) : Scan (Option α) :=
  (some <$> scan) <|> pure none

def manyWithin (scan : Scan α) : Nat → Scan (List α)
  | 0 => pure []
  | n + 1 => do
    match ← optional scan with
    | none => return []
    | some a => return a :: (← manyWithin scan n)

/-- As many in a row as there are. Each takes at least one character. -/
def many (scan : Scan α) : Scan (List α) := do
  manyWithin scan (← get).length

/-- The result of a check on what was found. -/
def check (found : Option α) : Scan α := fun text => found.map (·, text)

end Scan
end Foreign.Toml
