import Foreign.Log.Pattern.Expression
import Foreign.Text.Alphanumeric
import Foreign.Text.Blank
import Foreign.Text.Hex

/-!
The text of regular expressions. Where the flag for extended text is on, blanks and comments may stand
between the parts of an expression and between the digits of a character, but not inside names, flags and
anything else that follows a backslash.
-/

namespace Foreign.Log.Pattern

/-- The characters behind blanks and comments. A comment goes from a number sign to the end of its line. -/
def behindBlanks (isComment : Bool) : List Char → List Char
  | [] => []
  | c :: rest =>
    if isComment then behindBlanks (c != '\n') rest
    else if c == '#' then behindBlanks true rest
    else if Text.isBlank c then behindBlanks false rest
    else c :: rest

/-- The characters behind what an expression may have between its parts. -/
def skip (extended : Bool) (cs : List Char) : List Char :=
  if extended then behindBlanks false cs else cs

/-! ## Escapes -/

/-- What a backslash and the characters behind it stand for. -/
inductive Escape where
  | literal (l : Literal)
  | edge
  | wordEdge
  | kind (negated : Bool)

/-- The number that begins with `leading` and goes on with a count of hexadecimal digits. -/
def code? (extended : Bool) : Nat → Nat → List Char → Option (Nat × List Char)
  | 0, leading, cs => some (leading, cs)
  | count + 1, leading, cs =>
    match skip extended cs with
    | [] => none
    | c :: rest => (Hex.value? c).bind fun digit => code? extended count (16 * leading + digit) rest

/-- What follows a backslash, and the characters behind it. -/
def escape? (extended : Bool) : List Char → Option (Escape × List Char)
  | [] => none
  | c :: rest =>
    let coded := fun count => do
      let (code, rest) ← code? extended count 0 rest
      if code.isValidChar then some (.literal ⟨Char.ofNat code, c == 'x'⟩, rest) else none
    let literal := fun c => some (.literal (.verbatim c), rest)
    match c with
    | 'x' => coded 2
    | 'u' => coded 4
    | 'U' => coded 8
    | 'd' | 's' | 'w' => some (.kind false, rest)
    | 'D' | 'S' | 'W' => some (.kind true, rest)
    | 'A' | 'z' => some (.edge, rest)
    | 'b' | 'B' | '<' | '>' => some (.wordEdge, rest)
    | 'a' => literal '\x07'
    | 'f' => literal '\x0c'
    | 't' => literal '\t'
    | 'n' => literal '\n'
    | 'r' => literal '\r'
    | 'v' => literal '\x0b'
    | c => if c.toNat < 0x80 && !c.isAlphanum then literal c else none

/-! ## Sets -/

def setNames : List String :=
  ["alnum", "alpha", "ascii", "blank", "cntrl", "digit", "graph", "lower", "print", "punct", "space",
    "upper", "word", "xdigit"]

/-- A set that is named between colons, from behind its opening bracket on. -/
def named? : List Char → Option (Members × List Char)
  | ':' :: rest =>
    let negated := rest.head? == some '^'
    let rest := if negated then rest.tail else rest
    match rest.dropWhile (· != ':') with
    | ':' :: ']' :: behind =>
      if setNames.contains (String.ofList (rest.takeWhile (· != ':'))) then some (.named negated, behind)
      else none
    | _ => none
  | _ => none

/-- A character or a kind of characters in a set. -/
def member? (extended : Bool) : List Char → Option (Members × List Char)
  | [] => none
  | '\\' :: rest =>
    match escape? extended rest with
    | some (.literal l, rest) => some (.literal l, rest)
    | some (.kind negated, rest) => some (.kind negated, rest)
    | _ => none
  | c :: rest => some (.literal (.verbatim c), rest)

/-- The character behind a dash by which it makes a range or not. In extended text it is the first one that
is neither blank nor a number sign, of which only one is passed over. -/
def ahead? (extended : Bool) (cs : List Char) : Option Char :=
  if extended then
    match cs.dropWhile Text.isBlank with
    | '#' :: rest => (rest.dropWhile Text.isBlank).head? <|> cs.head?
    | rest => rest.head? <|> cs.head?
  else cs.head?

/-- A range or a single member of a set. -/
def part? (extended : Bool) (cs : List Char) : Option (Members × List Char) := do
  let (first, rest) ← member? extended cs
  match skip extended rest with
  | '-' :: behind =>
    let next := ahead? extended behind
    if next == some ']' || next == some '-' then some (first, '-' :: behind)
    else
      let (last, rest) ← member? extended (skip extended behind)
      match first, last with
      | .literal first, .literal last =>
        if first.char ≤ last.char then some (.range first last, rest) else none
      | _, _ => none
  | rest => some (first, rest)

/-- Whether a set begins with the sign that negates it, and the characters behind that. -/
def negation (extended : Bool) (cs : List Char) : Bool × List Char :=
  match skip extended cs with
  | '^' :: rest => (true, rest)
  | rest => (false, rest)

/-- The rest of a set up to its closing bracket. `left` is what stands in front of the last operator and
`parts` what came since then, the last part first. As long as nothing but dashes came, the set is `opening`:
more dashes are members, and so is a closing bracket that comes first. -/
def set? : Nat → Bool → Bool → Option Members → List Members → List Char → Option (Members × List Char)
  | 0, _, _, _, _, _ => none
  | fuel + 1, extended, opening, left, parts, cs =>
    let operate := fun rest => set? fuel extended false (some (.joined left parts)) [] rest
    match skip extended cs with
    | [] => none
    | '[' :: rest =>
      match named? rest with
      | some (member, rest) => set? fuel extended false left (member :: parts) rest
      | none => do
        let (negated, rest) := negation extended rest
        let (members, rest) ← set? fuel extended true none [] rest
        set? fuel extended false left (.nested negated members :: parts) rest
    | ']' :: rest =>
      if opening && parts.isEmpty then
        set? fuel extended false left [.literal (.verbatim ']')] rest
      else some (.joined left parts, rest)
    | '&' :: '&' :: rest => operate rest
    | '~' :: '~' :: rest => operate rest
    | c :: rest =>
      if opening && c == '-' then set? fuel extended true left (.literal (.verbatim '-') :: parts) rest
      else if c == '-' && rest.head? == some '-' then operate rest.tail
      else do
        let (part, rest) ← part? extended (c :: rest)
        set? fuel extended false left (part :: parts) rest

/-! ## Groups -/

/-- Flags that are turned on, and behind a dash those that are turned off. -/
def flags? (letters : List Char) : Option Flags :=
  let areFlags := letters.all ("imsUuRx-".toList.contains ·) && decide letters.Nodup
  if areFlags && letters.getLast? != some '-' then
    some ⟨letters.takeWhile (· != '-'), (letters.dropWhile (· != '-')).tail⟩
  else none

def isGroupName : List Char → Bool
  | [] => false
  | c :: rest =>
    (c == '_' || Text.isAlphabetic c) &&
      rest.all fun c => Text.isAlphanumeric c || c == '_' || c == '.' || c == '[' || c == ']'

/-- What an opening parenthesis leads to. -/
inductive Opening where
  | group (name : Option String) (flags : Flags)
  | flags (flags : Flags)

/-- What stands between an opening parenthesis and the parts of the group. -/
def opening? (cs : List Char) : Option (Opening × List Char) :=
  let named := fun (rest : List Char) =>
    let name := rest.takeWhile (· != '>')
    match rest.dropWhile (· != '>') with
    | _ :: behind =>
      if isGroupName name then some (.group (some (String.ofList name)) .empty, behind) else none
    | [] => none
  match cs with
  | '?' :: 'P' :: '<' :: rest | '?' :: '<' :: rest => named rest
  | '?' :: rest => do
    let isLetter := fun c => c != ':' && c != ')'
    let letters := rest.takeWhile isLetter
    let flags ← flags? letters
    match rest.dropWhile isLetter with
    | ':' :: behind => some (.group none flags, behind)
    | _ :: behind => if letters.isEmpty then none else some (.flags flags, behind)
    | [] => none
  | _ => some (.group none .empty, cs)

/-! ## Expressions -/

def isRepeater (c : Char) : Bool :=
  c == '?' || c == '*' || c == '+'

/-- The rest of a group, or of the whole text, up to where it is closed. `branches` are those in front of
the last bar and `parts` what came since then, the last ones first. -/
def group? : Nat → Bool → List Expression → List Expression → List Char → Option (Expression × List Char)
  | 0, _, _, _, _ => none
  | fuel + 1, extended, branches, parts, cs =>
    let add := fun part rest => group? fuel extended branches (part :: parts) rest
    match skip extended cs with
    | [] => some (.ofBranches (.ofParts parts :: branches), [])
    | ')' :: rest => some (.ofBranches (.ofParts parts :: branches), ')' :: rest)
    | '|' :: rest => group? fuel extended (.ofParts parts :: branches) [] rest
    | '(' :: rest =>
      match opening? (skip extended rest) with
      | some (.flags flags, rest) =>
        group? fuel (flags.setting 'x' extended) branches (.flags flags :: parts) rest
      | some (.group name flags, rest) =>
        match group? fuel (flags.setting 'x' extended) [] [] rest with
        | some (inner, ')' :: rest) => add (.group name flags inner) rest
        | _ => none
      | none => none
    | '[' :: rest => do
      let (negated, rest) := negation extended rest
      let (members, rest) ← set? (rest.length + 1) extended true none [] rest
      add (.set negated members) rest
    | '\\' :: rest =>
      match escape? extended rest with
      | some (.literal l, rest) => add (.literal l) rest
      | some (.edge, rest) => add .edge rest
      | some (.wordEdge, rest) => add .wordEdge rest
      | some (.kind negated, rest) => add (.kind negated) rest
      | none => none
    | '.' :: rest => add .any rest
    | '^' :: rest | '$' :: rest => add .edge rest
    | '{' :: _ => none
    | c :: rest =>
      if isRepeater c then
        match parts with
        | part :: parts =>
          let rest := if rest.head? == some '?' then rest.tail else rest
          if part.isRepeatable then group? fuel extended branches (.repetition part :: parts) rest
          else none
        | [] => none
      else add (.literal (.verbatim c)) rest

namespace Expression

def ofText? (text : String) : Option Expression :=
  match group? (text.length + 1) false [] [] text.toList with
  | some (e, []) => some e
  | _ => none

end Expression
end Foreign.Log.Pattern
