import Foreign.Log.Pattern
import Foreign.Log.Level
import Foreign.Text.Alphanumeric
import Foreign.Text.Blank
import Foreign.Text.Slice

/-!
Directives: a target, a span and a field of it, and the most verbose level that is let through for them.
In text form the span stands in brackets behind the target and its field in braces behind its name; the
level stands behind an equals sign.
-/

namespace Foreign.Log

namespace Verbosity

def name : Verbosity → String
  | some level => level.name
  | none => "off"

def rank : Verbosity → Nat
  | some level => level.rank
  | none => 0

def all : List Verbosity := none :: Level.all.map some

/-- The number that decimal digits stand for, which may have a plus sign. -/
def number? (text : String) : Option Nat :=
  let digits := if text.toList.head? = some '+' then text.toList.tail else text.toList
  if !digits.isEmpty && digits.all (·.isDigit) then
    some (digits.foldl (fun n c => 10 * n + (c.toNat - '0'.toNat)) 0)
  else none

/-- Numbers stand for the levels from `error` on, 0 for nothing. -/
def ofText? (text : String) : Option Verbosity :=
  match number? text with
  | some n => all.find? (·.rank == n)
  | none => named? (all.map fun verbosity => (verbosity.name, verbosity)) text

def most (a b : Verbosity) : Verbosity :=
  if a.rank < b.rank then b else a

end Verbosity

/-- A field that a span must have, perhaps with a value that a pattern matches. -/
structure FieldTest where
  name : String
  pattern : Option String
  deriving DecidableEq, Repr

/-- A field by its name or with a pattern for its value behind an equals sign. -/
def FieldTest.ofText? (text : String) : Option FieldTest :=
  match text.splitOn "=" with
  | name :: pattern :: _ =>
    if !text.isEmpty && Pattern.isWellFormed pattern then some ⟨name, some pattern⟩ else none
  | _ => if text.isEmpty then none else some ⟨text, none⟩

/-- An entry of a filter. The empty target begins every target. -/
structure Directive where
  target : String
  span : Option String
  field : Option FieldTest
  verbosity : Verbosity
  deriving DecidableEq, Repr

namespace Directive

inductive Rejection where
  | malformed
  | badEdge (bad : Text.BadEdge)
  deriving DecidableEq, Repr

abbrev Reading := Except Rejection

def cut (text : String) (start stop : Nat) : Reading String :=
  (Text.slice text start stop).mapError .badEdge

def require : Option α → Reading α
  | some a => .ok a
  | none => .error .malformed

/-- The position behind the characters that begin at `position` and go on up to one that `stops`, and the
characters from that one on. -/
def skip (stops : Char → Bool) (position : Nat) (cs : List Char) : Nat × List Char :=
  ((cs.takeWhile (!stops ·)).foldl (fun position c => position + c.utf8Size) position,
    cs.dropWhile (!stops ·))

/-- The directive with the level at its end. One without a level lets everything through. -/
def close (text : String) (directive : Directive) (position : Nat) : List Char → Reading Directive
  | [] => return directive
  | '=' :: _ => do
    let level ← cut text (position + 1) text.utf8ByteSize
    if level.isEmpty then return directive
    return { directive with verbosity := ← require (Verbosity.ofText? level) }
  | _ => throw .malformed

/-- A directive from behind its opening bracket on, where `start` is. Brackets without a name in front of a
field are about every span. -/
def ofBrackets (text target : String) (start : Nat) (cs : List Char) : Reading Directive := do
  let (stop, rest) := skip (fun c => c == ']' || c == '{') start cs
  match rest with
  | ']' :: rest =>
    let span ← cut text start stop
    close text ⟨target, some span, none, some .trace⟩ (stop + 1) rest
  | '{' :: rest =>
    let span ← cut text start stop
    let span := if span.isEmpty then none else some span
    let (fieldStop, rest) := skip (· == '}') (stop + 1) rest
    match rest with
    | '}' :: rest =>
      let field ← require (FieldTest.ofText? (← cut text (stop + 1) fieldStop))
      match rest with
      | ']' :: rest => close text ⟨target, span, some field, some .trace⟩ (fieldStop + 2) rest
      | _ => throw .malformed
    | _ => throw .malformed
  | _ => throw .malformed

/-- A target by itself lets everything through, a level by itself is for every target. -/
def ofBareText (text : String) : Directive :=
  match Verbosity.ofText? text with
  | some verbosity => ⟨"", none, none, verbosity⟩
  | none => ⟨text, none, none, some .trace⟩

def opensTarget (c : Char) : Bool :=
  Text.isAlphanumeric c || c == '_' || c == ':' || c == '-'

/-- Positions do not count blanks in front of the text, but the parts are cut from the text with them. So
behind blanks every part is cut as many bytes early as the blanks have: what is cut for a level still has
the equals sign and is none, and a cut may fall inside a character. -/
def ofText (text : String) : Reading Directive := do
  match (Text.trimBlanks text).toList with
  | [] => throw .malformed
  | '[' :: rest => ofBrackets text "" 1 rest
  | c :: rest =>
    if !opensTarget c then throw .malformed
    let (stop, rest) := skip (fun c => c == '=' || c == '[') 0 (c :: rest)
    match rest with
    | [] => return ofBareText text
    | '[' :: rest => ofBrackets text (← cut text 0 stop) (stop + 1) rest
    | rest => close text ⟨← cut text 0 stop, none, none, some .trace⟩ stop rest

/-- Whether the directive depends on spans. -/
def isAboutSpans (directive : Directive) : Bool :=
  directive.span.isSome || directive.field.isSome

/-- Whether the directive holds for events outside of spans too: it neither names a span nor asks for a
value. -/
def isAboutEvents (directive : Directive) : Bool :=
  directive.span.isNone && !(directive.field.any (·.pattern.isSome))

end Directive
end Foreign.Log
