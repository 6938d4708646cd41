/-!
Regular expressions over characters and sets of them. What they match is of no use here, only whether they
are admissible: nested no deeper than `maxDepth`, without two groups of one name, and without what is not
supported. Nothing that needs to know about characters beyond ASCII is: neither kinds of characters nor
words nor matching without regard to case. With the Unicode flag off these are about ASCII and supported,
but then nothing may match a part of a character.
-/

namespace Foreign.Log.Pattern

/-- A character that stands for itself. -/
structure Literal where
  char : Char
  /-- Whether it is given by the two digits of a byte. -/
  isByte : Bool

structure Flags where
  on : List Char
  off : List Char

inductive Members where
  | literal (l : Literal)
  | range (first last : Literal)
  /-- A set that has a name of its own. -/
  | named (negated : Bool)
  /-- Digits, white space, or what words consist of. -/
  | kind (negated : Bool)
  | nested (negated : Bool) (members : Members)
  | union (parts : List Members)
  /-- The intersection or a difference of two sets. -/
  | combined (left right : Members)

inductive Expression where
  | literal (l : Literal)
  | any
  /-- The beginning or the end of a line or of the text. -/
  | edge
  /-- A place where a word begins or ends, or where none does. -/
  | wordEdge
  | kind (negated : Bool)
  | set (negated : Bool) (members : Members)
  | repetition (inner : Expression)
  /-- Flags for everything behind them in the same group. -/
  | flags (change : Flags)
  | group (name : Option String) (change : Flags) (inner : Expression)
  | concatenation (parts : List Expression)
  | alternation (branches : List Expression)

/-- How characters are matched at a place. -/
structure Modes where
  ignoresCase : Bool
  isUnicode : Bool

namespace Flags

def empty : Flags := ⟨[], []⟩

/-- Whether a flag is on where it was on or off `before`. -/
def setting (flags : Flags) (letter : Char) (before : Bool) : Bool :=
  if flags.on.contains letter then true
  else if flags.off.contains letter then false
  else before

end Flags

namespace Modes

def standard : Modes := ⟨false, true⟩

def under (modes : Modes) (flags : Flags) : Modes :=
  ⟨flags.setting 'i' modes.ignoresCase, flags.setting 'u' modes.isUnicode⟩

end Modes

namespace Literal

def verbatim (c : Char) : Literal := ⟨c, false⟩

def isAscii (l : Literal) : Bool :=
  l.char.toNat < 0x80

def isSupported (modes : Modes) (l : Literal) : Bool :=
  if modes.isUnicode then !modes.ignoresCase else l.isAscii || !l.isByte

def isSupportedInSet (modes : Modes) (l : Literal) : Bool :=
  if modes.isUnicode then !modes.ignoresCase else l.isAscii

end Literal

namespace Members

/-- The members in a list of parts, the last of them first. -/
def ofParts : List Members → Members
  | [part] => part
  | parts => .union parts.reverse

/-- The parts behind an operator, and what is in front of it. -/
def joined (left : Option Members) (parts : List Members) : Members :=
  left.elim (ofParts parts) (.combined · (ofParts parts))

mutual

def depth : Members → Nat
  | .literal _ | .range _ _ | .named _ | .kind _ => 0
  | .nested _ members => members.depth + 1
  | .union parts => if parts.isEmpty then 0 else deepest parts + 1
  | .combined left right => max left.depth right.depth + 1

def deepest : List Members → Nat
  | [] => 0
  | part :: parts => max part.depth (deepest parts)

end

mutual

def isSupported (modes : Modes) : Members → Bool
  | .literal l => l.isSupportedInSet modes
  | .range first last => first.isSupportedInSet modes && last.isSupportedInSet modes
  | .named negated => if modes.isUnicode then !modes.ignoresCase else !negated
  | .kind negated => !modes.isUnicode && !negated
  | .nested negated members => (modes.isUnicode || !negated) && members.isSupported modes
  | .union parts => areSupported modes parts
  | .combined left right => left.isSupported modes && right.isSupported modes

def areSupported (modes : Modes) : List Members → Bool
  | [] => true
  | part :: parts => part.isSupported modes && areSupported modes parts

end

end Members

namespace Expression

/-- The concatenation of a list of parts, the last of them first. -/
def ofParts : List Expression → Expression
  | [part] => part
  | parts => .concatenation parts.reverse

/-- The alternation of a list of branches, the last of them first. -/
def ofBranches : List Expression → Expression
  | [branch] => branch
  | branches => .alternation branches.reverse

/-- Whether there is something to repeat. -/
def isRepeatable : Expression → Bool
  | .flags _ => false
  | _ => true

mutual

def depth : Expression → Nat
  | .literal _ | .any | .edge | .wordEdge | .kind _ | .flags _ => 0
  | .set _ members => members.depth + 1
  | .repetition inner | .group _ _ inner => inner.depth + 1
  | .concatenation parts => if parts.isEmpty then 0 else deepest parts + 1
  | .alternation branches => deepest branches + 1

def deepest : List Expression → Nat
  | [] => 0
  | part :: parts => max part.depth (deepest parts)

end

mutual

def groupNames : Expression → List String
  | .literal _ | .any | .edge | .wordEdge | .kind _ | .set _ _ | .flags _ => []
  | .repetition inner => inner.groupNames
  | .group name _ inner => name.toList ++ inner.groupNames
  | .concatenation parts => allGroupNames parts
  | .alternation branches => allGroupNames branches

def allGroupNames : List Expression → List String
  | [] => []
  | part :: parts => part.groupNames ++ allGroupNames parts

end

mutual

/-- The modes behind an expression that begins in given modes, if it is supported in them. -/
def modesBehind? (modes : Modes) : Expression → Option Modes
  | .literal l => if l.isSupported modes then some modes else none
  | .any => if modes.isUnicode then some modes else none
  | .edge => some modes
  | .wordEdge => if modes.isUnicode then none else some modes
  | .kind negated => if modes.isUnicode || negated then none else some modes
  | .set negated members =>
    if (Members.nested negated members).isSupported modes then some modes else none
  | .repetition inner => inner.modesBehind? modes
  | .flags change => some (modes.under change)
  | .group _ change inner => (inner.modesBehind? (modes.under change)).map fun _ => modes
  | .concatenation parts => modesBehindAll? modes parts
  | .alternation branches => modesBehindAll? modes branches

def modesBehindAll? (modes : Modes) : List Expression → Option Modes
  | [] => some modes
  | part :: parts => (part.modesBehind? modes).bind fun modes => modesBehindAll? modes parts

end

def maxDepth : Nat := 250

def isAdmissible (e : Expression) : Bool :=
  e.depth ≤ maxDepth && decide e.groupNames.Nodup && (e.modesBehind? .standard).isSome

end Expression
end Foreign.Log.Pattern
