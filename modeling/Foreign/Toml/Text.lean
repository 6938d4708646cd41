import Foreign.Toml.Scan

/-!
The words of TOML: blanks, comments, line ends, the four forms of strings, and keys.
-/

namespace Foreign.Toml.Scan

def isBlank (c : Char) : Bool :=
  c == ' ' || c == '\t'

/-- A character that may stand in a comment. -/
def isPrintable (c : Char) : Bool :=
  c == '\t' || (' ' ≤ c && c ≤ '~') || '\x80' ≤ c

def blanks : Scan Unit := do
  let _ ← takeWhile isBlank

def newline : Scan Unit :=
  char '\n' <|> word "\r\n"

def comment : Scan Unit := do
  char '#'
  let _ ← takeWhile isPrintable

/-- Blanks, line ends and whole comments. -/
def gaps : Scan Unit := do
  let _ ← many ((do let _ ← takeWhile1 isBlank) <|> newline <|> (do comment; newline))

/-- The character with a code point written in so many hexadecimal digits. -/
def codePoint (digits : Nat) : Scan Char := do
  let hex ← (List.range digits).mapM fun _ => satisfy fun c =>
    c.isDigit || ('a' ≤ c && c ≤ 'f') || ('A' ≤ c && c ≤ 'F')
  let value := hex.foldl (fun n c =>
    n * 16 + (if c.isDigit then c.toNat - 48 else c.toLower.toNat - 87)) 0
  if UInt32.isValidChar (UInt32.ofNat value) && value < UInt32.size then return Char.ofNat value
  else fail

/-- What stands behind a backslash. -/
def escaped : Scan Char := do
  match ← satisfy fun _ => true with
  | 'b' => return '\x08'
  | 't' => return '\t'
  | 'n' => return '\n'
  | 'f' => return '\x0c'
  | 'r' => return '\r'
  | '"' => return '"'
  | '\\' => return '\\'
  | 'u' => codePoint 4
  | 'U' => codePoint 8
  | _ => fail

def basicString : Scan String := do
  char '"'
  let pieces ← many <|
    takeWhile1 (fun c => isPrintable c && c != '"' && c != '\\') <|>
    (do char '\\'; return [← escaped])
  char '"'
  return String.ofList pieces.flatten

def literalString : Scan String := do
  char '\''
  let chars ← takeWhile fun c => isPrintable c && c != '\''
  char '\''
  return String.ofList chars

/-- One or two quotation marks that do not end a text of several lines. -/
def looseQuotes (quote : Char) : Scan (List Char) := do
  let quotes ← takeWhile1 (· == quote)
  if quotes.length < 3 then return quotes else fail

/-- The marks that end a text of several lines; up to two more belong to the text. -/
def closingQuotes (quote : Char) : Scan (List Char) := do
  let quotes ← takeWhile1 (· == quote)
  if 3 ≤ quotes.length && quotes.length ≤ 5 then return quotes.drop 3 else fail

/-- A backslash at the end of a line takes the line end with it and all blanks and line ends after. -/
def continuation : Scan (List Char) := do
  char '\\'
  blanks
  newline
  let _ ← many ((do let _ ← takeWhile1 isBlank) <|> newline)
  return []

def longBasicString : Scan String := do
  word "\"\"\""
  let _ ← optional newline
  let pieces ← many <|
    takeWhile1 (fun c => isPrintable c && c != '"' && c != '\\') <|>
    (do newline; return ['\n']) <|>
    continuation <|>
    (do char '\\'; return [← escaped]) <|>
    looseQuotes '"'
  let more ← closingQuotes '"'
  return String.ofList (pieces.flatten ++ more)

def longLiteralString : Scan String := do
  word "'''"
  let _ ← optional newline
  let pieces ← many <|
    takeWhile1 (fun c => isPrintable c && c != '\'') <|>
    (do newline; return ['\n']) <|>
    looseQuotes '\''
  let more ← closingQuotes '\''
  return String.ofList (pieces.flatten ++ more)

def anyString : Scan String :=
  longBasicString <|> longLiteralString <|> basicString <|> literalString

def isBare (c : Char) : Bool :=
  c.isAlphanum || c == '_' || c == '-'

def simpleKey : Scan String :=
  basicString <|> literalString <|> (String.ofList <$> takeWhile1 isBare)

/-- Keys and nested values are refused from this depth on. -/
def depthLimit : Nat := 80

/-- A key, dotted or not, as its parts before the last and the last. -/
def key : Scan (List String × String) := do
  let part : Scan String := do
    blanks
    let part ← simpleKey
    blanks
    return part
  let first ← part
  let rest ← many (do char '.'; part)
  if depthLimit ≤ rest.length + 1 then fail
  else
    let parts := first :: rest
    return (parts.dropLast, parts.getLast?.getD first)

end Foreign.Toml.Scan
