import Foreign.Toml.Number

/-!
TOML documents from their text: a line at a time, each empty, a header, or a key with its value.
-/

namespace Foreign.Toml

namespace Scan

def array (value : Scan Node) : Scan Node := do
  char '['
  gaps
  let item : Scan Node := do
    let node ← value
    gaps
    return node
  let items ← match ← optional item with
    | none => pure []
    | some first => do
      let rest ← many (do char ','; gaps; item)
      let _ ← optional (do char ','; gaps)
      pure (first :: rest)
  char ']'
  return .array items

def assignment (value : Scan Node) : Scan (List String × String × Node) := do
  let (path, last) ← key
  char '='
  blanks
  let node ← value
  blanks
  return (path, last, node)

def inlineTable (value : Scan Node) : Scan Node := do
  char '\x7b'
  blanks
  let assignments ← match ← optional (assignment value) with
    | none => pure []
    | some first => do
      let rest ← many (do char ','; assignment value)
      pure (first :: rest)
  char '\x7d'
  check (Node.inline? assignments)

/-- A value whose arrays and tables nest at most `depth` deep. -/
def value : Nat → Scan Node
  | 0 => leaf
  | depth + 1 => array (value depth) <|> inlineTable (value depth) <|> leaf

def header : Scan Line :=
  (do
    word "[["
    let (path, last) ← key
    word "]]"
    return .element path last) <|>
  (do
    char '['
    let (path, last) ← key
    char ']'
    return .table path last)

/-- The content of a line, if it has any, and the comment at its end. -/
def lineContent : Scan (Option Line) := do
  blanks
  let line ← optional (header <|> (do
    let (path, last, node) ← assignment (value (depthLimit - 1))
    return .assignment path last node))
  blanks
  let _ ← optional comment
  return line

def lines : Scan (List Line) := do
  let _ ← optional (char '\ufeff')
  let complete ← many (do
    let line ← lineContent
    newline
    return line)
  let last ← lineContent
  finish
  return (complete ++ [last]).filterMap id

end Scan

/-- The tree of a document, if the text is one. -/
def Node.ofText? (text : String) : Option Node := do
  let (lines, _) ← Scan.lines.run text.toList
  Node.ofLines? lines

end Foreign.Toml
