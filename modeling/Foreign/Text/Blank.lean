/-!
White space as Unicode lists it.
-/

namespace Foreign.Text

/-- First and last characters of the runs of white space. -/
def blankRuns : List (Char × Char) :=
  [('\x09', '\x0d'), (' ', ' '), ('\u0085', '\u0085'), ('\u00a0', '\u00a0'), ('\u1680', '\u1680'),
    ('\u2000', '\u200a'), ('\u2028', '\u2029'), ('\u202f', '\u202f'), ('\u205f', '\u205f'),
    ('\u3000', '\u3000')]

def isBlank (c : Char) : Bool :=
  blankRuns.any fun (first, last) => first ≤ c && c ≤ last

/-- The characters between the blanks at both ends. -/
def trimBlanks (text : String) : String :=
  let rest := text.toList.dropWhile isBlank
  String.ofList (rest.reverse.dropWhile isBlank).reverse

end Foreign.Text
