import Foreign.Log.Pattern.Text

/-!
Patterns for the values of fields: numbers, and regular expressions. Since filters are only asked about
events without fields, all that matters is whether a text is such a pattern; a filter with one that is not
is no filter.
-/

namespace Foreign.Log.Pattern

/-- Whether a text is a number in decimal, perhaps with a fraction or an exponent. -/
def isDecimal (cs : List Char) : Bool :=
  let whole := cs.takeWhile (·.isDigit)
  let (fraction, rest) :=
    match cs.dropWhile (·.isDigit) with
    | '.' :: rest => (rest.takeWhile (·.isDigit), rest.dropWhile (·.isDigit))
    | rest => ([], rest)
  let exponent :=
    match rest with
    | [] => true
    | e :: rest =>
      let digits := if rest.head?.any fun c => c == '+' || c == '-' then rest.tail else rest
      e.toLower == 'e' && !digits.isEmpty && digits.all (·.isDigit)
  !(whole ++ fraction).isEmpty && exponent

/-- Whether a text is a number with a plus sign. Numbers without one are regular expressions as well. -/
def isPositive (text : String) : Bool :=
  match text.toList with
  | '+' :: rest =>
    isDecimal rest || ["inf", "infinity", "nan"].contains (String.ofList rest).toLower
  | _ => false

def isWellFormed (text : String) : Bool :=
  isPositive text || (Expression.ofText? text).any (·.isAdmissible)

end Foreign.Log.Pattern
