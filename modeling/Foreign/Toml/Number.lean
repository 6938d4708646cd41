import Foreign.Toml.Text
import Foreign.Toml.Node

/-!
Numbers, dates and times of TOML. Integers have 64 bits. Of floating-point numbers and of dates only the
form matters here, and that they are in range: a number that rounds to positive infinity is not.
-/

namespace Foreign.Toml

namespace Scan

/-- Digits with single underscores between them, without the underscores. -/
def digitRun (isDigit : Char → Bool) : Scan (List Char) := do
  let first ← satisfy isDigit
  let rest ← many (satisfy isDigit <|> (do char '_'; satisfy isDigit))
  return first :: rest

def sign : Scan Bool := do
  match ← optional (satisfy fun c => c == '+' || c == '-') with
  | some '-' => return true
  | _ => return false

/-- Decimal digits without a leading zero. -/
def decimalDigits : Scan (List Char) := do
  if (← peek) = some '0' then
    char '0'
    return ['0']
  else digitRun Char.isDigit

def digitValue (c : Char) : Nat :=
  if c.isDigit then c.toNat - 48 else c.toLower.toNat - 87

def valueOf (base : Nat) (digits : List Char) : Nat :=
  digits.foldl (fun n c => n * base + digitValue c) 0

/-- The number, if it has 64 bits. -/
def bounded (n : Int) : Scan Node :=
  if -0x8000000000000000 ≤ n && n < 0x8000000000000000 then return .integer n else fail

def radixInteger (letter : Char) (base : Nat) (isDigit : Char → Bool) : Scan Node := do
  char '0'
  char letter
  let digits ← digitRun isDigit
  bounded (valueOf base digits)

def isHex (c : Char) : Bool :=
  c.isDigit || ('a' ≤ c && c ≤ 'f') || ('A' ≤ c && c ≤ 'F')

def integer : Scan Node :=
  radixInteger 'x' 16 isHex <|>
  radixInteger 'o' 8 (fun c => '0' ≤ c && c ≤ '7') <|>
  radixInteger 'b' 2 (fun c => c == '0' || c == '1') <|>
  (do
    let negative ← sign
    let n := valueOf 10 (← decimalDigits)
    bounded (if negative then -n else n))

/-- Whether `mantissa` times ten to the `exponent` rounds to an infinite double, which it does from half
a unit above the largest finite one on. -/
def roundsToInfinity (mantissa : Nat) (exponent : Int) : Bool :=
  let digits := (Nat.toDigits 10 mantissa).length
  let threshold := Nat.pow 2 1024 - Nat.pow 2 970
  if mantissa = 0 || digits + exponent < 300 then false
  else if digits + exponent > 400 then true
  else if 0 ≤ exponent then threshold ≤ mantissa * Nat.pow 10 exponent.toNat
  else threshold * Nat.pow 10 (-exponent).toNat ≤ mantissa

def exponentPart : Scan Int := do
  let _ ← satisfy fun c => c == 'e' || c == 'E'
  let negative ← sign
  let n := valueOf 10 (← digitRun Char.isDigit)
  return if negative then -n else n

/-- A decimal number with a fraction or an exponent. One that is too large for a double is refused, but
one that is too far below zero is not. -/
def plainFloat : Scan Node := do
  let negative ← sign
  let whole ← decimalDigits
  let fraction ← optional (do char '.'; digitRun Char.isDigit)
  let exponent ← optional exponentPart
  if fraction.isNone && exponent.isNone then fail
  else
    let fraction := fraction.getD []
    let mantissa := valueOf 10 (whole ++ fraction)
    if !negative && roundsToInfinity mantissa (exponent.getD 0 - fraction.length) then fail
    else return .float

def specialFloat : Scan Node := do
  let _ ← sign
  word "inf" <|> word "nan"
  return .float

/-- A number of exactly so many digits between two bounds. -/
def fixedDigits (count low high : Nat) : Scan Nat := do
  let digits ← (List.range count).mapM fun _ => satisfy Char.isDigit
  let n := valueOf 10 digits
  if low ≤ n && n ≤ high then return n else fail

def daysIn (year month : Nat) : Nat :=
  if month == 2 then
    if year % 4 == 0 && (year % 100 != 0 || year % 400 == 0) then 29 else 28
  else if month == 4 || month == 6 || month == 9 || month == 11 then 30
  else 31

def date : Scan Unit := do
  let year ← fixedDigits 4 0 9999
  char '-'
  let month ← fixedDigits 2 1 12
  char '-'
  let _ ← fixedDigits 2 1 (daysIn year month)

def time : Scan Unit := do
  let _ ← fixedDigits 2 0 23
  char ':'
  let _ ← fixedDigits 2 0 59
  char ':'
  let _ ← fixedDigits 2 0 60
  let _ ← optional (do char '.'; let _ ← takeWhile1 Char.isDigit)

def timeOffset : Scan Unit :=
  (do let _ ← satisfy fun c => c == 'Z' || c == 'z') <|>
  (do
    let _ ← satisfy fun c => c == '+' || c == '-'
    let _ ← fixedDigits 2 0 23
    char ':'
    let _ ← fixedDigits 2 0 59)

def dateTime : Scan Node := do
  let full : Scan Unit := do
    date
    let _ ← optional (do
      let _ ← satisfy fun c => c == 'T' || c == 't' || c == ' '
      time
      let _ ← optional timeOffset)
  full <|> time
  return .dateTime

def boolean : Scan Node :=
  (do word "true"; return .boolean true) <|> (do word "false"; return .boolean false)

/-- A value without parts. -/
def leaf : Scan Node :=
  (.string <$> anyString) <|> boolean <|> dateTime <|> plainFloat <|> specialFloat <|> integer

end Scan
end Foreign.Toml
