/-!
UTF-8 text as bytes. Encoding is total. Decoding is too: where the bytes are not UTF-8, each longest
piece that some character could have begun with is read as one replacement character.
-/

namespace Foreign.Utf8

def encode (text : String) : List UInt8 :=
  text.toList.flatMap String.utf8EncodeChar

/-- The character that stands for what is not UTF-8. -/
def replacement : Char := '\ufffd'

/-- Whether the byte continues a character. -/
def isTail (byte : UInt8) : Bool :=
  0x80 ≤ byte && byte ≤ 0xbf

/-- Whether `second` may follow `first`, the first of three bytes. -/
def opensThree (first second : UInt8) : Bool :=
  if first == 0xe0 then 0xa0 ≤ second && second ≤ 0xbf
  else if first == 0xed then 0x80 ≤ second && second ≤ 0x9f
  else isTail second

/-- Whether `second` may follow `first`, the first of four bytes. -/
def opensFour (first second : UInt8) : Bool :=
  if first == 0xf0 then 0x90 ≤ second && second ≤ 0xbf
  else if first == 0xf4 then 0x80 ≤ second && second ≤ 0x8f
  else isTail second

/-- Length of the character that a byte begins; zero if it begins none. -/
def length (first : UInt8) : Nat :=
  if first < 0x80 then 1
  else if 0xc2 ≤ first && first ≤ 0xdf then 2
  else if 0xe0 ≤ first && first ≤ 0xef then 3
  else if 0xf0 ≤ first && first ≤ 0xf4 then 4
  else 0

/-- The character with the given payload bits, those of each tail byte being its lowest six. -/
def assemble (lead : Nat) (tails : List UInt8) : Char :=
  Char.ofNat (tails.foldl (fun n byte => n * 64 + byte.toNat % 64) lead)

/-- The first character of a nonempty text, and what follows it. -/
def next (first : UInt8) (rest : List UInt8) : Char × List UInt8 :=
  match length first, rest with
  | 1, _ => (Char.ofNat first.toNat, rest)
  | 2, a :: rest' =>
    if isTail a then (assemble (first.toNat % 32) [a], rest') else (replacement, rest)
  | 3, a :: rest' =>
    if opensThree first a then
      match rest' with
      | b :: rest'' =>
        if isTail b then (assemble (first.toNat % 16) [a, b], rest'') else (replacement, rest')
      | [] => (replacement, [])
    else (replacement, rest)
  | 4, a :: rest' =>
    if opensFour first a then
      match rest' with
      | b :: rest'' =>
        if isTail b then
          match rest'' with
          | c :: rest''' =>
            if isTail c then (assemble (first.toNat % 8) [a, b, c], rest''')
            else (replacement, rest'')
          | [] => (replacement, [])
        else (replacement, rest')
      | [] => (replacement, [])
    else (replacement, rest)
  | _, _ => (replacement, rest)

theorem length_next_le (first : UInt8) (rest : List UInt8) :
    (next first rest).2.length ≤ rest.length := by
  unfold next
  repeat' split
  all_goals simp_all <;> omega

def decodeChars : List UInt8 → List Char
  | [] => []
  | first :: rest => (next first rest).1 :: decodeChars (next first rest).2
termination_by bytes => bytes.length
decreasing_by
  have := length_next_le first rest
  simp only [List.length_cons]
  omega

def decode (bytes : List UInt8) : String :=
  String.ofList (decodeChars bytes)

/-- Whether the bytes are the encoding of some text. -/
def isValid (bytes : List UInt8) : Bool :=
  encode (decode bytes) == bytes

end Foreign.Utf8
