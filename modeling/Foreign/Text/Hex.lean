/-!
Hexadecimal text: numbers with a fixed count of digits, and bytes as pairs of digits. Main statement:
reading bytes back gives the bytes.
-/

namespace Foreign.Hex

def digit (n : Nat) : Char :=
  Nat.digitChar n

def value? (c : Char) : Option Nat :=
  if '0' ≤ c && c ≤ '9' then some (c.toNat - 48)
  else if 'a' ≤ c && c ≤ 'f' then some (c.toNat - 87)
  else if 'A' ≤ c && c ≤ 'F' then some (c.toNat - 55)
  else none

/-- The last `count` digits of `n`, the most significant first. -/
def digits : Nat → Nat → List Char
  | 0, _ => []
  | count + 1, n => digits count (n / 16) ++ [digit (n % 16)]

def encodeNat (count n : Nat) : String :=
  String.ofList (digits count n)

/-- The number that the digits stand for. -/
def decodeNat? (text : String) : Option Nat :=
  text.toList.foldlM (fun n c => (value? c).map (16 * n + ·)) 0

def ofByte (byte : UInt8) : List Char :=
  [digit (byte.toNat / 16), digit (byte.toNat % 16)]

def decodeChars? : List Char → Option (List UInt8)
  | [] => some []
  | [_] => none
  | high :: low :: rest => do
    let byte := UInt8.ofNat (16 * (← value? high) + (← value? low))
    return byte :: (← decodeChars? rest)

def encode (bytes : List UInt8) : String :=
  String.ofList (bytes.flatMap ofByte)

def decode? (text : String) : Option (List UInt8) :=
  decodeChars? text.toList

theorem value?_digit : ∀ n < 16, value? (digit n) = some n := by
  decide

theorem decode?_encode (bytes : List UInt8) : decode? (encode bytes) = some bytes := by
  rw [decode?, encode, String.toList_ofList]
  induction bytes with
  | nil => rfl
  | cons byte rest ih =>
    have h := byte.toNat_lt
    have hbyte : UInt8.ofNat (16 * (byte.toNat / 16) + byte.toNat % 16) = byte := by
      rw [Nat.div_add_mod, UInt8.ofNat_toNat]
    have hhigh := value?_digit _ (show byte.toNat / 16 < 16 by omega)
    have hlow := value?_digit _ (show byte.toNat % 16 < 16 by omega)
    simp only [List.flatMap_cons, ofByte, List.cons_append, List.nil_append, decodeChars?, hhigh, hlow,
      Option.bind_eq_bind, Option.bind_some, hbyte, ih]
    rfl

end Foreign.Hex
