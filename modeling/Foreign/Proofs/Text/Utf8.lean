import Foreign.Text.Utf8

/-!
Texts are read back from their bytes. The bytes of a character are of one of four shapes, and in each of them they
are read as that character, whatever follows; so the bytes of a text are read as the text, character by character.
A zero byte stands for the zero character and for no other.
-/

namespace Foreign.Utf8

variable {v : Nat} {first a b c : UInt8} {rest bytes : List UInt8}

theorem toNat_ofNat {n : Nat} (lt : n < 256) : (UInt8.ofNat n).toNat = n :=
  UInt8.toNat_ofNat_of_lt' lt

theorem between_iff {low high byte : UInt8} :
    (decide (low ≤ byte) && decide (byte ≤ high)) = true ↔
      low.toNat ≤ byte.toNat ∧ byte.toNat ≤ high.toNat := by
  rw [Bool.and_eq_true, decide_eq_true_eq, decide_eq_true_eq, UInt8.le_iff_toNat_le, UInt8.le_iff_toNat_le]

/-- A byte behind the first of a character, with six bits of its number. -/
def tailByte (bits : Nat) : UInt8 :=
  .ofNat (bits % 64 + 128)

theorem toNat_tailByte (bits : Nat) : (tailByte bits).toNat = bits % 64 + 128 :=
  toNat_ofNat (by omega)

theorem isTail_iff {byte : UInt8} : isTail byte = true ↔ 128 ≤ byte.toNat ∧ byte.toNat ≤ 191 :=
  between_iff

theorem isTail_tailByte (bits : Nat) : isTail (tailByte bits) = true := by
  rw [isTail_iff, toNat_tailByte]
  omega

/-- How a number is spelled in bytes. The surrogates are not. -/
inductive Spelled : Nat → List UInt8 → Prop
  | one {v : Nat} (high : v < 0x80) : Spelled v [.ofNat v]
  | two {v : Nat} (low : 0x80 ≤ v) (high : v < 0x800) : Spelled v [.ofNat (v / 64 + 192), tailByte v]
  | three {v : Nat} (low : 0x800 ≤ v) (high : v < 0x10000) (scalar : v < 0xd800 ∨ 0xdfff < v) :
      Spelled v [.ofNat (v / 4096 + 224), tailByte (v / 64), tailByte v]
  | four {v : Nat} (low : 0x10000 ≤ v) (high : v < 0x110000) :
      Spelled v [.ofNat (v / 262144 + 240), tailByte (v / 4096), tailByte (v / 64), tailByte v]

theorem spelled_utf8EncodeChar (char : Char) : Spelled char.toNat (String.utf8EncodeChar char) := by
  have valid : char.toNat < 0xd800 ∨ 0xdfff < char.toNat ∧ char.toNat < 0x110000 := char.valid
  have two : char.toNat ≤ 2047 → char.toNat / 64 % 32 = char.toNat / 64 := by omega
  have three : char.toNat ≤ 65535 → char.toNat / 4096 % 16 = char.toNat / 4096 := by omega
  have four : char.toNat / 262144 % 8 = char.toNat / 262144 := by omega
  rw [String.utf8EncodeChar]
  change Spelled char.toNat (if char.toNat ≤ 127 then _ else if char.toNat ≤ 2047 then _ else
    if char.toNat ≤ 65535 then _ else _)
  split
  · exact .one (by omega)
  · split
    · rename_i high
      change Spelled _ [.ofNat (char.toNat / 64 % 32 + 192), _]
      rw [two high]
      exact .two (by omega) (by omega)
    · split
      · rename_i high
        change Spelled _ [.ofNat (char.toNat / 4096 % 16 + 224), _, _]
        rw [three high]
        exact .three (by omega) (by omega) (valid.imp_right And.left)
      · change Spelled _ [.ofNat (char.toNat / 262144 % 8 + 240), _, _, _]
        rw [four]
        exact .four (by omega) (by omega)

theorem length_eq (first : UInt8) :
    length first =
      if first.toNat < 128 then 1
      else if 194 ≤ first.toNat ∧ first.toNat ≤ 223 then 2
      else if 224 ≤ first.toNat ∧ first.toNat ≤ 239 then 3
      else if 240 ≤ first.toNat ∧ first.toNat ≤ 244 then 4
      else 0 := by
  simp only [length, Bool.and_eq_true, decide_eq_true_eq, UInt8.lt_iff_toNat_lt, UInt8.le_iff_toNat_le]
  rfl

theorem next_one (short : length first = 1) : next first rest = (Char.ofNat first.toNat, rest) := by
  simp only [next, short]

theorem next_two (two : length first = 2) (ha : isTail a = true) :
    next first (a :: rest) = (assemble (first.toNat % 32) [a], rest) := by
  simp only [next, two, ha, if_true]

theorem next_three (three : length first = 3) (ha : opensThree first a = true) (hb : isTail b = true) :
    next first (a :: b :: rest) = (assemble (first.toNat % 16) [a, b], rest) := by
  simp only [next, three, ha, hb, if_true]

theorem next_four (four : length first = 4) (ha : opensFour first a = true) (hb : isTail b = true)
    (hc : isTail c = true) :
    next first (a :: b :: c :: rest) = (assemble (first.toNat % 8) [a, b, c], rest) := by
  simp only [next, four, ha, hb, hc, if_true]

/-- A tail byte passes where two of the first bytes allow only a part of the tail bytes, if it is in that part. -/
theorem restricted_of_isTail (low least high most : UInt8) (tail : isTail b = true)
    (hleast : first.toNat = low.toNat → least.toNat ≤ b.toNat)
    (hmost : first.toNat = high.toNat → b.toNat ≤ most.toNat) :
    (if first == low then decide (least ≤ b) && decide (b ≤ 0xbf)
      else if first == high then decide (0x80 ≤ b) && decide (b ≤ most)
      else isTail b) = true := by
  have ⟨hlow, hhigh⟩ := isTail_iff.mp tail
  split
  · rename_i heq
    exact between_iff.mpr ⟨hleast (congrArg UInt8.toNat (beq_iff_eq.mp heq)), hhigh⟩
  · split
    · rename_i heq
      exact between_iff.mpr ⟨hlow, hmost (congrArg UInt8.toNat (beq_iff_eq.mp heq))⟩
    · exact tail

/-- The restrictions keep out what is spelled in two bytes, and the surrogates. -/
theorem opensThree_of_isTail (tail : isTail b = true) (least : first.toNat = 0xe0 → 0xa0 ≤ b.toNat)
    (most : first.toNat = 0xed → b.toNat ≤ 0x9f) : opensThree first b = true :=
  restricted_of_isTail 0xe0 0xa0 0xed 0x9f tail least most

/-- The restrictions keep out what is spelled in three bytes, and the numbers behind the last character. -/
theorem opensFour_of_isTail (tail : isTail b = true) (least : first.toNat = 0xf0 → 0x90 ≤ b.toNat)
    (most : first.toNat = 0xf4 → b.toNat ≤ 0x8f) : opensFour first b = true :=
  restricted_of_isTail 0xf0 0x90 0xf4 0x8f tail least most

theorem decodeChars_of_next {char : Char} {after : List UInt8} (h : next first rest = (char, after)) :
    decodeChars (first :: rest) = char :: decodeChars after := by
  rw [decodeChars, h]

/-- What spells a number is read as the character of that number. Each shape has its own first bytes, and the
payload bits make up the number again. -/
theorem decodeChars_of_spelled (spelled : Spelled v bytes) (rest : List UInt8) :
    decodeChars (bytes ++ rest) = Char.ofNat v :: decodeChars rest := by
  cases spelled with
  | one high =>
      have hfirst : (UInt8.ofNat v).toNat = v := toNat_ofNat (by omega)
      have one : length (.ofNat v) = 1 := by rw [length_eq, hfirst, if_pos high]
      exact decodeChars_of_next ((next_one one).trans (by rw [hfirst]; rfl))
  | two low high =>
      have hfirst : (UInt8.ofNat (v / 64 + 192)).toNat = v / 64 + 192 := toNat_ofNat (by omega)
      have two : length (.ofNat (v / 64 + 192)) = 2 := by
        rw [length_eq, hfirst, if_neg (by omega), if_pos (by omega)]
      have hchar : assemble ((UInt8.ofNat (v / 64 + 192)).toNat % 32) [tailByte v] = Char.ofNat v := by
        simp only [assemble, List.foldl_cons, List.foldl_nil, hfirst, toNat_tailByte]
        congr 1
        omega
      exact decodeChars_of_next ((next_two two (isTail_tailByte v)).trans (by rw [hchar]; rfl))
  | three low high scalar =>
      have hfirst : (UInt8.ofNat (v / 4096 + 224)).toNat = v / 4096 + 224 := toNat_ofNat (by omega)
      have three : length (.ofNat (v / 4096 + 224)) = 3 := by
        rw [length_eq, hfirst, if_neg (by omega), if_neg (by omega), if_pos (by omega)]
      have opens : opensThree (.ofNat (v / 4096 + 224)) (tailByte (v / 64)) = true := by
        -- the least number of three bytes and the surrogates show in the second byte
        apply opensThree_of_isTail (isTail_tailByte _)
        · rw [hfirst, toNat_tailByte]
          omega
        · rw [hfirst, toNat_tailByte]
          omega
      have hchar : assemble ((UInt8.ofNat (v / 4096 + 224)).toNat % 16) [tailByte (v / 64), tailByte v] =
          Char.ofNat v := by
        simp only [assemble, List.foldl_cons, List.foldl_nil, hfirst, toNat_tailByte]
        congr 1
        omega
      exact decodeChars_of_next ((next_three three opens (isTail_tailByte v)).trans (by rw [hchar]; rfl))
  | four low high =>
      have hfirst : (UInt8.ofNat (v / 262144 + 240)).toNat = v / 262144 + 240 := toNat_ofNat (by omega)
      have four : length (.ofNat (v / 262144 + 240)) = 4 := by
        rw [length_eq, hfirst, if_neg (by omega), if_neg (by omega), if_neg (by omega), if_pos (by omega)]
      have opens : opensFour (.ofNat (v / 262144 + 240)) (tailByte (v / 4096)) = true := by
        apply opensFour_of_isTail (isTail_tailByte _)
        · rw [hfirst, toNat_tailByte]
          omega
        · rw [hfirst, toNat_tailByte]
          omega
      have hchar : assemble ((UInt8.ofNat (v / 262144 + 240)).toNat % 8)
          [tailByte (v / 4096), tailByte (v / 64), tailByte v] = Char.ofNat v := by
        simp only [assemble, List.foldl_cons, List.foldl_nil, hfirst, toNat_tailByte]
        congr 1
        omega
      exact decodeChars_of_next
        ((next_four four opens (isTail_tailByte _) (isTail_tailByte v)).trans (by rw [hchar]; rfl))

theorem decodeChars_flatMap (chars : List Char) :
    decodeChars (chars.flatMap String.utf8EncodeChar) = chars := by
  induction chars with
  | nil => rw [List.flatMap_nil, decodeChars]
  | cons char chars ih =>
      rw [List.flatMap_cons, decodeChars_of_spelled (spelled_utf8EncodeChar char), ih, Char.ofNat_toNat]

/-- A text is read back from its bytes. -/
theorem decode_encode (text : String) : decode (encode text) = text := by
  rw [decode, encode, decodeChars_flatMap, String.ofList_toList]

theorem length_encode (text : String) : (encode text).length = text.utf8ByteSize := by
  rw [← String.size_toByteArray, ← String.utf8Encode_toList, List.utf8Encode, List.size_toByteArray, encode]

theorem pos_of_spelled (spelled : Spelled v bytes) (pos : 0 < v) : ∀ byte ∈ bytes, 0 < byte.toNat := by
  have hfirst : ∀ n < 256, 0 < n → 0 < (UInt8.ofNat n).toNat := fun n lt pos => by
    rwa [toNat_ofNat lt]
  have htail : ∀ bits, 0 < (tailByte bits).toNat := fun bits => by
    rw [toNat_tailByte]
    omega
  cases spelled with
  | one high => exact List.forall_mem_singleton.mpr (hfirst v (by omega) pos)
  | two low high =>
      simp only [List.forall_mem_cons, htail, true_and]
      exact ⟨hfirst _ (by omega) (by omega), nofun⟩
  | three low high scalar =>
      simp only [List.forall_mem_cons, htail, true_and]
      exact ⟨hfirst _ (by omega) (by omega), nofun⟩
  | four low high =>
      simp only [List.forall_mem_cons, htail, true_and]
      exact ⟨hfirst _ (by omega) (by omega), nofun⟩

theorem zero_not_mem_flatMap {chars : List Char} (nonzero : ∀ char ∈ chars, char ≠ '\x00') :
    0 ∉ chars.flatMap String.utf8EncodeChar := by
  intro mem
  obtain ⟨char, hchar, hbyte⟩ := List.mem_flatMap.mp mem
  have pos : 0 < char.toNat := by
    refine Nat.pos_of_ne_zero fun none => nonzero char hchar ?_
    rw [← Char.ofNat_toNat char, none]
  exact Nat.lt_irrefl 0 (pos_of_spelled (spelled_utf8EncodeChar char) pos 0 hbyte)

end Foreign.Utf8
