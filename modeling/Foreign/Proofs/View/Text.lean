import Foreign.Proofs.Text.Utf8
import Foreign.Proofs.View.Extent
import Foreign.View.Text

/-!
Zero-terminated text. Reading stops at the first zero byte, and in a buffer it looks for that from the view to the
end of the buffer and no further. A text that was put into a buffer has its own bytes there and one zero byte behind
them, so it is read back up to its first zero character.
-/

namespace Foreign

namespace Memory

theorem not_mem_read_iff {memory : Memory} {address : Word} {size : Nat} {byte : UInt8} :
    byte ∉ memory.read address size ↔ ∀ n < size, memory.byte (address + UInt64.ofNat n) ≠ byte := by
  simp [read]

/-- A range is a shorter one, the byte behind that, and the rest. -/
theorem read_split (memory : Memory) (address : Word) {size n : Nat} (lt : n < size) :
    ∃ rest, memory.read address size =
      memory.read address n ++ memory.byte (address + UInt64.ofNat n) :: rest := by
  obtain ⟨k, rfl⟩ := Nat.exists_eq_add_of_lt lt
  rw [read, Nat.add_assoc, List.range_add, List.map_append, Nat.add_comm k 1, List.range_add]
  exact ⟨_, rfl⟩

end Memory

namespace Store

theorem nextAddress_pos (store : Store) : 0 < store.nextAddress := by
  rw [nextAddress]
  cases store.blocks with
  | nil => decide
  | cons block _ =>
      dsimp only
      rw [spacing, blockAlign]
      omega

end Store

namespace View

variable {extent : Buffer} {view : View} {store : Store} {element : CType}
  {before bytes rest : List UInt8} {text : String}

theorem untilZero_append_zero (nonzero : 0 ∉ before) : untilZero (before ++ 0 :: rest) = some before := by
  induction before with
  | nil => rfl
  | cons byte before ih =>
      obtain ⟨hbyte, hbefore⟩ := not_or.mp (mt List.mem_cons.mpr nonzero)
      rw [List.cons_append, untilZero, if_neg (Ne.symm hbyte), ih hbefore]
      rfl

theorem untilZero_eq_none_iff : untilZero bytes = none ↔ 0 ∉ bytes := by
  constructor
  · intro missed mem
    obtain ⟨before, rest, rfl, first⟩ := List.eq_append_cons_of_mem mem
    rw [untilZero_append_zero first] at missed
    cases missed
  · intro nonzero
    induction bytes with
    | nil => rfl
    | cons byte bytes ih =>
        obtain ⟨hbyte, hrest⟩ := not_or.mp (mt List.mem_cons.mpr nonzero)
        rw [untilZero, if_neg (Ne.symm hbyte), ih hrest]
        rfl

/-- The part of a text in front of its first zero character; the whole text, if it has none. -/
def beforeZero (text : String) : String :=
  .ofList (text.toList.takeWhile (· ≠ '\x00'))

theorem exists_split_of_chars (chars : List Char) :
    ∃ rest, chars.flatMap String.utf8EncodeChar ++ [0] =
      (chars.takeWhile (· ≠ '\x00')).flatMap String.utf8EncodeChar ++ 0 :: rest := by
  induction chars with
  | nil => exact ⟨[], rfl⟩
  | cons char chars ih =>
      by_cases zero : char = '\x00'
      · rw [zero, List.takeWhile_cons_of_neg (by decide)]
        exact ⟨_, rfl⟩
      · obtain ⟨rest, split⟩ := ih
        refine ⟨rest, ?_⟩
        rw [List.takeWhile_cons_of_pos (by simpa using zero), List.flatMap_cons, List.flatMap_cons,
          List.append_assoc, List.append_assoc, split]

/-- In a text and the zero byte behind it the first zero byte is that of the first zero character. -/
theorem untilZero_encode (text : String) :
    untilZero (Utf8.encode text ++ [0]) = some (Utf8.encode (beforeZero text)) := by
  obtain ⟨rest, split⟩ := exists_split_of_chars text.toList
  have nonzero : 0 ∉ (text.toList.takeWhile (· ≠ '\x00')).flatMap String.utf8EncodeChar := by
    refine Utf8.zero_not_mem_flatMap fun char hchar => ?_
    simpa using List.all_eq_true.mp List.all_takeWhile char hchar
  rw [Utf8.encode, Utf8.encode, beforeZero, String.toList_ofList, split, untilZero_append_zero nonzero]

/-- How text is read at a view of a buffer. -/
structure ReadsText (extent : Buffer) (view : View) (store : Store) : Prop where
  absent : extent.Holds view.address.toNat 1 →
    (view.readText store = .ok none ↔
      ∀ n, view.address.toNat + n < extent.finish → store.memory.byte (view.address + UInt64.ofNat n) ≠ 0)
  present : extent.Holds view.address.toNat 1 → ∀ n, view.address.toNat + n < extent.finish →
    store.memory.byte (view.address + UInt64.ofNat n) = 0 →
    (∀ m < n, store.memory.byte (view.address + UInt64.ofNat m) ≠ 0) →
    view.readText store = .ok (some (Utf8.decode (store.memory.read view.address n)))
  outside : ¬ extent.Holds view.address.toNat 1 →
    view.readText store = .error (.fault (.outsideBuffer view.address 1 extent))

theorem readsText_of_backed (backed : view.backing = .buffer extent) (ends : extent.Ends)
    (nonnull : view.address ≠ 0) (store : Store) : view.ReadsText extent store := by
  have inside := (textInside_of_backed backed ends).inside nonnull store
  have hcount : ∀ n, view.address.toNat + n < extent.finish ↔
      n < extent.start.toNat + extent.size.toNat - view.address.toNat := by
    intro n
    rw [Buffer.finish]
    omega
  refine ⟨fun holds => ?_, fun holds n lt zero first => ?_,
    (textInside_of_backed backed ends).outside nonnull store⟩
  · have hnone : view.readText store = .ok none ↔ untilZero (store.memory.read view.address
        (extent.start.toNat + extent.size.toNat - view.address.toNat)) = none := by
      rw [inside holds, Except.ok.injEq, Option.map_eq_none_iff]
    simp only [hnone, untilZero_eq_none_iff, Memory.not_mem_read_iff, hcount]
  · -- what is behind the first zero byte in the buffer is read, and does not matter
    obtain ⟨rest, split⟩ := store.memory.read_split view.address ((hcount n).mp lt)
    rw [inside holds, split, zero, untilZero_append_zero (Memory.not_mem_read_iff.mpr first)]
    rfl

/-- Bytes that there is room for are put into a new buffer of their own, which is not at the null address. -/
theorem ofBytes_of_room (element : CType) (room : store.nextAddress + bytes.length ≤ Store.addressLimit) :
    ∃ extent view after, ofBytes store bytes element = .ok (view, after) ∧
      view.backing = .buffer extent ∧ extent.Ends ∧ view.address = extent.start ∧ view.address ≠ 0 ∧
      extent.size.toNat = bytes.length ∧ after.memory.read view.address bytes.length = bytes := by
  have hlimit : Store.addressLimit < 2 ^ 64 := by decide
  have hsize : (UInt64.ofNat bytes.length).toNat = bytes.length := Word.toNat_ofNat_of_lt (by omega)
  obtain ⟨extent, after, allocated⟩ :
      ∃ extent after, store.allocate (UInt64.ofNat bytes.length) = some (extent, after) :=
    ⟨_, _, Store.allocate_eq_some_iff.mpr ⟨hsize.symm ▸ room, rfl, rfl⟩⟩
  obtain ⟨hstart, hextent, -⟩ := Store.start_of_allocate allocated
  refine ⟨extent, ofBuffer extent element, { after with memory := after.memory.write extent.start bytes }, ?_, rfl,
    Store.ends_of_allocate allocated, rfl, ?_, hextent ▸ hsize, ?_⟩
  · rw [ofBytes, buffer_eq_ok_iff.mpr ⟨extent, allocated, rfl⟩]
    rfl
  · intro null
    have hzero : extent.start.toNat = 0 := congrArg UInt64.toNat null
    exact Nat.ne_of_gt store.nextAddress_pos (hstart.symm.trans hzero)
  · exact Memory.read_write after.memory extent.start bytes (by change _ ≤ 2 ^ 64; omega)

theorem ofBytes_of_full (element : CType) (word : bytes.length < 2 ^ 64)
    (full : Store.addressLimit < store.nextAddress + bytes.length) :
    ofBytes store bytes element = .error (.outOfMemory (UInt64.ofNat bytes.length)) := by
  have refused : store.allocate (UInt64.ofNat bytes.length) = none := by
    rw [Store.allocate, Store.nextStart?, if_neg (by rw [Word.toNat_ofNat_of_lt word]; omega)]
    rfl
  rw [ofBytes, View.buffer, fresh, refused]
  rfl

theorem length_terminated (text : String) : (Utf8.encode text ++ [0]).length = text.utf8ByteSize + 1 := by
  rw [List.length_append, Utf8.length_encode]
  rfl

/-- The view of a text has the text's bytes and one more, and the text is read there up to its first zero
character. -/
theorem ofText_of_room (room : store.nextAddress + (text.utf8ByteSize + 1) ≤ Store.addressLimit) :
    ∃ view after, ofText store text = .ok (view, after) ∧
      view.extent? = some (UInt64.ofNat (text.utf8ByteSize + 1)) ∧
      view.readText after = .ok (some (beforeZero text)) := by
  have hlength := length_terminated text
  obtain ⟨extent, view, after, hmade, backed, ends, hstart, nonnull, hsize, hread⟩ :=
    ofBytes_of_room (.int .w8 true) (hlength.symm ▸ room)
  have hcount : extent.start.toNat + extent.size.toNat - view.address.toNat =
      (Utf8.encode text ++ [0]).length := by
    rw [hstart, hsize, Nat.add_sub_cancel_left]
  refine ⟨view, after, hmade, ?_, ?_⟩
  · obtain ⟨count, hextent, hroom⟩ := exists_extent? backed ends
    have hlimit : Store.addressLimit < 2 ^ 64 := by decide
    rw [hextent, Option.some.injEq, ← UInt64.toNat_inj, hroom, hcount, hlength, Word.toNat_ofNat_of_lt (by omega)]
  · have holds : extent.Holds view.address.toNat 1 := by
      rw [Buffer.Holds, hstart, hsize, hlength]
      omega
    rw [(textInside_of_backed backed ends).inside nonnull after holds, hcount, hread, untilZero_encode,
      Option.map_some, Utf8.decode_encode]

/-- Text comes back from where it was put. A text that there is room for is read up to its first zero character, from
a view with the extent of its bytes and one more; a text that there is no room for is refused. At any view of a buffer,
whatever is in it, the bytes in front of the first zero byte are decoded; there is nothing to read if no zero byte comes
before the end of the buffer, and an address outside the buffer is a fault. There is nothing to read at a null view.
Decoding leaves what is the encoding of a text as that text. The one thing asked of a buffer, that it ends before the
address space does, holds of every buffer that a view is created with. -/
theorem text_read_back (store : Store) :
    (∀ text : String,
      (store.nextAddress + (text.utf8ByteSize + 1) ≤ Store.addressLimit → ∃ view after,
        ofText store text = .ok (view, after) ∧
        view.extent? = some (UInt64.ofNat (text.utf8ByteSize + 1)) ∧
        view.readText after = .ok (some (beforeZero text))) ∧
      (text.utf8ByteSize + 1 < 2 ^ 64 →
        Store.addressLimit < store.nextAddress + (text.utf8ByteSize + 1) →
        ofText store text = .error (.outOfMemory (UInt64.ofNat (text.utf8ByteSize + 1))))) ∧
    (∀ (extent : Buffer) (view : View), view.backing = .buffer extent → extent.Ends → view.address ≠ 0 →
      view.ReadsText extent store) ∧
    (∀ view : View, view.address = 0 → view.readText store = .ok none) ∧
    ∀ text, Utf8.decode (Utf8.encode text) = text := by
  refine ⟨fun text => ⟨ofText_of_room, fun word full => ?_⟩, ?_, ?_, Utf8.decode_encode⟩
  · rw [← length_terminated] at word full ⊢
    exact ofBytes_of_full _ word full
  · intro extent view backed ends nonnull
    exact readsText_of_backed backed ends nonnull store
  · intro view null
    rw [readText, isNull, null]
    rfl

/-- A zero-terminated text, and a byte behind it that is not zero. -/
def sampleText : Store :=
  ⟨Memory.zeros.write 4096 [104, 105, 0, 7], []⟩

/-- Only two bytes are left in front of the last address. -/
def sampleFull : Store :=
  ⟨.zeros, [⟨⟨UInt64.ofNat Store.firstAddress, UInt64.ofNat (Store.addressLimit - Store.firstAddress - 2)⟩, true⟩]⟩

/-- A text with a zero character in it, and a character of two bytes in front of that, where there is room for it
and where there is none; and a buffer that is read from its beginning, from behind its zero byte and from behind
its end. -/
theorem text_read_back_sample :
    (∃ view after, ofText .empty "hé\x00i" = .ok (view, after) ∧ view.extent? = some 6 ∧
      view.readText after = .ok (some "hé")) ∧
    ofText sampleFull "hé\x00i" = .error (.outOfMemory 6) ∧
    (ofBuffer ⟨4096, 4⟩ (.int .w8 true)).readText sampleText = .ok (some "hi") ∧
    ((ofBuffer ⟨4096, 4⟩ (.int .w8 true)).offset 3).readText sampleText = .ok none ∧
    ((ofBuffer ⟨4096, 4⟩ (.int .w8 true)).offset 4).readText sampleText =
      .error (.fault (.outsideBuffer 4100 1 ⟨4096, 4⟩)) ∧
    (null .void).readText sampleText = .ok none ∧
    Utf8.decode (Utf8.encode "hé") = "hé" := by
  obtain ⟨made, -, -, decoded⟩ := text_read_back .empty
  obtain ⟨full, -, -, -⟩ := text_read_back sampleFull
  obtain ⟨-, buffers, missing, -⟩ := text_read_back sampleText
  have ends : Buffer.Ends ⟨4096, 4⟩ := by decide
  refine ⟨?_, (full "hé\x00i").2 (by decide) (by decide), ?_, ?_, ?_, missing _ rfl, decoded "hé"⟩
  · obtain ⟨view, after, made, hextent, hread⟩ := (made "hé\x00i").1 (by decide)
    have part : beforeZero "hé\x00i" = "hé" := by rfl
    exact ⟨view, after, made, hextent, part ▸ hread⟩
  · have reads := buffers _ (ofBuffer ⟨4096, 4⟩ (.int .w8 true)) rfl ends (by decide)
    have text : sampleText.memory.read 4096 2 = Utf8.encode "hi" := by decide
    rw [← Utf8.decode_encode "hi", ← text]
    exact reads.present (by decide) 2 (by decide) (by decide) (by decide)
  · have reads := buffers _ ((ofBuffer ⟨4096, 4⟩ (.int .w8 true)).offset 3) rfl ends (by decide)
    refine (reads.absent (by decide)).mpr fun n lt => ?_
    have address : ((ofBuffer ⟨4096, 4⟩ (.int .w8 true)).offset 3).address.toNat = 4099 := by decide
    have finish : Buffer.finish ⟨4096, 4⟩ = 4100 := by decide
    obtain rfl : n = 0 := by omega
    decide
  · exact (buffers _ ((ofBuffer ⟨4096, 4⟩ (.int .w8 true)).offset 4) rfl ends (by decide)).outside (by decide)

end View
end Foreign
