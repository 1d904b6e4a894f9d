import LocaleRelay.Text.Lossy

/-!
# Reading back the bytes of a text

The bytes of a text are read as the characters of the text, with no broken piece among them. So
bytes are UTF-8 exactly if they are those of some text, and then reading them loses nothing.
-/

namespace LocaleRelay

/-- The bytes of two texts in a row. -/
theorem utf8_append (first second : String) :
    utf8 (first ++ second) = utf8 first ++ utf8 second := by
  simp [utf8]

/-- The bytes of a text are those of its characters. -/
theorem utf8_eq_flatMap (text : String) :
    utf8 text = text.toList.flatMap String.utf8EncodeChar := by
  have hbytes : text.toUTF8 = text.toList.utf8Encode := by
    rw [← String.toByteArray_ofList, String.ofList_toList]
    rfl
  rw [utf8, hbytes, List.utf8Encode, List.data_toByteArray]

namespace Text

/-! ### Bytes by their numbers -/

private theorem toNat_ofNat {n : Nat} (h : n < 256) : (UInt8.ofNat n).toNat = n := by
  rw [UInt8.toNat_ofNat']
  omega

private theorem le_ofNat_iff {low : UInt8} {n : Nat} (h : n < 256) :
    low ≤ UInt8.ofNat n ↔ low.toNat ≤ n := by
  rw [UInt8.le_iff_toNat_le, toNat_ofNat h]

private theorem ofNat_le_iff {high : UInt8} {n : Nat} (h : n < 256) :
    UInt8.ofNat n ≤ high ↔ n ≤ high.toNat := by
  rw [UInt8.le_iff_toNat_le, toNat_ofNat h]

private theorem ofNat_eq_iff {b : UInt8} {n : Nat} (h : n < 256) :
    UInt8.ofNat n = b ↔ n = b.toNat := by
  rw [← UInt8.toNat_inj, toNat_ofNat h]

namespace Pending

private theorem begin_ofNat {n : Nat} (h : n < 256) :
    begin (UInt8.ofNat n) =
      if n ≤ 127 then ([.char (Char.ofNat n)], .none)
      else if 194 ≤ n ∧ n ≤ 223 then ([], .tail 0 (n % 32) 0x80 0xbf [UInt8.ofNat n])
      else if 224 ≤ n ∧ n ≤ 239 then
        ([], .tail 1 (n % 16) (if n = 224 then 0xa0 else 0x80) (if n = 237 then 0x9f else 0xbf)
          [UInt8.ofNat n])
      else if 240 ≤ n ∧ n ≤ 244 then
        ([], .tail 2 (n % 8) (if n = 240 then 0x90 else 0x80) (if n = 244 then 0x8f else 0xbf)
          [UInt8.ofNat n])
      else ([.broken [UInt8.ofNat n]], .none) := by
  have hnumbers : (127 : UInt8).toNat = 127 ∧ (194 : UInt8).toNat = 194 ∧
      (223 : UInt8).toNat = 223 ∧ (224 : UInt8).toNat = 224 ∧
      (239 : UInt8).toNat = 239 ∧ (240 : UInt8).toNat = 240 ∧
      (244 : UInt8).toNat = 244 ∧ (237 : UInt8).toNat = 237 := by decide
  simp only [begin, Bool.and_eq_true, decide_eq_true_eq, ofNat_le_iff h, le_ofNat_iff h,
    ofNat_eq_iff h, toNat_ofNat h, hnumbers]

end Pending

namespace Decoder

variable {finished : List Piece} {after bits n : Nat} {low high : UInt8} {seen : List UInt8}

private theorem read_inner (hl : low.toNat ≤ n) (hh : n ≤ high.toNat) :
    read ⟨finished, .tail (after + 1) bits low high seen⟩ (UInt8.ofNat n) =
      ⟨finished, .tail after (bits * 64 + n % 64) 0x80 0xbf (seen ++ [UInt8.ofNat n])⟩ := by
  have h : n < 256 := Nat.lt_of_le_of_lt hh high.toNat_lt
  simp [read, Pending.step, (le_ofNat_iff h).mpr hl, (ofNat_le_iff h).mpr hh, Nat.mod_eq_of_lt h]

private theorem read_last (hl : low.toNat ≤ n) (hh : n ≤ high.toNat) :
    read ⟨finished, .tail 0 bits low high seen⟩ (UInt8.ofNat n) =
      ⟨.char (Char.ofNat (bits * 64 + n % 64)) :: finished, .none⟩ := by
  have h : n < 256 := Nat.lt_of_le_of_lt hh high.toNat_lt
  simp [read, Pending.step, (le_ofNat_iff h).mpr hl, (ofNat_le_iff h).mpr hh, Nat.mod_eq_of_lt h]

/-- Reading the bytes of a character finishes the character. -/
theorem foldl_utf8EncodeChar (finished : List Piece) (c : Char) :
    (String.utf8EncodeChar c).foldl read ⟨finished, .none⟩ = ⟨.char c :: finished, .none⟩ := by
  have hc : c.val.toNat = c.toNat := rfl
  have hvalid : c.toNat < 0xd800 ∨ 0xdfff < c.toNat ∧ c.toNat < 0x110000 := c.valid
  have hchar : ∀ {n}, n = c.toNat → Char.ofNat n = c := by
    rintro _ rfl
    exact Char.ofNat_toNat c
  have hstart : ∀ b,
      read ⟨finished, .none⟩ b = ⟨(Pending.begin b).1 ++ finished, (Pending.begin b).2⟩ :=
    fun _ => rfl
  rw [String.utf8EncodeChar, hc]
  split
  · next h =>
    rw [List.foldl_cons, List.foldl_nil, hstart, Pending.begin_ofNat (by omega), if_pos h,
      hchar rfl]
    rfl
  split
  · next h =>
    rw [List.foldl_cons, List.foldl_cons, List.foldl_nil, hstart, Pending.begin_ofNat (by omega),
      if_neg (by omega), if_pos (by omega), List.nil_append,
      read_last (by simp) (by simp; omega), hchar (by omega)]
  split
  · next h =>
    rw [List.foldl_cons, List.foldl_cons, List.foldl_cons, List.foldl_nil, hstart,
      Pending.begin_ofNat (by omega), if_neg (by omega), if_neg (by omega), if_pos (by omega),
      List.nil_append, read_inner, read_last (by simp) (by simp; omega), hchar (by omega)]
    · split <;> simp; omega
    · split <;> simp <;> omega
  · next h =>
    rw [List.foldl_cons, List.foldl_cons, List.foldl_cons, List.foldl_cons, List.foldl_nil, hstart,
      Pending.begin_ofNat (by omega), if_neg (by omega), if_neg (by omega), if_neg (by omega),
      if_pos (by omega), List.nil_append, read_inner, read_inner (by simp) (by simp; omega),
      read_last (by simp) (by simp; omega), hchar (by omega)]
    · split <;> simp; omega
    · split <;> simp <;> omega

end Decoder

private theorem foldl_flatMap_utf8EncodeChar (finished : List Piece) (cs : List Char) :
    (cs.flatMap String.utf8EncodeChar).foldl Decoder.read ⟨finished, .none⟩ =
      ⟨(cs.map Piece.char).reverse ++ finished, .none⟩ := by
  -- the pieces so far are left as they are: each character is put before them
  induction cs generalizing finished with
  | nil => rfl
  | cons c cs ih =>
    rw [List.flatMap_cons, List.foldl_append, Decoder.foldl_utf8EncodeChar, ih, List.map_cons,
      List.reverse_cons, List.append_assoc]
    rfl

private theorem foldl_read_finished (finished : List Piece) (pending : Pending)
    (bytes : List UInt8) :
    (bytes.foldl Decoder.read ⟨finished, pending⟩).pieces =
      finished.reverse ++ (bytes.foldl Decoder.read ⟨[], pending⟩).pieces := by
  induction bytes generalizing finished pending with
  | nil => simp [Decoder.pieces]
  | cons byte bytes ih =>
    rw [List.foldl_cons, List.foldl_cons, Decoder.read, Decoder.read, ih, ih (_ ++ [])]
    simp

/-- Bytes after those of a text are read as if they stood alone, after the characters of the
text. -/
theorem pieces_utf8_append (text : String) (bytes : List UInt8) :
    pieces (utf8 text ++ bytes) = text.toList.map Piece.char ++ pieces bytes := by
  rw [pieces, List.foldl_append, utf8_eq_flatMap, Decoder.start, foldl_flatMap_utf8EncodeChar,
    foldl_read_finished]
  simp [pieces, Decoder.start]

/-- The bytes of a text are read as its characters. -/
theorem pieces_utf8 (text : String) : pieces (utf8 text) = text.toList.map Piece.char := by
  have happ := pieces_utf8_append text []
  rwa [List.append_nil, show pieces [] = [] from rfl, List.append_nil] at happ

/-- The bytes of a text begin with those of another exactly if the text begins with the other. -/
theorem utf8_prefix_iff {text front : String} :
    utf8 front <+: utf8 text ↔ front.toList <+: text.toList := by
  constructor
  · rintro ⟨rest, h⟩
    have hpieces := congrArg pieces h
    rw [pieces_utf8_append, pieces_utf8] at hpieces
    have hinj : Function.Injective Piece.char := fun _ _ => Piece.char.inj
    exact (List.prefix_map_iff_of_injective hinj).mp ⟨pieces rest, hpieces⟩
  · rintro ⟨rest, h⟩
    rw [utf8_eq_flatMap, utf8_eq_flatMap, ← h, List.flatMap_append]
    exact List.prefix_append _ _

/-- The text that is read from the bytes of a text is that text. -/
theorem lossyText_utf8 (text : String) : lossyText (utf8 text) = text := by
  have hshown : Piece.shown ∘ Piece.char = id := rfl
  rw [lossyText, pieces_utf8, List.map_map, hshown, List.map_id, String.ofList_toList]

/-- Bytes are UTF-8 exactly if they are those of a text. -/
theorem isUtf8_iff {bytes : List UInt8} : IsUtf8 bytes ↔ ∃ text, utf8 text = bytes := by
  constructor
  · exact fun h => ⟨_, h⟩
  · rintro ⟨text, rfl⟩
    rw [IsUtf8, lossyText_utf8]

/-- The bytes of a text are UTF-8. -/
theorem isUtf8_utf8 (text : String) : IsUtf8 (utf8 text) := isUtf8_iff.mpr ⟨text, rfl⟩

/-- UTF-8 goes on as UTF-8. -/
theorem IsUtf8.append {first second : List UInt8} (hf : IsUtf8 first) (hs : IsUtf8 second) :
    IsUtf8 (first ++ second) := by
  obtain ⟨text, rfl⟩ := isUtf8_iff.mp hf
  obtain ⟨rest, rfl⟩ := isUtf8_iff.mp hs
  rw [← utf8_append]
  exact isUtf8_utf8 _

/-- Texts with the same bytes are the same. -/
theorem utf8_inj {text other : String} : utf8 text = utf8 other ↔ text = other := by
  constructor
  · intro h
    rw [← lossyText_utf8 text, h, lossyText_utf8]
  · rintro rfl
    rfl

/-! ### Reading past a byte below 128 -/

/-- A decoder inside a character waits for a byte of at least 128. -/
private def Pending.WaitsHigh : Pending → Prop
  | .none => True
  | .tail _ _ low _ _ => 128 ≤ low.toNat

private theorem Pending.waitsHigh_begin (byte : UInt8) : (begin byte).2.WaitsHigh := by
  unfold begin
  split
  · trivial
  split
  · show 128 ≤ (0x80 : UInt8).toNat
    decide
  split
  · show 128 ≤ (if byte = 0xe0 then 0xa0 else 0x80 : UInt8).toNat
    split <;> decide
  split
  · show 128 ≤ (if byte = 0xf0 then 0x90 else 0x80 : UInt8).toNat
    split <;> decide
  · trivial

private theorem Pending.WaitsHigh.step {pending : Pending} (h : pending.WaitsHigh) (byte : UInt8) :
    (pending.step byte).2.WaitsHigh := by
  cases pending with
  | none => exact waitsHigh_begin byte
  | tail after bits low high seen =>
    rw [Pending.step]
    split
    · cases after with
      | zero => trivial
      | succ after =>
        show 128 ≤ (0x80 : UInt8).toNat
        decide
    · exact waitsHigh_begin byte

private theorem utf8EncodeChar_of_mem {c : Char} {byte : UInt8} (hb : byte.toNat < 128)
    (h : byte ∈ String.utf8EncodeChar c) : String.utf8EncodeChar c = [byte] := by
  rw [String.utf8EncodeChar] at h ⊢
  split at h
  · next hc => rw [if_pos hc, List.mem_singleton.mp h]
  -- of several bytes each is at least 128
  · split at h
    · simp only [List.mem_cons, List.not_mem_nil, or_false, ← UInt8.toNat_inj,
        UInt8.toNat_ofNat'] at h
      omega
    · split at h <;>
      · simp only [List.mem_cons, List.not_mem_nil, or_false, ← UInt8.toNat_inj,
          UInt8.toNat_ofNat'] at h
        omega

private theorem exists_divided {cs : List Char} {front rest : List UInt8} {byte : UInt8}
    (hb : byte.toNat < 128) (h : cs.flatMap String.utf8EncodeChar = front ++ byte :: rest) :
    ∃ before after : List Char, front = before.flatMap String.utf8EncodeChar ∧
      rest = after.flatMap String.utf8EncodeChar := by
  induction cs generalizing front with
  | nil => simp at h
  | cons c cs ih =>
    rw [List.flatMap_cons] at h
    rcases List.append_eq_append_iff.mp h with ⟨more, rfl, hmore⟩ | ⟨more, hc, hrest⟩
    · obtain ⟨before, after, hbefore, hafter⟩ := ih hmore
      exact ⟨c :: before, after, by rw [List.flatMap_cons, hbefore], hafter⟩
    · cases more with
      | nil =>
        have hbegun : cs.flatMap String.utf8EncodeChar = [] ++ byte :: rest := hrest.symm
        obtain ⟨-, after, -, hafter⟩ := ih hbegun
        exact ⟨[c], after, by simpa using hc.symm, hafter⟩
      | cons first more =>
        obtain ⟨rfl, rfl⟩ := List.cons.inj hrest
        rw [utf8EncodeChar_of_mem hb (by simp [hc])] at hc
        cases front with
        | nil =>
          obtain ⟨-, rfl⟩ := by simpa using hc
          exact ⟨[], cs, rfl, rfl⟩
        | cons other front => simp at hc

private theorem isUtf8_iff_exists_chars {bytes : List UInt8} :
    IsUtf8 bytes ↔ ∃ cs : List Char, bytes = cs.flatMap String.utf8EncodeChar := by
  rw [isUtf8_iff]
  constructor
  · rintro ⟨text, rfl⟩
    exact ⟨_, utf8_eq_flatMap text⟩
  · rintro ⟨cs, rfl⟩
    exact ⟨String.ofList cs, by rw [utf8_eq_flatMap, String.toList_ofList]⟩

/-- Bytes with one below 128 among them are UTF-8 exactly if those on both sides of it are. -/
theorem isUtf8_append_cons_iff {front rest : List UInt8} {byte : UInt8} (hb : byte.toNat < 128) :
    IsUtf8 (front ++ byte :: rest) ↔ IsUtf8 front ∧ IsUtf8 rest := by
  simp only [isUtf8_iff_exists_chars]
  constructor
  · rintro ⟨cs, hcs⟩
    obtain ⟨before, after, hbefore, hafter⟩ := exists_divided hb hcs.symm
    exact ⟨⟨before, hbefore⟩, ⟨after, hafter⟩⟩
  · rintro ⟨⟨before, rfl⟩, ⟨after, rfl⟩⟩
    refine ⟨before ++ Char.ofNat byte.toNat :: after, ?_⟩
    have hvalid : byte.toNat.isValidChar := .inl (by omega)
    have hbyte : String.utf8EncodeChar (Char.ofNat byte.toNat) = [byte] := by
      have hnumber : (Char.ofNat byte.toNat).val.toNat = byte.toNat := by
        rw [Char.ofNat, dif_pos hvalid]
        rfl
      rw [String.utf8EncodeChar, hnumber, if_pos (by omega), UInt8.ofNat_toNat]
    rw [List.flatMap_append, List.flatMap_cons, hbyte]
    rfl

end Text

end LocaleRelay
