/-!
# Texts and bytes

The bytes of a text, and UTF-8 decoding that never fails. Where bytes stop being UTF-8, each longest
piece that could have begun a character is broken, and so is each byte that could not. A broken
piece is read as one replacement character.
-/

namespace LocaleRelay

/-- The bytes of a text. -/
def utf8 (text : String) : List UInt8 := text.toUTF8.data.toList

namespace Text

/-- The replacement character. -/
def replacement : Char := '\ufffd'

/-- A piece of bytes that are read as text: a character, or bytes that are none. -/
inductive Piece where
  | char (c : Char)
  | broken (bytes : List UInt8)
  deriving Repr, DecidableEq

/-- The character that a piece is read as. -/
def Piece.shown : Piece → Char
  | char c => c
  | broken _ => replacement

/-- Where a decoder stands between two bytes: between characters, or inside one. Then it knows the
bytes that are owed after the next one, the bits of those that it has seen, the least and the
greatest byte that may come next, and the bytes themselves. -/
inductive Pending where
  | none
  | tail (after : Nat) (bits : Nat) (low high : UInt8) (seen : List UInt8)
  deriving Repr, DecidableEq

/-- The pieces finished by a byte that comes between characters, and where it leaves the decoder. -/
def Pending.begin (b : UInt8) : List Piece × Pending :=
  if b ≤ 0x7f then ([.char (Char.ofNat b.toNat)], .none)
  else if 0xc2 ≤ b && b ≤ 0xdf then ([], .tail 0 (b.toNat % 32) 0x80 0xbf [b])
  else if 0xe0 ≤ b && b ≤ 0xef then
    ([], .tail 1 (b.toNat % 16) (if b = 0xe0 then 0xa0 else 0x80) (if b = 0xed then 0x9f else 0xbf)
      [b])
  else if 0xf0 ≤ b && b ≤ 0xf4 then
    ([], .tail 2 (b.toNat % 8) (if b = 0xf0 then 0x90 else 0x80) (if b = 0xf4 then 0x8f else 0xbf)
      [b])
  else ([.broken [b]], .none)

/-- The pieces finished by the next byte, last one first, and where it leaves the decoder. A byte
that cannot continue a character breaks it off and begins anew. -/
def Pending.step : Pending → UInt8 → List Piece × Pending
  | .none, b => begin b
  | .tail after bits low high seen, b =>
    if low ≤ b && b ≤ high then
      let bits := bits * 64 + b.toNat % 64
      match after with
      | 0 => ([.char (Char.ofNat bits)], .none)
      | after + 1 => ([], .tail after bits 0x80 0xbf (seen ++ [b]))
    else
      let (finished, pending) := begin b
      (finished ++ [.broken seen], pending)

/-- What the end of the bytes leaves behind: an unfinished character is broken off. -/
def Pending.finish : Pending → List Piece
  | .none => []
  | .tail _ _ _ _ seen => [.broken seen]

/-- How far some bytes are read: the pieces that are finished, last one first, and where the decoder
stands. -/
structure Decoder where
  finished : List Piece
  pending : Pending
  deriving Repr, DecidableEq

namespace Decoder

/-- Before the first byte. -/
def start : Decoder := ⟨[], .none⟩

/-- Read one byte. -/
def read (decoder : Decoder) (b : UInt8) : Decoder :=
  let (finished, pending) := decoder.pending.step b
  ⟨finished ++ decoder.finished, pending⟩

/-- The pieces at the end of the bytes. -/
def pieces (decoder : Decoder) : List Piece :=
  (decoder.pending.finish ++ decoder.finished).reverse

end Decoder

/-- The pieces that bytes are read as. -/
def pieces (bytes : List UInt8) : List Piece := (bytes.foldl Decoder.read .start).pieces

/-- The text that bytes stand for, with a replacement character for each piece that is not UTF-8. -/
def lossyText (bytes : List UInt8) : String := String.ofList ((pieces bytes).map Piece.shown)

/-- Whether bytes are UTF-8: they are the bytes of the text that is read from them. -/
def IsUtf8 (bytes : List UInt8) : Prop := utf8 (lossyText bytes) = bytes

instance (bytes : List UInt8) : Decidable (IsUtf8 bytes) :=
  inferInstanceAs (Decidable (utf8 (lossyText bytes) = bytes))

end Text

end LocaleRelay
