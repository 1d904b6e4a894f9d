/-!
# Glyphs

A text as a reader of YAML meets it: characters, each with its position, where every line break is
one glyph and a last glyph marks the end. Carriage returns, alone or before a line feed, and next
line characters are read as line feeds; the line and paragraph separators stay what they are. A text
is taken in piece by piece, so one that holds a character that may not stand in a text can still be
read up to the piece with that character.
-/

namespace LocaleRelay.Yaml

/-- A position in a text: bytes before it, lines before it, characters before it in its line. -/
structure Mark where
  index : Nat
  line : Nat
  column : Nat
  deriving Repr, DecidableEq

namespace Mark

/-- The beginning of a text. -/
def start : Mark := ⟨0, 0, 0⟩

/-- The position after a character. -/
def next (mark : Mark) (c : Char) : Mark := ⟨mark.index + c.utf8Size, mark.line, mark.column + 1⟩

/-- The beginning of the next line, after a break of so many bytes. -/
def nextLine (mark : Mark) (size : Nat) : Mark := ⟨mark.index + size, mark.line + 1, 0⟩

end Mark

/-- A character with its position; NUL stands for the end of the text. -/
structure Glyph where
  char : Char
  mark : Mark
  deriving Repr, DecidableEq

/-- The next line character. -/
def nextLineChar : Char := '\u0085'

/-- The line separator. -/
def lineSeparator : Char := '\u2028'

/-- The paragraph separator. -/
def paragraphSeparator : Char := '\u2029'

/-- The byte order mark. -/
def byteOrderMark : Char := '\ufeff'

/-- Whether a character may stand in a text at all. -/
def isReadable (c : Char) : Bool :=
  let code := c.toNat
  code == 0x09 || code == 0x0a || code == 0x0d || (0x20 ≤ code && code ≤ 0x7e) || code == 0x85 ||
    (0xa0 ≤ code && code ≤ 0xd7ff) || (0xe000 ≤ code && code ≤ 0xfffd) ||
    (0x10000 ≤ code && code ≤ 0x10ffff)

/-- A text is read in pieces of so many bytes. -/
def pieceSize : Nat := 16384

/-- The characters of a text that can be read, and whether they are all of it: a piece with a
character that may not stand in a text cannot be read at all. `room` is what the piece still holds,
`safe` are the characters before the piece and `before` all those met so far, both last one
first. -/
def readable (room : Nat) (safe before : List Char) : List Char → List Char × Bool
  | [] => (before.reverse, true)
  | c :: rest =>
    let fits := c.utf8Size ≤ room
    let safe := if fits then safe else before
    if isReadable c then
      readable ((if fits then room else pieceSize) - c.utf8Size) safe (c :: before) rest
    else (safe.reverse, false)

/-- The glyphs of characters from a position on, after some others, last one first. The end is a
glyph too, where it can be read. -/
def glyphsOnto (whole : Bool) (before : List Glyph) (mark : Mark) : List Char → List Glyph
  | [] => (if whole then ⟨'\x00', mark⟩ :: before else before).reverse
  | '\r' :: '\n' :: rest => glyphsOnto whole (⟨'\n', mark⟩ :: before) (mark.nextLine 2) rest
  | c :: rest =>
    if c == '\n' || c == '\r' || c == nextLineChar then
      glyphsOnto whole (⟨'\n', mark⟩ :: before) (mark.nextLine c.utf8Size) rest
    else if c == lineSeparator || c == paragraphSeparator then
      glyphsOnto whole (⟨c, mark⟩ :: before) (mark.nextLine c.utf8Size) rest
    else glyphsOnto whole (⟨c, mark⟩ :: before) (mark.next c) rest

/-- The glyphs of a text, as far as it can be read. -/
def glyphs (text : String) : List Glyph :=
  let (chars, whole) := readable pieceSize [] [] text.toList
  glyphsOnto whole [] .start chars

/-- Whether a character is a line break, once breaks are single glyphs. -/
def isBreak (c : Char) : Bool := c == '\n' || c == lineSeparator || c == paragraphSeparator

/-- Whether a character is the end of the text. -/
def isEnd (c : Char) : Bool := c == '\x00'

/-- Whether a character is a space or a tab. -/
def isSpace (c : Char) : Bool := c == ' ' || c == '\t'

/-- Whether a line ends at a character. -/
def endsLine (c : Char) : Bool := isBreak c || isEnd c

/-- Whether a word ends at a character. -/
def endsWord (c : Char) : Bool := isSpace c || endsLine c

/-- Whether a character may stand in the name of an anchor, a handle or a directive. -/
def isNameChar (c : Char) : Bool := c.isAlphanum || c == '_' || c == '-'

/-- Glyphs that are still to be read. Where they stop without the end of the text, what follows
cannot be read. -/
abbrev Glyphs := List Glyph

namespace Glyphs

/-- What stands for a character that cannot be read: one that may not stand in a text and is neither
the end of it nor the end of a word. -/
def unread : Char := '\x01'

/-- The next character. -/
def peek : Glyphs → Char
  | [] => unread
  | g :: _ => g.char

/-- Whether so many characters can be read, or those up to the end of the text. -/
def canRead : Nat → Glyphs → Bool
  | 0, _ => true
  | _ + 1, [] => false
  | n + 1, g :: rest => isEnd g.char || canRead n rest

/-- The position of the next character. -/
def mark : Glyphs → Mark
  | [] => .start
  | g :: _ => g.mark

/-- The glyphs after the next one. -/
def skip (gs : Glyphs) : Glyphs := gs.drop 1

/-- The character after so many others. -/
def peekAt (n : Nat) (gs : Glyphs) : Char := peek (gs.drop n)

/-- The glyphs after spaces and tabs. -/
def skipSpaces (gs : Glyphs) : Glyphs := gs.dropWhile fun g => isSpace g.char

/-- The glyphs from the end of the line on. -/
def skipLine (gs : Glyphs) : Glyphs := gs.dropWhile fun g => !endsLine g.char

/-- The glyphs after a comment that begins here, if one does. -/
def skipComment (gs : Glyphs) : Glyphs := if peek gs == '#' then skipLine gs else gs

/-- The characters as far as a property holds, and the glyphs after them. -/
def takeChars (p : Char → Bool) (gs : Glyphs) : List Char × Glyphs :=
  ((gs.takeWhile fun g => p g.char).map (·.char), gs.dropWhile fun g => p g.char)

/-- Whether three equal characters and the end of a word come next. -/
def atTriple (c : Char) (gs : Glyphs) : Bool :=
  peekAt 0 gs == c && peekAt 1 gs == c && peekAt 2 gs == c && endsWord (peekAt 3 gs)

/-- Whether a line begins here that begins or ends a document. -/
def atDocumentLine (gs : Glyphs) : Bool :=
  (mark gs).column == 0 && (atTriple '-' gs || atTriple '.' gs)

end Glyphs

end LocaleRelay.Yaml
