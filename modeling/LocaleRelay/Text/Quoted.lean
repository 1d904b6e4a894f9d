import LocaleRelay.Text.Lossy
import LocaleRelay.Text.Printable

/-!
# Quoted text

A text between double quotes, so that it fits on one line of a log and shows where it begins and
ends. A quote, a backslash and the usual control characters are escaped by name, every other
character without a form of its own by its code point. Of a path that is not text, the bytes that
are no character are escaped by their numbers.
-/

namespace LocaleRelay.Text

/-- The lower-case hexadecimal digits of a number, without leading zeros. -/
def hexDigits (n : Nat) : List Char := Nat.toDigits 16 n

/-- How one character is written between quotes. -/
def quoteChar (c : Char) : List Char :=
  if c == '\x00' then ['\\', '0']
  else if c == '\t' then ['\\', 't']
  else if c == '\r' then ['\\', 'r']
  else if c == '\n' then ['\\', 'n']
  else if c == '"' then ['\\', '"']
  else if c == '\\' then ['\\', '\\']
  else if isExtender c || !isPrintable c then
    ['\\', 'u', '\x7b'] ++ hexDigits c.toNat ++ ['\x7d']
  else [c]

/-- The characters of a text between double quotes. -/
def quoteChars (cs : List Char) : List Char := '"' :: cs.flatMap quoteChar ++ ['"']

/-- A text between double quotes. -/
def quote (s : String) : String := String.ofList (quoteChars s.toList)

/-- How a byte that is no character is written between quotes. -/
def quoteByte (b : UInt8) : List Char :=
  ['\\', 'x', (Nat.digitChar (b.toNat / 16)).toUpper, (Nat.digitChar (b.toNat % 16)).toUpper]

/-- How a piece of a path is written between quotes. -/
def Piece.quoted : Piece → List Char
  | char c => quoteChar c
  | broken bytes => bytes.flatMap quoteByte

/-- A path between double quotes. -/
def quotePath (path : List UInt8) : String :=
  String.ofList ('"' :: (pieces path).flatMap Piece.quoted ++ ['"'])

/-- Texts in quotes, in brackets and divided by commas. -/
def quoteList (texts : List String) : String :=
  "[" ++ ", ".intercalate (texts.map quote) ++ "]"

end LocaleRelay.Text
