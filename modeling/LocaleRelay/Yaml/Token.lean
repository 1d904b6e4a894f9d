import LocaleRelay.Yaml.Glyph

/-!
# Tokens

The words of YAML: marks of structure, properties of nodes, and scalars. Blocks are opened and
closed by tokens of their own, which stand where the indentation changes.
-/

namespace LocaleRelay.Yaml

/-- The text of a tag or of a part of one, in bytes: an escape in a tag may write bytes that are not
the encoding of a character. -/
abbrev TagText := List UInt8

/-- A text of ASCII characters as the text of a tag. -/
def TagText.ofAscii (text : String) : TagText := text.toList.map fun c => UInt8.ofNat c.toNat

/-- Whether a tag is one of the document's own: it begins with an exclamation mark. -/
def TagText.isLocal (tag : TagText) : Bool := tag.head? == some 0x21

/-- How a scalar is written. -/
inductive Style where
  | plain
  | singleQuoted
  | doubleQuoted
  | literal
  | folded
  deriving Repr, DecidableEq

/-- A word of YAML. A tag without a handle is all suffix. -/
inductive Token where
  | streamEnd
  | version (major minor : Nat)
  | tagHandle (handle : String) (stands : TagText)
  | documentStart
  | documentEnd
  | blockSequenceStart
  | blockMappingStart
  | blockEnd
  | flowSequenceStart
  | flowSequenceEnd
  | flowMappingStart
  | flowMappingEnd
  | blockEntry
  | flowEntry
  | key
  | value
  | alias (name : String)
  | anchor (name : String)
  | tag (handle : String) (suffix : TagText)
  | scalar (style : Style) (text : String)
  deriving Repr, DecidableEq

/-- A token with the marks where it begins and ends. -/
structure Lexeme where
  token : Token
  start : Mark
  stop : Mark
  deriving Repr, DecidableEq

end LocaleRelay.Yaml
