import LocaleRelay.Yaml.Scalar

/-!
# Names, tags and directives

The words that begin with a sign of their own: anchors and references to them, tags, and the
directives before a document. All of them have to end where a word may end.
-/

namespace LocaleRelay.Yaml

/-- Read the name of an anchor or of a reference after its sign. -/
def readName (gs : Glyphs) : Option (String × Glyphs) :=
  let (name, rest) := gs.takeChars isNameChar
  let c := rest.peek
  let ends := endsWord c || c == '?' || c == ':' || c == ',' || c == ']' || c == '\x7d' ||
    c == '%' || c == '@' || c == '\u0060'
  if name.isEmpty || !ends then none else some (String.ofList name, rest)

/-- Whether a character may stand in a tag; the brackets and the comma only in one that is written
out in full. -/
def isTagChar (full : Bool) (c : Char) : Bool :=
  isNameChar c || c == ';' || c == '/' || c == '?' || c == ':' || c == '@' || c == '&' ||
    c == '=' || c == '+' || c == '$' || c == '.' || c == '%' || c == '!' || c == '~' || c == '*' ||
    c == '\'' || c == '(' || c == ')' || (full && (c == ',' || c == '[' || c == ']'))

/-- The number of bytes that follow one at the beginning of an escaped character, unless none can
begin with it. -/
def followers? (b : UInt8) : Option Nat :=
  if b < 0x80 then some 0
  else if b < 0xc0 then none
  else if b < 0xe0 then some 1
  else if b < 0xf0 then some 2
  else if b < 0xf8 then some 3
  else none

/-- The number of escaped bytes that are owed after one, when so many are owed with it. -/
def owedAfter? (owed : Nat) (b : UInt8) : Option Nat :=
  match owed with
  | 0 => followers? b
  | owed + 1 => if 0x80 ≤ b && b < 0xc0 then some owed else none

/-- The bytes of tag characters, after some others, last one first: a percent sign and two digits
are one byte. The bytes of an escaped character have to be escaped all of them, `owed` more of which
have to follow. -/
def tagBytes? (before : TagText) (owed : Nat) : List Char → Option TagText
  | [] => if owed = 0 then some before.reverse else none
  | '%' :: high :: low :: rest =>
    match hexDigit? high, hexDigit? low with
    | some high, some low =>
      let b := UInt8.ofNat (high * 16 + low)
      match owedAfter? owed b with
      | some owed => tagBytes? (b :: before) owed rest
      | none => none
    | _, _ => none
  | '%' :: _ => none
  | c :: rest => if owed = 0 then tagBytes? (UInt8.ofNat c.toNat :: before) 0 rest else none

/-- A tag or a part of one ends before its first NUL. -/
def cutTag (text : TagText) : TagText := text.takeWhile (· ≠ 0)

/-- Read tag characters into their text; the last part says whether there are any. -/
def readTagText (full : Bool) (gs : Glyphs) : Option (TagText × Bool × Glyphs) := do
  let (chars, rest) := gs.takeChars (isTagChar full)
  return (cutTag (← tagBytes? [] 0 chars), !chars.isEmpty, rest)

/-- Read a handle: an exclamation mark, a name and, if it is there, the mark that closes it. -/
def readHandle (gs : Glyphs) : Option (String × Bool × Glyphs) :=
  if gs.peek != '!' then none
  else
    let (name, rest) := gs.skip.takeChars isNameChar
    if rest.peek == '!' then some (String.ofList ('!' :: name ++ ['!']), true, rest.skip)
    else some (String.ofList ('!' :: name), false, rest)

/-- Read a tag that is written out in full. -/
def readFullTag (gs : Glyphs) : Option (Token × Glyphs) := do
  let (text, present, rest) ← readTagText true (gs.drop 2)
  if !present || rest.peek != '>' then none
  return (.tag "" text, rest.skip)

/-- Read a tag with a handle. A lone exclamation mark is a tag of its own. -/
def readShortTag (gs : Glyphs) : Option (Token × Glyphs) := do
  let (handle, closed, rest) ← readHandle gs
  let (text, present, rest) ← readTagText false rest
  if closed then
    if !present then none
    return (.tag handle text, rest)
  else
    let suffix := (TagText.ofAscii handle).drop 1 ++ text
    return (if suffix.isEmpty then .tag "" (.ofAscii "!") else .tag "!" suffix, rest)

/-- Read a tag. A comma may follow it inside brackets. -/
def readTag (flow : Bool) (gs : Glyphs) : Option (Token × Glyphs) := do
  let (token, rest) ← if gs.peekAt 1 == '<' then readFullTag gs else readShortTag gs
  if endsWord rest.peek || (flow && rest.peek == ',') then return (token, rest) else none

/-- The number that decimal digits write. -/
def decimal (digits : List Char) : Nat :=
  digits.foldl (fun value c => value * 10 + (c.toNat - '0'.toNat)) 0

/-- Read a number of at most nine digits. -/
def readNumber (gs : Glyphs) : Option (Nat × Glyphs) :=
  let (digits, rest) := gs.takeChars Char.isDigit
  if digits.isEmpty || digits.length > 9 then none else some (decimal digits, rest)

/-- Read the version that a directive gives. -/
def readVersion (gs : Glyphs) : Option (Token × Glyphs) := do
  let (major, rest) ← readNumber gs.skipSpaces
  if rest.peek != '.' then none
  let (minor, rest) ← readNumber rest.skip
  return (.version major minor, rest)

/-- Read the handle that a directive gives and what it stands for. -/
def readTagHandle (gs : Glyphs) : Option (Token × Glyphs) := do
  let (handle, closed, rest) ← readHandle gs.skipSpaces
  if !closed && handle != "!" then none
  if !isSpace rest.peek then none
  let (stands, present, rest) ← readTagText true rest.skipSpaces
  if !present || !endsWord rest.peek then none
  return (.tagHandle handle stands, rest)

/-- Read a directive after its percent sign, with the end of its line. -/
def readDirective (gs : Glyphs) : Option (Token × Mark × Glyphs) := do
  let (name, rest) := gs.takeChars isNameChar
  if name.isEmpty || !endsWord rest.peek then none
  let (token, rest) ←
    if name == ['Y', 'A', 'M', 'L'] then readVersion rest
    else if name == ['T', 'A', 'G'] then readTagHandle rest
    else none
  let stop := rest.mark
  let rest := rest.skipSpaces.skipComment
  if !endsLine rest.peek then none
  return (token, stop, if isBreak rest.peek then rest.skip else rest)

end LocaleRelay.Yaml
