import LocaleRelay.Yaml.Token

/-!
# Scalars

The text of a scalar and where it ends, for each way of writing one. What lies between two words is
a gap: blanks within a line stay, the blanks around a line break go, and a single break becomes a
space unless empty lines follow it.
-/

namespace LocaleRelay.Yaml

/-- What was read since the last word of a scalar: nothing, blanks, or a line break, if it counts,
and the breaks after it. Blanks and breaks stand last one first. -/
inductive Gap where
  | none
  | blanks (chars : List Char)
  | broken (first : Option Char) (more : List Char)
  deriving Repr, DecidableEq

namespace Gap

/-- Whether a gap has a line break. -/
def isBroken : Gap → Bool
  | broken _ _ => true
  | _ => false

/-- A gap continued by a blank. -/
def addSpace (c : Char) : Gap → Gap
  | none => blanks [c]
  | blanks chars => blanks (c :: chars)
  | broken first more => broken first more

/-- A gap continued by a line break. -/
def addBreak (c : Char) : Gap → Gap
  | none | blanks _ => broken (some c) []
  | broken first more => broken first (c :: more)

/-- What a gap puts in front of the next word, last character first, before some characters. -/
def fill (acc : List Char) : Gap → List Char
  | none => acc
  | blanks chars => chars ++ acc
  | broken first more =>
    match first with
    | some '\n' => if more.isEmpty then ' ' :: acc else more ++ acc
    | some c => more ++ c :: acc
    | Option.none => more ++ acc

end Gap

/-- The marks that end a plain scalar inside brackets. -/
def isFlowMark (c : Char) : Bool :=
  c == ',' || c == '[' || c == ']' || c == '\x7b' || c == '\x7d'

/-- A plain scalar that ends before some glyphs: its characters, whether a line break follows them,
and the rest. -/
def endPlain (acc : List Char) (gap : Gap) (gs : Glyphs) : Option (List Char × Bool × Glyphs) :=
  some (acc.reverse, gap.isBroken, gs)

/-- Read a plain scalar. In a block the lines after the first have to be indented by `indent`. -/
def readPlain (flow : Bool) (indent : Nat) (acc : List Char) (gap : Gap) :
    Glyphs → Option (List Char × Bool × Glyphs)
  | [] => none
  | g :: rest =>
    if isSpace g.char then
      if gap.isBroken && g.mark.column < indent && g.char == '\t' then none
      else readPlain flow indent acc (gap.addSpace g.char) rest
    else if isBreak g.char then readPlain flow indent acc (gap.addBreak g.char) rest
    else if isEnd g.char then endPlain acc gap (g :: rest)
    else if gap != .none && (!flow && g.mark.column < indent) then endPlain acc gap (g :: rest)
    else if (gap != .none || acc.isEmpty) &&
        (Glyphs.atDocumentLine (g :: rest) || g.char == '#') then
      endPlain acc gap (g :: rest)
    else if flow && g.char == ':' && (isFlowMark (Glyphs.peek rest) || Glyphs.peek rest == '?') then
      none
    else if (g.char == ':' && endsWord (Glyphs.peek rest)) || (flow && isFlowMark g.char) then
      endPlain acc gap (g :: rest)
    else readPlain flow indent (g.char :: gap.fill acc) .none rest

/-- The character that a letter stands for after a backslash. -/
def escaped? : Char → Option Char
  | '0' => some '\x00'
  | 'a' => some '\x07'
  | 'b' => some '\x08'
  | 't' | '\t' => some '\t'
  | 'n' => some '\n'
  | 'v' => some '\x0b'
  | 'f' => some '\x0c'
  | 'r' => some '\r'
  | 'e' => some '\x1b'
  | ' ' => some ' '
  | '"' => some '"'
  | '/' => some '/'
  | '\\' => some '\\'
  | 'N' => some nextLineChar
  | '_' => some '\u00a0'
  | 'L' => some lineSeparator
  | 'P' => some paragraphSeparator
  | _ => none

/-- The number of hexadecimal digits that a letter asks for after a backslash. -/
def escapeDigits? : Char → Option Nat
  | 'x' => some 2
  | 'u' => some 4
  | 'U' => some 8
  | _ => none

/-- The value of a hexadecimal digit. -/
def hexDigit? (c : Char) : Option Nat :=
  if '0' ≤ c ∧ c ≤ '9' then some (c.toNat - '0'.toNat)
  else if 'a' ≤ c ∧ c ≤ 'f' then some (c.toNat - 'a'.toNat + 10)
  else if 'A' ≤ c ∧ c ≤ 'F' then some (c.toNat - 'A'.toNat + 10)
  else none

/-- The character of a code point, unless it is a surrogate or too large. -/
def charOf? (code : Nat) : Option Char :=
  if code < 0xd800 ∨ (0xdfff < code ∧ code ≤ 0x10ffff) then some (Char.ofNat code) else none

/-- Read a single-quoted scalar after its opening quote. -/
def readSingleQuoted (acc : List Char) (gap : Gap) : Glyphs → Option (List Char × Glyphs)
  | [] => none
  | g :: rest =>
    if isSpace g.char then readSingleQuoted acc (gap.addSpace g.char) rest
    else if isBreak g.char then readSingleQuoted acc (gap.addBreak g.char) rest
    else if isEnd g.char || Glyphs.atDocumentLine (g :: rest) then none
    else if g.char == '\'' then
      match rest with
      | q :: after =>
        if q.char == '\'' then readSingleQuoted ('\'' :: gap.fill acc) .none after
        else some ((gap.fill acc).reverse, q :: after)
      | [] => none
    else readSingleQuoted (g.char :: gap.fill acc) .none rest

/-- Read a double-quoted scalar after its opening quote. `digits` holds the number of hexadecimal
digits that an escape still wants and the value of those it has. -/
def readDoubleQuoted (acc : List Char) (gap : Gap) (digits : Option (Nat × Nat)) :
    Glyphs → Option (List Char × Glyphs)
  | [] => none
  | g :: rest =>
    match digits with
    | some (wanted, value) =>
      match hexDigit? g.char with
      | none => none
      | some digit =>
        let value := value * 16 + digit
        if wanted ≤ 1 then
          match charOf? value with
          | none => none
          | some c => readDoubleQuoted (c :: acc) .none none rest
        else readDoubleQuoted acc .none (some (wanted - 1, value)) rest
    | none =>
      if isSpace g.char then readDoubleQuoted acc (gap.addSpace g.char) none rest
      else if isBreak g.char then readDoubleQuoted acc (gap.addBreak g.char) none rest
      else if isEnd g.char || Glyphs.atDocumentLine (g :: rest) then none
      else if g.char == '"' then some ((gap.fill acc).reverse, rest)
      else if g.char == '\\' then
        match rest with
        | [] => none
        | e :: after =>
          if isBreak e.char then readDoubleQuoted (gap.fill acc) (.broken none []) none after
          else
            match escaped? e.char, escapeDigits? e.char with
            | some c, _ => readDoubleQuoted (c :: gap.fill acc) .none none after
            | none, some count => readDoubleQuoted (gap.fill acc) .none (some (count, 0)) after
            | none, none => none
      else readDoubleQuoted (g.char :: gap.fill acc) .none none rest

/-- What becomes of the line breaks at the end of a block scalar: none stays, one does, or all
do. -/
inductive Chomp where
  | strip
  | clip
  | keep
  deriving Repr, DecidableEq

/-- Read the empty lines and the indentation before a line of a block scalar. `indent` is the
indentation of the block, or zero where it is not known yet; then the deepest column met decides. -/
def readBlockBreaks (indent deepest : Nat) (breaks : List Char) :
    Glyphs → Option (Nat × List Char × Glyphs)
  | [] => none
  | g :: rest =>
    let column := g.mark.column
    let inside := indent == 0 || column < indent
    if g.char == ' ' && inside then readBlockBreaks indent deepest breaks rest
    else if g.char == '\t' && inside then none
    else if isBreak g.char then readBlockBreaks indent (max deepest column) (g.char :: breaks) rest
    else some (max deepest column, breaks, g :: rest)

/-- What was read of a block scalar: its characters, the break after the last line of text and the
breaks after that one, and whether the last line begins with a blank. Characters and breaks stand
last one first. -/
structure BlockText where
  chars : List Char
  lead : Option Char
  trail : List Char
  startsBlank : Bool
  deriving Repr, DecidableEq

namespace BlockText

/-- The block scalar continued by a line of text that begins with a character. A folded scalar joins
two lines by a space unless one of them begins with a blank. -/
def beginLine (folded : Bool) (block : BlockText) (c : Char) : BlockText :=
  let blank := isSpace c
  let joins := folded && block.lead == some '\n' && !block.startsBlank && !blank
  let before :=
    if joins then (if block.trail.isEmpty then ' ' :: block.chars else block.chars)
    else block.lead.toList ++ block.chars
  { chars := c :: (block.trail ++ before), lead := none, trail := [], startsBlank := blank }

/-- The text of a block scalar. -/
def finish (chomp : Chomp) (block : BlockText) : List Char :=
  let kept :=
    match chomp with
    | .strip => block.chars
    | .clip => block.lead.toList ++ block.chars
    | .keep => block.trail ++ (block.lead.toList ++ block.chars)
  kept.reverse

end BlockText

/-- Read the lines of a block scalar. `inLine` says whether a line of text has begun. -/
def readBlockLines (folded : Bool) (indent : Nat) (inLine : Bool) (block : BlockText) :
    Glyphs → Option (BlockText × Glyphs)
  | [] => none
  | g :: rest =>
    if inLine then
      if isBreak g.char then
        readBlockLines folded indent false { block with lead := some g.char } rest
      else if isEnd g.char then some (block, g :: rest)
      else readBlockLines folded indent true { block with chars := g.char :: block.chars } rest
    else if g.char == ' ' && g.mark.column < indent then
      readBlockLines folded indent false block rest
    else if g.char == '\t' && g.mark.column < indent then none
    else if isBreak g.char then
      readBlockLines folded indent false { block with trail := g.char :: block.trail } rest
    else if g.mark.column == indent && !isEnd g.char then
      readBlockLines folded indent true (block.beginLine folded g.char) rest
    else some (block, g :: rest)

/-- The chomping that a sign asks for. -/
def chomp? : Char → Option Chomp
  | '+' => some .keep
  | '-' => some .strip
  | _ => none

/-- The indentation that a digit asks for, if a digit is next; zero is refused. -/
def readIndent (gs : Glyphs) : Option (Nat × Glyphs) :=
  let c := gs.peek
  if c.isDigit then (if c == '0' then none else some (c.toNat - '0'.toNat, gs.skip))
  else some (0, gs)

/-- Read the sign and the digit of a block scalar, in any order. -/
def readBlockHeader (gs : Glyphs) : Option (Chomp × Nat × Glyphs) := do
  match chomp? gs.peek with
  | some chomp =>
    let (indent, gs) ← readIndent gs.skip
    return (chomp, indent, gs)
  | none =>
    let (indent, gs) ← readIndent gs
    if indent == 0 then return (.clip, 0, gs)
    match chomp? gs.peek with
    | some chomp => return (chomp, indent, gs.skip)
    | none => return (.clip, indent, gs)

/-- Read a block scalar after its mark. `parent` is the indentation of what it stands in, plus
one. -/
def readBlock (folded : Bool) (parent : Nat) (gs : Glyphs) : Option (List Char × Glyphs) := do
  let (chomp, step, gs) ← readBlockHeader gs
  let gs := gs.skipSpaces.skipComment
  if !endsLine gs.peek then none
  let gs := if isBreak gs.peek then gs.skip else gs
  let given := if step == 0 then 0 else (parent - 1) + step
  let (deepest, breaks, gs) ← readBlockBreaks given 0 [] gs
  let indent := if given == 0 then max (max deepest parent) 1 else given
  let (block, gs) ← readBlockLines folded indent false ⟨[], none, breaks, false⟩ gs
  return (block.finish chomp, gs)

end LocaleRelay.Yaml
