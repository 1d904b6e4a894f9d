import LocaleRelay.Yaml.Property

/-!
# From glyphs to tokens

Tokens are found from left to right, but whether a node is a key shows only at the colon after it.
So a token that may begin a key waits until that is settled; if it does begin one, a key mark and
perhaps the beginning of a mapping are put in front of it. Tokens that wait for nothing are settled,
and where the text turns out to be malformed the settled ones are all that is known of it.
-/

namespace LocaleRelay.Yaml

/-- A token that may begin a key or, where that is required, has to, with the number of tokens
before it. -/
structure Candidate where
  required : Bool
  number : Nat
  mark : Mark
  deriving Repr, DecidableEq

/-- A reader of tokens between two of them. The tokens that are settled stand last one first. The
margins are the indentations of the open blocks, each plus one, and there is one candidate for a key
in each open bracket and one outside of all; both are listed innermost first. -/
structure Lexer where
  rest : Glyphs
  settled : List Lexeme
  taken : Nat
  waiting : List Lexeme
  margins : List Nat
  candidates : List (Option Candidate)
  keyAllowed : Bool
  ended : Bool

namespace Lexer

/-- A reader at the beginning of a text. -/
def start (gs : Glyphs) : Lexer where
  rest := gs
  settled := []
  taken := 0
  waiting := []
  margins := []
  candidates := [none]
  keyAllowed := true
  ended := false

/-- Whether the reader is inside brackets. -/
def inFlow (lx : Lexer) : Bool := lx.candidates.length > 1

/-- The indentation of the innermost block plus one, or zero outside of all. -/
def margin (lx : Lexer) : Nat := lx.margins.headD 0

/-- The position of the reader. -/
def mark (lx : Lexer) : Mark := lx.rest.mark

/-- A token put at the end of those that wait. -/
def push (lx : Lexer) (token : Token) (start stop : Mark) : Lexer :=
  { lx with waiting := lx.waiting ++ [⟨token, start, stop⟩] }

/-- A token put in front of the one with so many tokens before it. -/
def insert (lx : Lexer) (number : Nat) (token : Token) (mark : Mark) : Lexer :=
  let before := lx.waiting.take (number - lx.taken)
  let after := lx.waiting.drop (number - lx.taken)
  { lx with waiting := before ++ ⟨token, mark, mark⟩ :: after }

/-- A token that was read up to the rest. -/
def accept (lx : Lexer) (token : Token) (rest : Glyphs) : Lexer :=
  { lx.push token lx.mark rest.mark with rest }

/-- Most bytes between the beginning of a key and its colon. -/
def keyLimit : Nat := 1024

/-- A candidate that can no longer begin a key is dropped; one that has to begin a key must not get
that far. -/
def keepFresh (mark : Mark) : List (Option Candidate) → Option (List (Option Candidate))
  | [] => some []
  | none :: more => (keepFresh mark more).map (none :: ·)
  | some key :: more =>
    if key.mark.line < mark.line || key.mark.index + keyLimit < mark.index then
      if key.required then none else (keepFresh mark more).map (none :: ·)
    else (keepFresh mark more).map (some key :: ·)

/-- The reader without candidates that are too old. -/
def dropStale (lx : Lexer) : Option Lexer :=
  (keepFresh lx.mark lx.candidates).map fun candidates => { lx with candidates }

/-- The innermost candidate dropped, unless it has to begin a key. -/
def dropCandidate (lx : Lexer) : Option Lexer :=
  match lx.candidates with
  | some key :: more => if key.required then none else some { lx with candidates := none :: more }
  | _ => some lx

/-- What is read next becomes the innermost candidate, where a key may begin. -/
def noteCandidate (lx : Lexer) : Option Lexer :=
  if lx.keyAllowed then
    let key : Candidate :=
      { required := !lx.inFlow && lx.margin == lx.mark.column + 1,
        number := lx.taken + lx.waiting.length, mark := lx.mark }
    lx.dropCandidate.map fun lx => { lx with candidates := some key :: lx.candidates.drop 1 }
  else some lx

/-- Settle the tokens before the first one that may begin a key. -/
def settleFrom (numbers : List Nat) (taken : Nat) (settled : List Lexeme) :
    List Lexeme → Nat × List Lexeme × List Lexeme
  | [] => (taken, settled, [])
  | lexeme :: more =>
    if numbers.contains taken then (taken, settled, lexeme :: more)
    else settleFrom numbers (taken + 1) (lexeme :: settled) more

/-- Settle what can be settled, if anything waits. -/
def settle (lx : Lexer) : Option Lexer :=
  if lx.waiting.isEmpty then some lx
  else do
    let lx ← lx.dropStale
    let numbers := lx.candidates.filterMap fun key => key.map (·.number)
    let (taken, settled, waiting) := settleFrom numbers lx.taken lx.settled lx.waiting
    return { lx with taken, settled, waiting }

/-- Close the blocks that are indented by more than a limit. -/
def closeBlocks (limit : Nat) (mark : Mark) : List Nat → List Lexeme × List Nat
  | [] => ([], [])
  | margin :: more =>
    if margin > limit then
      let (closed, left) := closeBlocks limit mark more
      (⟨.blockEnd, mark, mark⟩ :: closed, left)
    else ([], margin :: more)

/-- The reader after blocks are closed; inside brackets there are none to close. -/
def unindent (lx : Lexer) (limit : Nat) : Lexer :=
  if lx.inFlow then lx
  else
    let (closed, margins) := closeBlocks limit lx.mark lx.margins
    { lx with waiting := lx.waiting ++ closed, margins }

/-- Open a block at a column, in front of the token with so many tokens before it, if the column is
to the right of the open blocks. -/
def indent (lx : Lexer) (number : Nat) (token : Token) (mark : Mark) : Lexer :=
  if lx.inFlow || lx.margin > mark.column then lx
  else { lx.insert number token mark with margins := (mark.column + 1) :: lx.margins }

/-- Open a block here. -/
def indentHere (lx : Lexer) (token : Token) : Lexer :=
  lx.indent (lx.taken + lx.waiting.length) token lx.mark

/-- Go to the next token: skip blanks, comments and line breaks. After a line break outside of
brackets a key may begin. Tabs do not count as blanks where a key may begin in a block. A byte order
mark at the beginning of a line is skipped, and counts as one character of the line. -/
def skipToToken (flow keyAllowed inComment : Bool) : Glyphs → Bool × Glyphs
  | [] => (keyAllowed, [])
  | g :: rest =>
    if isBreak g.char then skipToToken flow (keyAllowed || !flow) false rest
    else if isEnd g.char then (keyAllowed, g :: rest)
    else if inComment then skipToToken flow keyAllowed true rest
    else if g.char == ' ' || (g.char == '\t' && (flow || !keyAllowed)) ||
        (g.char == byteOrderMark && g.mark.column == 0) then
      skipToToken flow keyAllowed false rest
    else if g.char == '#' then skipToToken flow keyAllowed true rest
    else (keyAllowed, g :: rest)

/-- Read the end of the text. It counts as a new line. -/
def fetchEnd (lx : Lexer) : Option Lexer := do
  let mark := lx.mark
  let mark := if mark.column == 0 then mark else ⟨mark.index, mark.line + 1, 0⟩
  let lx ← ({ lx with rest := [⟨'\x00', mark⟩] }.unindent 0).dropCandidate
  return { lx.push .streamEnd mark mark with keyAllowed := false, ended := true }

/-- Read a directive. -/
def fetchDirective (lx : Lexer) : Option Lexer := do
  let lx ← (lx.unindent 0).dropCandidate
  let (token, stop, rest) ← readDirective lx.rest.skip
  return { lx.push token lx.mark stop with rest, keyAllowed := false }

/-- Read the mark at the beginning or the end of a document. -/
def fetchDocumentMark (lx : Lexer) (token : Token) : Option Lexer := do
  let lx ← (lx.unindent 0).dropCandidate
  return { lx.accept token (lx.rest.drop 3) with keyAllowed := false }

/-- Read an opening bracket. -/
def fetchOpening (lx : Lexer) (token : Token) : Option Lexer := do
  let lx ← lx.noteCandidate
  return { lx.accept token lx.rest.skip with
    candidates := none :: lx.candidates, keyAllowed := true }

/-- Read a closing bracket. -/
def fetchClosing (lx : Lexer) (token : Token) : Option Lexer := do
  let lx ← lx.dropCandidate
  let candidates := if lx.inFlow then lx.candidates.drop 1 else lx.candidates
  return { lx.accept token lx.rest.skip with candidates, keyAllowed := false }

/-- Read a comma inside brackets. -/
def fetchComma (lx : Lexer) : Option Lexer := do
  let lx ← lx.dropCandidate
  return { lx.accept .flowEntry lx.rest.skip with keyAllowed := true }

/-- Read the dash of a sequence in a block. -/
def fetchDash (lx : Lexer) : Option Lexer := do
  if !lx.inFlow && !lx.keyAllowed then none
  let lx ← (lx.indentHere .blockSequenceStart).dropCandidate
  return { lx.accept .blockEntry lx.rest.skip with keyAllowed := true }

/-- Read the question mark before a key. -/
def fetchKey (lx : Lexer) : Option Lexer := do
  if !lx.inFlow && !lx.keyAllowed then none
  let lx ← (lx.indentHere .blockMappingStart).dropCandidate
  return { lx.accept .key lx.rest.skip with keyAllowed := !lx.inFlow }

/-- Read the colon before a value. A candidate before it turns out to be a key. -/
def fetchValue (lx : Lexer) : Option Lexer :=
  match lx.candidates with
  | some key :: more =>
    let lx := lx.insert key.number .key key.mark
    let lx := lx.indent key.number .blockMappingStart key.mark
    some { lx.accept .value lx.rest.skip with candidates := none :: more, keyAllowed := false }
  | _ =>
    if !lx.inFlow && !lx.keyAllowed then none
    else
      let lx := lx.indentHere .blockMappingStart
      some { lx.accept .value lx.rest.skip with keyAllowed := !lx.inFlow }

/-- Read a token that may begin a key. -/
def fetchNode (lx : Lexer) (read : Glyphs → Option (Token × Glyphs)) : Option Lexer := do
  let lx ← lx.noteCandidate
  let (token, rest) ← read lx.rest
  return { lx.accept token rest with keyAllowed := false }

/-- Read a block scalar. -/
def fetchBlock (lx : Lexer) (folded : Bool) : Option Lexer := do
  let lx ← lx.dropCandidate
  let (chars, rest) ← readBlock folded lx.margin lx.rest.skip
  let style := if folded then Style.folded else .literal
  return { lx.accept (.scalar style (String.ofList chars)) rest with keyAllowed := true }

/-- Read a plain scalar. A key may begin after the line break that follows it. -/
def fetchPlain (lx : Lexer) : Option Lexer := do
  let lx ← lx.noteCandidate
  let (chars, broken, rest) ← readPlain lx.inFlow lx.margin [] .none lx.rest
  return { lx.accept (.scalar .plain (String.ofList chars)) rest with keyAllowed := broken }

/-- The marks that no plain scalar begins with. -/
def isIndicator (c : Char) : Bool :=
  c == '-' || c == '?' || c == ':' || c == ',' || c == '[' || c == ']' || c == '\x7b' ||
    c == '\x7d' || c == '#' || c == '&' || c == '*' || c == '!' || c == '|' || c == '>' ||
    c == '\'' || c == '"' || c == '%' || c == '@' || c == '\u0060'

/-- Whether a plain scalar begins with a character that is followed by another. -/
def beginsPlain (flow : Bool) (c next : Char) : Bool :=
  (!endsWord c && !isIndicator c) || (c == '-' && !isSpace next) ||
    (!flow && (c == '?' || c == ':') && !endsWord next)

/-- Read the token that begins here. -/
def fetchToken (lx : Lexer) : Option Lexer :=
  let c := lx.rest.peek
  let next := lx.rest.peekAt 1
  let flow := lx.inFlow
  if !lx.rest.canRead 4 then none
  else if isEnd c then lx.fetchEnd
  else if lx.mark.column == 0 && c == '%' then lx.fetchDirective
  else if lx.mark.column == 0 && lx.rest.atTriple '-' then lx.fetchDocumentMark .documentStart
  else if lx.mark.column == 0 && lx.rest.atTriple '.' then lx.fetchDocumentMark .documentEnd
  else if c == '[' then lx.fetchOpening .flowSequenceStart
  else if c == '\x7b' then lx.fetchOpening .flowMappingStart
  else if c == ']' then lx.fetchClosing .flowSequenceEnd
  else if c == '\x7d' then lx.fetchClosing .flowMappingEnd
  else if c == ',' then lx.fetchComma
  else if c == '-' && endsWord next then lx.fetchDash
  else if c == '?' && (flow || endsWord next) then lx.fetchKey
  else if c == ':' && (flow || endsWord next) then lx.fetchValue
  else if c == '*' then
    lx.fetchNode fun gs => (readName gs.skip).map fun (name, rest) => (.alias name, rest)
  else if c == '&' then
    lx.fetchNode fun gs => (readName gs.skip).map fun (name, rest) => (.anchor name, rest)
  else if c == '!' then lx.fetchNode (readTag flow)
  else if c == '|' && !flow then lx.fetchBlock false
  else if c == '>' && !flow then lx.fetchBlock true
  else if c == '\'' then
    lx.fetchNode fun gs => (readSingleQuoted [] .none gs.skip).map fun (chars, rest) =>
      (.scalar .singleQuoted (String.ofList chars), rest)
  else if c == '"' then
    lx.fetchNode fun gs => (readDoubleQuoted [] .none none gs.skip).map fun (chars, rest) =>
      (.scalar .doubleQuoted (String.ofList chars), rest)
  else if beginsPlain flow c next then lx.fetchPlain
  else none

/-- Read the next token and close the blocks that end before it. -/
def fetch (lx : Lexer) : Option Lexer := do
  let (keyAllowed, rest) := skipToToken lx.inFlow lx.keyAllowed false lx.rest
  let lx ← { lx with keyAllowed, rest }.dropStale
  (lx.unindent (lx.mark.column + 1)).fetchToken

/-- The settled tokens after at most so many more steps. -/
def run : Nat → Lexer → List Lexeme
  | 0, lx => lx.settled.reverse
  | steps + 1, lx =>
    match lx.settle with
    | none => lx.settled.reverse
    | some lx =>
      if lx.ended then lx.settled.reverse
      else
        match lx.fetch with
        | none => lx.settled.reverse
        | some lx => run steps lx

end Lexer

/-- The tokens of some glyphs. Each step reads at least one glyph or the end, so there are no more
steps than glyphs, and one to finish. The end of the text is the last token of a text that is well
formed as far as tokens go. -/
def lexemes (gs : Glyphs) : List Lexeme := Lexer.run (gs.length + 2) (Lexer.start gs)

end LocaleRelay.Yaml
