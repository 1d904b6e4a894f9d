import LocaleRelay.Yaml.Lexer

/-!
# From tokens to events

The structure of a document as a sequence of events: scalars, references, and the beginnings and
ends of sequences and mappings. A stack holds what is open. Each token is met by the top of the
stack, which either takes it or is finished by it and leaves it to what lies below; a node that is
left out becomes an empty scalar.
-/

namespace LocaleRelay.Yaml

/-- A scalar, with its tag if one is given. -/
structure Scalar where
  tag : Option TagText
  style : Style
  text : String
  deriving Repr, DecidableEq

/-- What happens in a document; an alias is a reference to a named node. -/
inductive EventKind where
  | alias (name : String)
  | scalar (anchor : Option String) (scalar : Scalar)
  | sequenceStart (anchor : Option String)
  | sequenceEnd
  | mappingStart (anchor : Option String)
  | mappingEnd
  deriving Repr, DecidableEq

/-- An event with its position. -/
structure Event where
  kind : EventKind
  mark : Mark
  deriving Repr, DecidableEq

/-- Where a node stands: it is the whole document, bare where no mark begins it, an entry of a
sequence, or a key or a value of a mapping. Open items are those of a sequence that is not indented,
and pairs stand in a sequence in brackets. A bare key has neither a mark nor a value. -/
inductive Site where
  | bare
  | document
  | blockItem
  | openItem
  | blockKey
  | blockValue
  | flowItem
  | pairKey
  | pairValue
  | flowKey
  | flowBareKey
  | flowValue
  deriving Repr, DecidableEq

namespace Site

/-- Whether a block may stand here. -/
def allowsBlock : Site → Bool
  | bare | document | blockItem | openItem | blockKey | blockValue => true
  | _ => false

/-- Whether a sequence that is not indented may stand here. -/
def allowsOpenSequence : Site → Bool
  | blockKey | blockValue => true
  | _ => false

/-- Whether a token shows that the node here is left out. -/
def isOmittedBefore : Site → Token → Bool
  | document, .version _ _ | document, .tagHandle _ _ | document, .documentStart
  | document, .documentEnd | document, .streamEnd => true
  | blockItem, .blockEntry | blockItem, .blockEnd => true
  | openItem, .blockEntry | openItem, .key | openItem, .value | openItem, .blockEnd => true
  | blockKey, .key | blockKey, .value | blockKey, .blockEnd => true
  | blockValue, .key | blockValue, .value | blockValue, .blockEnd => true
  | pairKey, .value | pairKey, .flowEntry | pairKey, .flowSequenceEnd => true
  | pairValue, .flowEntry | pairValue, .flowSequenceEnd => true
  | flowKey, .value | flowKey, .flowEntry | flowKey, .flowMappingEnd => true
  | flowValue, .flowEntry | flowValue, .flowMappingEnd => true
  | _, _ => false

/-- Whether an omitted node is placed at the end of the mark before it; elsewhere it is placed at
the token that shows that it is left out. -/
def isPlacedAtMark : Site → Bool
  | blockItem | openItem | blockKey | blockValue => true
  | _ => false

end Site

/-- The anchor and the tag before a node, the tag as handle and suffix. -/
structure Properties where
  anchor : Option String
  tag : Option (String × TagText)
  deriving Repr, DecidableEq

/-- What is open at some point of a document. A node is due after a mark that ends at a position, or
its content is, whose properties begin at one; or a sequence, pair or mapping is between two of its
parts. Before the first entry in brackets `first` holds. -/
inductive Frame where
  | documentEnd
  | node (site : Site) (after : Mark)
  | content (site : Site) (start : Mark) (props : Properties)
  | blockSequence
  | openSequence
  | blockMapping
  | blockMappingValue
  | flowSequence (first : Bool)
  | pair
  | pairEnd
  | flowMapping (first : Bool)
  | flowMappingNext
  | flowSequenceNext
  | flowMappingValue
  | flowMappingNoValue
  deriving Repr, DecidableEq

/-- What stands for a node that is left out. -/
def omitted (mark : Mark) : Event := ⟨.scalar none ⟨none, .plain, ""⟩, mark⟩

/-- The tag handles of a document and what they stand for. -/
abbrev TagHandles := List (String × TagText)

/-- The handles that every document has. -/
def builtInHandles : TagHandles :=
  [("!", .ofAscii "!"), ("!!", .ofAscii "tag:yaml.org,2002:")]

/-- The whole tag that a handle and a suffix write. -/
def resolveTag (handles : TagHandles) : Option (String × TagText) → Option (Option TagText)
  | none => some none
  | some ("", suffix) => some (some suffix)
  | some (handle, suffix) =>
    (handles.find? fun entry => entry.1 = handle).map fun entry => some (entry.2 ++ suffix)

/-- What a token does to a stack: the events it makes and the stack after it, or none where the
token does not fit. -/
abbrev Step := List Event × Option (List Frame)

/-- Events made before those of a step. -/
def Step.after (events : List Event) (step : Step) : Step := (events ++ step.1, step.2)

/-- A node begins here with a token, after its properties if it has some. `below` is the stack
without the node, `resume` what the token does to it if the node is left out. -/
def beginNode (handles : TagHandles) (site : Site) (start : Mark) (props : Properties)
    (lexeme : Lexeme) (below : List Frame) (resume : Step) : Step :=
  match resolveTag handles props.tag with
  | none => ([], none)
  | some tag =>
    match lexeme.token with
    | .scalar style text =>
      ([⟨.scalar props.anchor ⟨tag, style, text⟩, start⟩], some below)
    | .flowSequenceStart =>
      ([⟨.sequenceStart props.anchor, start⟩], some (.flowSequence true :: below))
    | .flowMappingStart =>
      ([⟨.mappingStart props.anchor, start⟩], some (.flowMapping true :: below))
    | .blockSequenceStart =>
      if site.allowsBlock then
        ([⟨.sequenceStart props.anchor, start⟩], some (.blockSequence :: below))
      else leftOut tag
    | .blockMappingStart =>
      if site.allowsBlock then
        ([⟨.mappingStart props.anchor, start⟩], some (.blockMapping :: below))
      else leftOut tag
    | .blockEntry =>
      if site.allowsOpenSequence then
        ([⟨.sequenceStart props.anchor, start⟩],
          some (.node .openItem lexeme.stop :: .openSequence :: below))
      else leftOut tag
    | _ => leftOut tag
where
  -- properties alone make an empty scalar, and without them there has to be a node
  leftOut (tag : Option TagText) : Step :=
    if props.anchor.isSome || props.tag.isSome then
      resume.after [⟨.scalar props.anchor ⟨tag, .plain, ""⟩, start⟩]
    else ([], none)

/-- A node is due and meets a token. -/
def meetNode (handles : TagHandles) (site : Site) (lexeme : Lexeme) (below : List Frame)
    (resume : Step) : Step :=
  match lexeme.token with
  | .alias name => ([⟨.alias name, lexeme.start⟩], some below)
  | .anchor name => ([], some (.content site lexeme.start ⟨some name, none⟩ :: below))
  | .tag handle suffix =>
    ([], some (.content site lexeme.start ⟨none, some (handle, suffix)⟩ :: below))
  | _ => beginNode handles site lexeme.start ⟨none, none⟩ lexeme below resume

/-- An entry of a sequence in brackets is due and meets a token. A key mark begins a pair. -/
def meetItem (handles : TagHandles) (lexeme : Lexeme) (below : List Frame) : Step :=
  let rest := .flowSequence false :: below
  match lexeme.token with
  | .key =>
    ([⟨.mappingStart none, lexeme.start⟩], some (.node .pairKey lexeme.stop :: .pair :: rest))
  | _ => meetNode handles .flowItem lexeme rest ([], none)

/-- A key of a mapping in brackets is due and meets a token. A key without its mark has no value. -/
def meetKey (handles : TagHandles) (lexeme : Lexeme) (below : List Frame) : Step :=
  let rest := .flowMapping false :: below
  match lexeme.token with
  | .key => ([], some (.node .flowKey lexeme.stop :: .flowMappingValue :: rest))
  | _ => meetNode handles .flowBareKey lexeme (.flowMappingNoValue :: rest) ([], none)

/-- What a token does to the stack. The end of a document leaves the token to what comes after. -/
def feed (handles : TagHandles) (lexeme : Lexeme) : List Frame → Step
  | [] => ([], some [])
  | .documentEnd :: _ => ([], some [])
  | .node site after :: below =>
    if site.isOmittedBefore lexeme.token then
      if site = .pairKey then
        -- The token is passed over together with the omitted key.
        ([omitted lexeme.stop], some below)
      else
        (feed handles lexeme below).after
          [omitted (if site.isPlacedAtMark then after else lexeme.start)]
    else meetNode handles site lexeme below (feed handles lexeme below)
  | .content site start props :: below =>
    match lexeme.token, props with
    | .anchor name, ⟨none, tag⟩ => ([], some (.content site start ⟨some name, tag⟩ :: below))
    | .tag handle suffix, ⟨anchor, none⟩ =>
      ([], some (.content site start ⟨anchor, some (handle, suffix)⟩ :: below))
    | _, _ => beginNode handles site start props lexeme below (feed handles lexeme below)
  | .blockSequence :: below =>
    match lexeme.token with
    | .blockEntry => ([], some (.node .blockItem lexeme.stop :: .blockSequence :: below))
    | .blockEnd => ([⟨.sequenceEnd, lexeme.start⟩], some below)
    | _ => ([], none)
  | .openSequence :: below =>
    match lexeme.token with
    | .blockEntry => ([], some (.node .openItem lexeme.stop :: .openSequence :: below))
    | _ => (feed handles lexeme below).after [⟨.sequenceEnd, lexeme.start⟩]
  | .blockMapping :: below =>
    match lexeme.token with
    | .key =>
      ([], some (.node .blockKey lexeme.stop :: .blockMappingValue :: .blockMapping :: below))
    | .blockEnd => ([⟨.mappingEnd, lexeme.start⟩], some below)
    | _ => ([], none)
  | .blockMappingValue :: below =>
    match lexeme.token with
    | .value => ([], some (.node .blockValue lexeme.stop :: below))
    | _ => (feed handles lexeme below).after [omitted lexeme.start]
  | .flowSequence first :: below =>
    match lexeme.token with
    | .flowSequenceEnd => ([⟨.sequenceEnd, lexeme.start⟩], some below)
    | .flowEntry => if first then ([], none) else ([], some (.flowSequenceNext :: below))
    | _ => if first then meetItem handles lexeme below else ([], none)
  | .flowSequenceNext :: below =>
    match lexeme.token with
    | .flowSequenceEnd => ([⟨.sequenceEnd, lexeme.start⟩], some below)
    | _ => meetItem handles lexeme below
  | .pair :: below =>
    match lexeme.token with
    | .value => ([], some (.node .pairValue lexeme.stop :: .pairEnd :: below))
    | _ =>
      (feed handles lexeme below).after [omitted lexeme.start, ⟨.mappingEnd, lexeme.start⟩]
  | .pairEnd :: below => (feed handles lexeme below).after [⟨.mappingEnd, lexeme.start⟩]
  | .flowMapping first :: below =>
    match lexeme.token with
    | .flowMappingEnd => ([⟨.mappingEnd, lexeme.start⟩], some below)
    | .flowEntry => if first then ([], none) else ([], some (.flowMappingNext :: below))
    | _ => if first then meetKey handles lexeme below else ([], none)
  | .flowMappingNext :: below =>
    match lexeme.token with
    | .flowMappingEnd => ([⟨.mappingEnd, lexeme.start⟩], some below)
    | _ => meetKey handles lexeme below
  | .flowMappingValue :: below =>
    match lexeme.token with
    | .value => ([], some (.node .flowValue lexeme.stop :: below))
    | _ => (feed handles lexeme below).after [omitted lexeme.start]
  | .flowMappingNoValue :: below => (feed handles lexeme below).after [omitted lexeme.start]

/-- How the reading of a document ended: with the end of the text, with something else after it, or
where the text is malformed. -/
inductive Completion where
  | complete
  | more
  | broken
  deriving Repr, DecidableEq

/-- What the tokens after a document make of it. -/
def completionOf : List Lexeme → Completion
  | [] => .broken
  | lexeme :: rest =>
    match lexeme.token with
    | .documentEnd => completionOf rest
    | .streamEnd => .complete
    | _ => .more

/-- The events of a document with a stack, after some others, last one first, and how it ends. -/
def eventsOnto (handles : TagHandles) (before : List Event) :
    List Frame → List Lexeme → List Event × Completion
  | _, [] => (before.reverse, .broken)
  | frames, lexeme :: rest =>
    match feed handles lexeme frames with
    | (events, none) => ((events.reverse ++ before).reverse, .broken)
    | (events, some []) => ((events.reverse ++ before).reverse, completionOf (lexeme :: rest))
    | (events, some frames) => eventsOnto handles (events.reverse ++ before) frames rest

/-- The handles that the directives before a document give, and the tokens after its first mark.
There may be one version, which has to be known, and one meaning for each handle. -/
def readDirectives (versioned : Bool) (handles : TagHandles) :
    List Lexeme → Option (TagHandles × List Lexeme)
  | [] => none
  | lexeme :: rest =>
    match lexeme.token with
    | .version major minor =>
      if versioned || major != 1 || (minor != 1 && minor != 2) then none
      else readDirectives true handles rest
    | .tagHandle handle stands =>
      if handles.any fun entry => entry.1 = handle then none
      else readDirectives versioned (handles ++ [(handle, stands)]) rest
    | .documentStart => some (handles ++ builtInHandles, rest)
    | _ => none

/-- The events of the first document in some tokens, and how it ends. A text without a document has
no events and is complete. -/
def documentEvents (lexemes : List Lexeme) : List Event × Completion :=
  match lexemes with
  | [] => ([], .broken)
  | lexeme :: _ =>
    match lexeme.token with
    | .streamEnd => ([], .complete)
    | .version _ _ | .tagHandle _ _ | .documentStart =>
      match readDirectives false [] lexemes with
      | none => ([], .broken)
      | some (handles, rest) =>
        eventsOnto handles [] [.node .document lexeme.stop, .documentEnd] rest
    | _ => eventsOnto builtInHandles [] [.node .bare lexeme.start, .documentEnd] lexemes

end LocaleRelay.Yaml
