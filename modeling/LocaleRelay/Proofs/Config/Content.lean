import LocaleRelay.Config.Decode
import Mathlib.Data.List.Forall2

/-!
# What a document says

The content of a node is what it says, wherever in the text it stands. A node without anchors,
references and tags has a content, and how it is read depends on this content alone: a text is read
from every scalar, a truth value from a plain one of six spellings, texts from a sequence of scalars
and pairs from a mapping; an empty plain scalar stands for no texts and no pairs too.
-/

namespace LocaleRelay.Yaml

/-- What a node says. -/
inductive Content where
  | scalar (style : Style) (text : String)
  | sequence (items : List Content)
  | mapping (pairs : List (Content × Content))

/-- A node without anchors, references and tags says something. -/
inductive Tree.Says : Tree → Content → Prop
  | scalar {mark : Mark} {style : Style} {text : String} :
      Says (.scalar mark none ⟨none, style, text⟩) (.scalar style text)
  | sequence {mark : Mark} {items : List Tree} {contents : List Content}
    (h : List.Forall₂ Says items contents) : Says (.sequence mark none items) (.sequence contents)
  | mapping {mark : Mark} {pairs : List (Tree × Tree)} {contents : List (Content × Content)}
    (hk : List.Forall₂ Says (pairs.map Prod.fst) (contents.map Prod.fst))
    (hv : List.Forall₂ Says (pairs.map Prod.snd) (contents.map Prod.snd)) :
    Says (.mapping mark none pairs) (.mapping contents)

/-- Pairs of nodes that say something. -/
def SayPairs (pairs : List (Tree × Tree)) (contents : List (Content × Content)) : Prop :=
  List.Forall₂ (fun pair content => pair.1.Says content.1 ∧ pair.2.Says content.2) pairs contents

namespace Content

/-- The text of a scalar. -/
def text? : Content → Option String
  | scalar _ text => some text
  | _ => none

/-- The path that the text of a scalar writes. -/
def path? (content : Content) : Option Files.RawPath := content.text?.map utf8

/-- The truth value that a plain scalar spells. -/
def truth? : Content → Option Bool
  | scalar .plain text =>
    if text ∈ ["true", "True", "TRUE"] then some true
    else if text ∈ ["false", "False", "FALSE"] then some false
    else none
  | _ => none

/-- The texts of a sequence of scalars; an empty plain scalar stands for none. -/
def texts? : Content → Option (List String)
  | sequence items => items.mapM text?
  | scalar style text => if text = "" ∧ style = .plain then some [] else none
  | mapping _ => none

/-- The pairs of a mapping; an empty plain scalar stands for none. -/
def pairs? : Content → Option (List (Content × Content))
  | mapping pairs => some pairs
  | scalar style text => if text = "" ∧ style = .plain then some [] else none
  | sequence _ => none

end Content

end LocaleRelay.Yaml

namespace LocaleRelay.Decode

open Yaml

variable {document : Document} {path : NodePath} {expected : Expected} {tree : Tree}
  {content : Content}

/-- One step after another gives a result only if both do. -/
theorem bind_eq_ok_iff {ε α β : Type} {first : Except ε α} {next : α → Except ε β} {b : β} :
    (first >>= next) = .ok b ↔ ∃ a, first = .ok a ∧ next a = .ok b := by
  cases first <;> simp [bind, Except.bind]

/-- What a node says stands in the node itself. -/
theorem follow_of_says (h : tree.Says content) (document : Document) :
    follow document tree = tree := by
  cases h <;> rfl

/-- Every scalar has its text. -/
theorem text_eq_ok_iff (h : tree.Says content) {words : String} :
    text document path expected tree = .ok words ↔ content.text? = some words := by
  rw [text, follow_of_says h]
  cases h with
  | scalar => simp [Content.text?]
  | sequence => simp [Content.text?, refuseKind, refuse]
  | mapping => simp [Content.text?, refuseKind, refuse]

/-- A truth value is a plain scalar in one of six spellings. -/
theorem boolean_eq_ok_iff (h : tree.Says content) {value : Bool} :
    boolean document path tree = .ok value ↔ content.truth? = some value := by
  rw [boolean, follow_of_says h]
  cases h with
  | @scalar mark style words =>
    have hmay : mayBeBoolean ⟨none, style, words⟩ = decide (style = .plain) := by
      simp [mayBeBoolean]
    by_cases hs : style = .plain
    · subst hs
      simp only [hmay, decide_true, if_true]
      unfold boolean? Content.truth?
      simp only [List.contains_iff_mem]
      split_ifs <;> simp [refuseKind, refuse]
    · have hnone : (Content.scalar style words).truth? = none := by
        cases style <;> first | rfl | exact absurd rfl hs
      simp [hmay, hs, hnone, refuseKind, refuse]
  | sequence => simp [Content.truth?, refuseKind, refuse]
  | mapping => simp [Content.truth?, refuseKind, refuse]

private theorem textsOf_eq_ok_iff {items : List Tree} {contents : List Content}
    (h : List.Forall₂ Tree.Says items contents) {words : List String} :
    textsOf document path items = .ok words ↔ contents.mapM Content.text? = some words := by
  -- The places of the entries only show in failures, so they may start anywhere.
  have hfrom : ∀ (start : Nat) {words : List String},
      (items.zipIdx start).mapM (fun place =>
        text document (.index place.2 :: path) .text place.1) = .ok words ↔
          contents.mapM Content.text? = some words := by
    induction h with
    | nil => intro start words; simp [pure, Except.pure]
    | @cons item content items contents hitem _ ih =>
      intro start words
      rw [List.zipIdx_cons, List.mapM_cons, List.mapM_cons, bind_eq_ok_iff, Option.bind_eq_bind,
        Option.bind_eq_some_iff]
      refine exists_congr fun word => and_congr (text_eq_ok_iff hitem) ?_
      rw [bind_eq_ok_iff, Option.bind_eq_bind, Option.bind_eq_some_iff]
      refine exists_congr fun rest => and_congr (ih (start + 1)) ?_
      simp [pure, Except.pure]
  exact hfrom 0

/-- Texts are written as a sequence of scalars or not at all. -/
theorem texts_eq_ok_iff (h : tree.Says content) {words : List String} :
    texts document path tree = .ok words ↔ content.texts? = some words := by
  rw [texts, follow_of_says h]
  cases h with
  | @scalar mark style words =>
    unfold Content.texts? isEmptyPlain
    by_cases he : words = "" ∧ style = .plain
    · simp [he]
    · simp [he, refuseKind, refuse]
  | sequence hitems => exact textsOf_eq_ok_iff hitems
  | mapping => simp [Content.texts?, refuseKind, refuse]

private theorem sayPairs_of_says {pairs : List (Tree × Tree)} {contents : List (Content × Content)}
    (hk : List.Forall₂ Tree.Says (pairs.map Prod.fst) (contents.map Prod.fst))
    (hv : List.Forall₂ Tree.Says (pairs.map Prod.snd) (contents.map Prod.snd)) :
    SayPairs pairs contents := by
  induction pairs generalizing contents with
  | nil =>
    cases contents with
    | nil => exact .nil
    | cons => cases hk
  | cons pair pairs ih =>
    cases contents with
    | nil => cases hk
    | cons content contents =>
      obtain ⟨hkey, hkeys⟩ := List.forall₂_cons.mp hk
      obtain ⟨hvalue, hvalues⟩ := List.forall₂_cons.mp hv
      exact .cons ⟨hkey, hvalue⟩ (ih hkeys hvalues)

/-- The pairs of a mapping say its pairs. -/
theorem pairs_of_some (h : tree.Says content) {contents : List (Content × Content)}
    (hc : content.pairs? = some contents) (document : Document) (path : NodePath)
    (expected : Expected) :
    ∃ mark pairs, Decode.pairs document path expected tree = .ok (mark, pairs) ∧
      SayPairs pairs contents := by
  rw [Decode.pairs, follow_of_says h]
  cases h with
  | @scalar mark style words =>
    by_cases he : words = "" ∧ style = .plain
    · rw [Content.pairs?, if_pos he, Option.some.injEq] at hc
      subst hc
      exact ⟨mark, [], by simp [isEmptyPlain, he], .nil⟩
    · rw [Content.pairs?, if_neg he] at hc
      cases hc
  | sequence => cases hc
  | @mapping mark pairs contents hk hv =>
    cases hc
    exact ⟨mark, pairs, rfl, sayPairs_of_says hk hv⟩

/-- What is no mapping has no pairs. -/
theorem pairs_of_none (h : tree.Says content) (hc : content.pairs? = none) (document : Document)
    (path : NodePath) (expected : Expected) :
    ∃ failure, Decode.pairs document path expected tree = .error failure := by
  rw [Decode.pairs, follow_of_says h]
  cases h with
  | @scalar mark style words =>
    have he : ¬ (words = "" ∧ style = .plain) := by
      intro he
      rw [Content.pairs?, if_pos he] at hc
      cases hc
    simp [isEmptyPlain, he, refuseKind, refuse]
  | sequence => exact ⟨_, rfl⟩
  | mapping => cases hc

end LocaleRelay.Decode
