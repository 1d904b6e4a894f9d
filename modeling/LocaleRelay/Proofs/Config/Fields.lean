import LocaleRelay.Proofs.Config.Content

/-!
# Records from pairs

A record is read from pairs in any order. The pairs have to name fields, none of them twice, each
with a value of its kind; then every field has the value that is given under its name, or the one
that it had. What is given under a name does not depend on the order of the pairs.
-/

namespace LocaleRelay.Yaml

variable {α : Type} {name : String} {key content : Content} {pairs rest : List (Content × Content)}

/-! ### What is given under a name -/

/-- What the first pair with a name as its key gives. -/
def given? (name : String) (pairs : List (Content × Content)) : Option Content :=
  (pairs.find? fun pair => pair.1.text? = some name).map Prod.snd

/-- Every pair has one of some names as its key, and no two the same. -/
structure Named (names : List String) (pairs : List (Content × Content)) : Prop where
  known : ∀ pair ∈ pairs, ∃ name ∈ names, pair.1.text? = some name
  once : (pairs.map fun pair => pair.1.text?).Nodup

/-- What is given under a name, if anything is, can be read. -/
def Readable (read : Content → Option α) (name : String) (pairs : List (Content × Content)) :
    Prop :=
  ∀ content, given? name pairs = some content → ∃ value, read content = some value

/-- The value that is given under a name, or else another one. -/
def readOr (read : Content → Option α) (name : String) (pairs : List (Content × Content))
    (otherwise : α) : α :=
  ((given? name pairs).bind read).getD otherwise

/-- The first pair is found under its own key. -/
theorem given?_cons_self (h : key.text? = some name) :
    given? name ((key, content) :: rest) = some content := by
  simp [given?, h]

/-- Under any other key the remaining pairs are searched. -/
theorem given?_cons_of_ne (h : key.text? ≠ some name) :
    given? name ((key, content) :: rest) = given? name rest := by
  simp [given?, h]

/-- Nothing is given under a name that is no key. -/
theorem given?_eq_none_iff :
    given? name pairs = none ↔ ∀ pair ∈ pairs, pair.1.text? ≠ some name := by
  simp [given?]

/-- Without pairs the other value stands. -/
theorem readOr_nil (read : Content → Option α) (name : String) (otherwise : α) :
    readOr read name [] otherwise = otherwise := rfl

/-- A value is read from the first pair under its own key, and else from the remaining ones. -/
theorem readOr_cons (read : Content → Option α) (name : String) (key content : Content)
    (rest : List (Content × Content)) (otherwise : α) :
    readOr read name ((key, content) :: rest) otherwise =
      if key.text? = some name then (read content).getD otherwise
      else readOr read name rest otherwise := by
  unfold readOr
  split
  · next h => rw [given?_cons_self h, Option.bind_some]
  · next h => rw [given?_cons_of_ne h]

/-- Where nothing is given, the other value stands. -/
theorem readOr_of_none {read : Content → Option α} (h : given? name pairs = none) (otherwise : α) :
    readOr read name pairs otherwise = otherwise := by
  rw [readOr, h]
  rfl

/-- A value that is read from a first pair stands unless its key is given again. -/
theorem readOr_readOr (read : Content → Option α) (name : String)
    (h : ∀ name, key.text? = some name → given? name rest = none) (otherwise : α) :
    readOr read name rest (readOr read name [(key, content)] otherwise) =
      readOr read name ((key, content) :: rest) otherwise := by
  rw [readOr_cons, readOr_cons]
  split
  · next hkey => rw [readOr_of_none (h name hkey)]
  · rfl

/-- Where no two keys are the same, a pair is found wherever it stands. -/
theorem given?_eq_some_iff (h : (pairs.map fun pair => pair.1.text?).Nodup) :
    given? name pairs = some content ↔ ∃ key, key.text? = some name ∧ (key, content) ∈ pairs := by
  induction pairs with
  | nil => simp [given?]
  | cons pair rest ih =>
    obtain ⟨first, value⟩ := pair
    rw [List.map_cons, List.nodup_cons] at h
    by_cases hf : first.text? = some name
    · rw [given?_cons_self hf, Option.some.injEq]
      constructor
      · rintro rfl
        exact ⟨first, hf, List.mem_cons_self⟩
      · rintro ⟨key, hk, hmem⟩
        rcases List.mem_cons.mp hmem with heq | hmem
        · exact (congrArg Prod.snd heq).symm
        · refine absurd (List.mem_map.mpr ⟨_, hmem, ?_⟩) h.1
          exact hk.trans hf.symm
    · rw [given?_cons_of_ne hf, ih h.2]
      refine exists_congr fun key => and_congr_right fun hk => ?_
      rw [List.mem_cons, Prod.mk.injEq]
      constructor
      · exact .inr
      · rintro (⟨rfl, -⟩ | hmem)
        · exact absurd hk hf
        · exact hmem

/-- What is given under a name does not depend on the order of the pairs. -/
theorem given?_perm {other : List (Content × Content)} (hp : pairs.Perm other)
    (h : (pairs.map fun pair => pair.1.text?).Nodup) (name : String) :
    given? name pairs = given? name other := by
  have ho : (other.map fun pair => pair.1.text?).Nodup := (hp.map _).nodup_iff.mp h
  ext content
  rw [given?_eq_some_iff h, given?_eq_some_iff ho]
  exact exists_congr fun key => and_congr_right fun _ => hp.mem_iff

/-! ### The order of pairs -/

/-- The same content, or a mapping of the same pairs in another order. -/
inductive Content.Reorders : Content → Content → Prop
  | same {content : Content} : Reorders content content
  | mapping {pairs other : List (Content × Content)} (h : pairs.Perm other) :
      Reorders (.mapping pairs) (.mapping other)

namespace Content.Reorders

variable {new : Content}

/-- A mapping has no text in any order. -/
theorem text?_eq (h : content.Reorders new) : content.text? = new.text? := by cases h <;> rfl

/-- The same holds of a path. -/
theorem path?_eq (h : content.Reorders new) : content.path? = new.path? := by
  rw [Content.path?, Content.path?, h.text?_eq]

/-- A mapping spells no truth value in any order. -/
theorem truth?_eq (h : content.Reorders new) : content.truth? = new.truth? := by cases h <;> rfl

/-- A mapping has no texts in any order. -/
theorem texts?_eq (h : content.Reorders new) : content.texts? = new.texts? := by cases h <;> rfl

end Content.Reorders

/-- The same pairs in another order, with the pairs of a mapping that one of them gives perhaps in
another order too. -/
def Reordered (pairs other : List (Content × Content)) : Prop :=
  ∃ middle, pairs.Perm middle ∧
    List.Forall₂ (fun pair new => pair.1 = new.1 ∧ pair.2.Reorders new.2) middle other

namespace Reordered

variable {other : List (Content × Content)}

/-- Another order of the pairs alone. -/
theorem of_perm (h : pairs.Perm other) : Reordered pairs other :=
  ⟨other, h, List.forall₂_same.mpr fun _ _ => ⟨rfl, .same⟩⟩

private theorem perm_keys (h : Reordered pairs other) :
    (pairs.map fun pair => pair.1.text?).Perm (other.map fun pair => pair.1.text?) := by
  obtain ⟨middle, hp, hr⟩ := h
  refine (hp.map _).trans (.of_eq ?_)
  induction hr generalizing pairs with
  | nil => rfl
  | cons hpair _ ih =>
    rw [List.map_cons, List.map_cons, hpair.1, ih (.refl _)]

/-- Pairs are named in every order. -/
theorem named_iff (h : Reordered pairs other) {names : List String} :
    Named names pairs ↔ Named names other := by
  have hkeys : ∀ pairs, Named names pairs ↔
      (∀ key ∈ pairs.map fun pair => pair.1.text?, ∃ name ∈ names, key = some name) ∧
        (pairs.map fun pair => pair.1.text?).Nodup := by
    intro pairs
    rw [List.forall_mem_map]
    exact ⟨fun h => ⟨h.known, h.once⟩, fun h => ⟨h.1, h.2⟩⟩
  rw [hkeys, hkeys, h.perm_keys.nodup_iff]
  simp only [h.perm_keys.mem_iff]

/-- What is given under a name is the same up to the order of its own pairs. -/
theorem rel_given (h : Reordered pairs other) (honce : (pairs.map fun pair => pair.1.text?).Nodup)
    (name : String) : Option.Rel Content.Reorders (given? name pairs) (given? name other) := by
  obtain ⟨middle, hp, hr⟩ := h
  rw [given?_perm hp honce]
  clear hp honce
  induction hr with
  | nil => exact .none
  | @cons pair new rest others hpair _ ih =>
    obtain ⟨key, content⟩ := pair
    obtain ⟨newKey, newContent⟩ := new
    obtain ⟨rfl, hcontent⟩ : key = newKey ∧ content.Reorders newContent := hpair
    by_cases hkey : key.text? = some name
    · rw [given?_cons_self hkey, given?_cons_self hkey]
      exact .some hcontent
    · rw [given?_cons_of_ne hkey, given?_cons_of_ne hkey]
      exact ih

end Reordered

/-- What holds of a content in every order holds of what is given in every order. -/
theorem forall_given_iff {first second : Option Content} {P : Content → Prop}
    (h : Option.Rel Content.Reorders first second)
    (hP : ∀ {content new}, Content.Reorders content new → (P content ↔ P new)) :
    (∀ content, first = some content → P content) ↔
      ∀ content, second = some content → P content := by
  cases h with
  | none => rfl
  | some hr => simpa using hP hr

/-- What is read alike from a content in every order is read alike from what is given. -/
theorem readOr_eq {other : List (Content × Content)} {read : Content → Option α}
    (h : Option.Rel Content.Reorders (given? name pairs) (given? name other))
    (hread : ∀ {content new}, given? name pairs = some content → Content.Reorders content new →
      read content = read new) (otherwise : α) :
    readOr read name pairs otherwise = readOr read name other otherwise := by
  unfold readOr
  generalize given? name pairs = first, given? name other = second at h hread
  cases h with
  | none => rfl
  | some hr => rw [Option.bind_some, Option.bind_some, hread rfl hr]

end LocaleRelay.Yaml

namespace LocaleRelay.Decode

open Yaml

variable {φ ρ : Type} {schema : Schema φ ρ} {accepts : φ → Content → Prop}
  {overlay : ρ → List (Content × Content) → ρ} {document : Document} {path : NodePath}

/-! ### Reading a record -/

/-- How the fields of a record are read: each accepts some contents, and is set to what is given
under its name and to nothing else. What a first pair gives stands unless its key is given again. -/
structure Schema.Reads (schema : Schema φ ρ) (accepts : φ → Content → Prop)
    (overlay : ρ → List (Content × Content) → ρ) : Prop where
  name_injective : Function.Injective schema.name
  complete : ∀ field, field ∈ schema.fields
  assign_eq_ok_iff : ∀ {document path field tree key content record changed},
    Tree.Says tree content → Content.text? key = some (schema.name field) →
      (schema.assign document path field tree record = .ok changed ↔
        accepts field content ∧ overlay record [(key, content)] = changed)
  overlay_nil : ∀ record, overlay record [] = record
  overlay_cons : ∀ {record key content rest},
    (∀ name, Content.text? key = some name → given? name rest = none) →
      overlay (overlay record [(key, content)]) rest = overlay record ((key, content) :: rest)

/-- Pairs that name fields, none twice and none that was given before, each with a content that its
field accepts. -/
structure Schema.Admits (schema : Schema φ ρ) (accepts : φ → Content → Prop) (before : List φ)
    (pairs : List (Content × Content)) : Prop where
  named : Named (schema.fields.map schema.name) pairs
  fresh : ∀ field ∈ before, given? (schema.name field) pairs = none
  accepted : ∀ field content, given? (schema.name field) pairs = some content →
    accepts field content

/-- Whether pairs are admitted does not depend on their order, where it does not for the fields. -/
theorem Schema.admits_reordered {pairs other : List (Content × Content)} (h : Reordered pairs other)
    (haccepts : ∀ {field content new}, Content.Reorders content new →
      (accepts field content ↔ accepts field new)) :
    schema.Admits accepts [] pairs ↔ schema.Admits accepts [] other := by
  have hadmits : ∀ pairs, schema.Admits accepts [] pairs ↔
      Named (schema.fields.map schema.name) pairs ∧ ∀ field content,
        given? (schema.name field) pairs = some content → accepts field content := by
    intro pairs
    exact ⟨fun h => ⟨h.named, h.accepted⟩, fun h => ⟨h.1, by simp, h.2⟩⟩
  rw [hadmits, hadmits, ← h.named_iff]
  refine and_congr_right fun hn => forall_congr' fun field => ?_
  exact forall_given_iff (h.rel_given hn.once _) haccepts

/-- A key names a field if it is its name. -/
theorem fieldOf_eq_ok_iff (h : schema.Reads accepts overlay) {tree : Tree} {key : Content}
    (hk : tree.Says key) {field : φ} :
    fieldOf schema document path tree = .ok field ↔ key.text? = some (schema.name field) := by
  rw [fieldOf, bind_eq_ok_iff]
  simp only [text_eq_ok_iff hk]
  constructor
  · rintro ⟨name, hname, hfound⟩
    split at hfound
    · next found hfind =>
      cases hfound
      have hsame : schema.name field = name := by simpa using List.find?_some hfind
      rw [hname, hsame]
    · cases hfound
  · intro hname
    refine ⟨_, hname, ?_⟩
    have hfind : schema.fields.find? (fun other => schema.name other = schema.name field) =
        some field := by
      cases hfound : schema.fields.find? (fun other => schema.name other = schema.name field) with
      | none =>
        rw [List.find?_eq_none] at hfound
        exact absurd (decide_eq_true rfl) (hfound field (h.complete field))
      | some other =>
        have hsame : schema.name other = schema.name field := by simpa using List.find?_some hfound
        rw [h.name_injective hsame]
    rw [hfind]

private theorem given?_cons_of_field (h : schema.Reads accepts overlay) {field other : φ}
    {key content : Content} {rest : List (Content × Content)}
    (hkey : key.text? = some (schema.name field)) (hne : other ≠ field) :
    given? (schema.name other) ((key, content) :: rest) = given? (schema.name other) rest := by
  refine given?_cons_of_ne fun hsame => hne ?_
  exact h.name_injective (Option.some.inj (hsame.symm.trans hkey))

/-- Pairs are admitted if the first one names a field that was not given before and accepts its
content, and the others are admitted after it. -/
theorem Schema.Reads.admits_cons_iff (h : schema.Reads accepts overlay) {before : List φ}
    {key content : Content} {rest : List (Content × Content)} :
    schema.Admits accepts before ((key, content) :: rest) ↔
      ∃ field, key.text? = some (schema.name field) ∧ field ∉ before ∧ accepts field content ∧
        schema.Admits accepts (field :: before) rest := by
  constructor
  · intro hall
    obtain ⟨name, hname, hkey⟩ := hall.named.known _ List.mem_cons_self
    obtain ⟨field, -, rfl⟩ := List.mem_map.mp hname
    obtain ⟨hfirst, honce⟩ := List.nodup_cons.mp hall.named.once
    have hnone : given? (schema.name field) rest = none := by
      rw [given?_eq_none_iff]
      intro pair hmem hsame
      exact hfirst (List.mem_map.mpr ⟨pair, hmem, hsame.trans hkey.symm⟩)
    refine ⟨field, hkey, fun hmem => ?_, hall.accepted field content (given?_cons_self hkey), ?_⟩
    · have hfresh := hall.fresh field hmem
      rw [given?_cons_self hkey] at hfresh
      cases hfresh
    · refine ⟨⟨fun pair hmem => hall.named.known pair (List.mem_cons_of_mem _ hmem), honce⟩, ?_, ?_⟩
      · intro other hmem
        by_cases hne : other = field
        · rw [hne]
          exact hnone
        · rw [← given?_cons_of_field h hkey hne]
          exact hall.fresh other ((List.mem_cons.mp hmem).resolve_left hne)
      · intro other found hfound
        by_cases hne : other = field
        · rw [hne, hnone] at hfound
          cases hfound
        · rw [← given?_cons_of_field h hkey hne] at hfound
          exact hall.accepted other found hfound
  · rintro ⟨field, hkey, hnot, haccepts, hrest⟩
    have hnone := hrest.fresh field List.mem_cons_self
    refine ⟨⟨?_, ?_⟩, ?_, ?_⟩
    · refine List.forall_mem_cons.mpr ⟨⟨_, ?_, hkey⟩, hrest.named.known⟩
      exact List.mem_map_of_mem (h.complete field)
    · refine List.nodup_cons.mpr ⟨fun hmem => ?_, hrest.named.once⟩
      obtain ⟨pair, hpair, hsame⟩ := List.mem_map.mp hmem
      exact given?_eq_none_iff.mp hnone pair hpair (hsame.trans hkey)
    · intro other hmem
      rw [given?_cons_of_field h hkey fun heq => hnot (heq ▸ hmem)]
      exact hrest.fresh other (List.mem_cons_of_mem _ hmem)
    · intro other found hfound
      by_cases hne : other = field
      · rw [hne, given?_cons_self hkey, Option.some.injEq] at hfound
        rw [hne, ← hfound]
        exact haccepts
      · rw [given?_cons_of_field h hkey hne] at hfound
        exact hrest.accepted other found hfound

/-- A record is read from pairs if they are admitted, and then has what they give. -/
theorem Schema.Reads.assignAll_eq_ok_iff [DecidableEq φ] (h : schema.Reads accepts overlay)
    {trees : List (Tree × Tree)} {pairs : List (Content × Content)} (hs : SayPairs trees pairs)
    {mark : Mark} {before : List φ} {record result : ρ} :
    assignAll schema document path mark before record trees = .ok result ↔
      schema.Admits accepts before pairs ∧ overlay record pairs = result := by
  -- With each pair the fields given before grow, and the record holds what the pair gave.
  induction hs generalizing before record with
  | nil =>
    have hnil : schema.Admits accepts before [] :=
      ⟨⟨by simp, by simp⟩, fun _ _ => rfl, fun _ _ hfound => by cases hfound⟩
    rw [assignAll, h.overlay_nil, Except.ok.injEq]
    exact ⟨fun heq => ⟨hnil, heq⟩, And.right⟩
  | @cons tree pair trees pairs hpair _ ih =>
    obtain ⟨key, content⟩ := pair
    obtain ⟨hkey, hvalue⟩ := hpair
    rw [assignAll, bind_eq_ok_iff, h.admits_cons_iff]
    have hfresh : ∀ {field}, key.text? = some (schema.name field) →
        schema.Admits accepts (field :: before) pairs →
          ∀ name, key.text? = some name → given? name pairs = none := by
      intro field hname hadmits name hother
      rw [← Option.some.inj (hname.symm.trans hother)]
      exact hadmits.fresh field List.mem_cons_self
    constructor
    · rintro ⟨field, hfield, hassign⟩
      have hname := (fieldOf_eq_ok_iff h hkey).mp hfield
      split at hassign
      · cases hassign
      · next hnot =>
        obtain ⟨changed, hchanged, hrest⟩ := bind_eq_ok_iff.mp hassign
        obtain ⟨haccepts, rfl⟩ := (h.assign_eq_ok_iff hvalue hname).mp hchanged
        obtain ⟨hadmits, hresult⟩ := ih.mp hrest
        refine ⟨⟨field, hname, hnot, haccepts, hadmits⟩, ?_⟩
        rw [← h.overlay_cons (hfresh hname hadmits), hresult]
    · rintro ⟨⟨field, hname, hnot, haccepts, hadmits⟩, hresult⟩
      refine ⟨field, (fieldOf_eq_ok_iff h hkey).mpr hname, ?_⟩
      rw [if_neg hnot]
      refine bind_eq_ok_iff.mpr
        ⟨_, (h.assign_eq_ok_iff hvalue hname).mpr ⟨haccepts, rfl⟩, ih.mpr ⟨hadmits, ?_⟩⟩
      rw [h.overlay_cons (hfresh hname hadmits), hresult]

/-- A record is read from a node if its pairs are admitted. -/
theorem Schema.Reads.record_eq_ok_iff [DecidableEq φ] (h : schema.Reads accepts overlay)
    {tree : Tree} {content : Content} (hs : tree.Says content) {expected : Expected}
    {record result : ρ} :
    (do
      let (mark, pairs) ← Decode.pairs document path expected tree
      assignAll schema document path mark [] record pairs) = .ok result ↔
      ∃ pairs, content.pairs? = some pairs ∧ schema.Admits accepts [] pairs ∧
        overlay record pairs = result := by
  rw [bind_eq_ok_iff]
  cases hpairs : content.pairs? with
  | none =>
    obtain ⟨failure, hfailure⟩ := pairs_of_none hs hpairs document path expected
    simp [hfailure]
  | some pairs =>
    obtain ⟨mark, trees, htrees, hsay⟩ := pairs_of_some hs hpairs document path expected
    rw [htrees]
    simp only [Except.ok.injEq, exists_eq_left', Option.some.injEq]
    exact h.assignAll_eq_ok_iff hsay

end LocaleRelay.Decode
