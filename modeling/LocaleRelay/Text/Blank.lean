/-!
# White space

The characters with the Unicode property White_Space, and the removal of them at both ends of a
text. Line breaks, the no-break space and the spaces of general punctuation are white space; the
zero-width space is not.
-/

namespace LocaleRelay.Text

/-- Whether a character is Unicode white space. -/
def isBlank (c : Char) : Bool :=
  let code := c.toNat
  (0x09 ≤ code && code ≤ 0x0d) || code == 0x20 || code == 0x85 || code == 0xa0 ||
    code == 0x1680 || (0x2000 ≤ code && code ≤ 0x200a) || code == 0x2028 || code == 0x2029 ||
    code == 0x202f || code == 0x205f || code == 0x3000

/-- The characters without the white space at their two ends. -/
def trimChars (cs : List Char) : List Char :=
  ((cs.dropWhile isBlank).reverse.dropWhile isBlank).reverse

/-- The text without the white space at its two ends. -/
def trim (s : String) : String := String.ofList (trimChars s.toList)

/-- Whether a text holds nothing but white space. -/
def isBlankText (s : String) : Bool := s.toList.all isBlank

private theorem dropWhile_eq_nil {cs : List Char} :
    cs.dropWhile isBlank = [] ↔ ∀ c ∈ cs, isBlank c = true := by
  induction cs with
  | nil => simp
  | cons c cs ih =>
    by_cases h : isBlank c = true
    · simp [h, ih]
    · simp [h]

/-- Trimming leaves nothing exactly of a text of white space alone. -/
theorem trimChars_eq_nil_iff {cs : List Char} :
    trimChars cs = [] ↔ ∀ c ∈ cs, isBlank c = true := by
  constructor
  · intro h c hc
    have hd : ∀ d ∈ cs.dropWhile isBlank, isBlank d = true := by
      have := dropWhile_eq_nil.mp (List.reverse_eq_nil_iff.mp h)
      simpa using this
    rw [← List.takeWhile_append_dropWhile (p := isBlank) (l := cs)] at hc
    rcases List.mem_append.mp hc with h' | h'
    · exact List.all_eq_true.mp (List.all_takeWhile (p := isBlank) (l := cs)) c h'
    · exact hd c h'
  · intro h
    simp [trimChars, dropWhile_eq_nil.mpr h]

/-- A text is empty once it is trimmed exactly if it holds nothing but white space. -/
theorem trim_eq_empty_iff {s : String} : trim s = "" ↔ isBlankText s = true := by
  rw [trim, isBlankText, List.all_eq_true, ← trimChars_eq_nil_iff, ← String.toList_inj]
  simp

/-! ### Trimmed texts -/

/-- What is left of a text when the white space around it goes: nothing but white space is gone, and
none is left at the two ends. -/
structure Trimmed (text rest : String) : Prop where
  around : ∃ before after, text = before ++ rest ++ after ∧ isBlankText before = true ∧
    isBlankText after = true
  first : ∀ c, rest.toList.head? = some c → isBlank c = false
  last : ∀ c, rest.toList.getLast? = some c → isBlank c = false

private theorem dropWhile_append {before rest : List Char} (hb : ∀ c ∈ before, isBlank c = true)
    (hr : ∀ c, rest.head? = some c → isBlank c = false) :
    (before ++ rest).dropWhile isBlank = rest := by
  rw [List.dropWhile_append_of_pos hb]
  cases rest with
  | nil => rfl
  | cons c rest => rw [List.dropWhile_cons_of_neg (by simp [hr c rfl])]

private theorem trimChars_append {before rest after : List Char}
    (hb : ∀ c ∈ before, isBlank c = true) (ha : ∀ c ∈ after, isBlank c = true)
    (hfirst : ∀ c, rest.head? = some c → isBlank c = false)
    (hlast : ∀ c, rest.getLast? = some c → isBlank c = false) :
    trimChars (before ++ rest ++ after) = rest := by
  by_cases hrest : rest = []
  · subst hrest
    rw [trimChars_eq_nil_iff]
    intro c hc
    rcases List.mem_append.mp hc with h | h
    · exact hb c (by simpa using h)
    · exact ha c h
  · have hhead : ∀ c, (rest ++ after).head? = some c → isBlank c = false := by
      intro c hc
      rw [List.head?_append, Option.or_of_isSome (by simpa using hrest)] at hc
      exact hfirst c hc
    have hend : ∀ c, rest.reverse.head? = some c → isBlank c = false := by
      intro c hc
      rw [List.head?_reverse] at hc
      exact hlast c hc
    rw [trimChars, List.append_assoc, dropWhile_append hb hhead, List.reverse_append,
      dropWhile_append (by simpa using ha) hend, List.reverse_reverse]

private theorem isBlank_of_head?_dropWhile {cs : List Char} {c : Char}
    (h : (cs.dropWhile isBlank).head? = some c) : isBlank c = false := by
  have hfirst := List.head?_dropWhile_not isBlank cs
  rw [h] at hfirst
  exact hfirst

/-- Trimming leaves of a text what is left without the white space around it. -/
theorem trimmed_trim (text : String) : Trimmed text (trim text) := by
  have hcut := List.takeWhile_append_dropWhile (p := isBlank) (l := text.toList)
  generalize hmid : text.toList.dropWhile isBlank = mid at hcut
  have hmidcut := List.takeWhile_append_dropWhile (p := isBlank) (l := mid.reverse)
  have htrim : (trim text).toList = (mid.reverse.dropWhile isBlank).reverse := by
    rw [trim, String.toList_ofList, trimChars, hmid]
  have hrest : mid = (trim text).toList ++ (mid.reverse.takeWhile isBlank).reverse := by
    rw [htrim, ← List.reverse_append, hmidcut, List.reverse_reverse]
  constructor
  case around =>
    refine ⟨.ofList (text.toList.takeWhile isBlank),
      .ofList (mid.reverse.takeWhile isBlank).reverse, ?_, ?_, ?_⟩
    · rw [← String.toList_inj, String.toList_append, String.toList_append, String.toList_ofList,
        String.toList_ofList, List.append_assoc, ← hrest, hcut]
    · rw [isBlankText, String.toList_ofList, List.all_takeWhile]
    · rw [isBlankText, String.toList_ofList, List.all_reverse, List.all_takeWhile]
  case first =>
    intro c hc
    have hhead : mid.head? = some c := by rw [hrest, List.head?_append, hc, Option.some_or]
    rw [← hmid] at hhead
    exact isBlank_of_head?_dropWhile hhead
  case last =>
    intro c hc
    rw [htrim, List.getLast?_reverse] at hc
    exact isBlank_of_head?_dropWhile hc

/-- What is left of a text without the white space around it is the trimmed text. -/
theorem trimmed_iff {text rest : String} : Trimmed text rest ↔ trim text = rest := by
  constructor
  · rintro ⟨⟨before, after, rfl, hbefore, hafter⟩, hfirst, hlast⟩
    rw [isBlankText, List.all_eq_true] at hbefore hafter
    rw [← String.toList_inj, trim, String.toList_ofList, String.toList_append, String.toList_append]
    exact trimChars_append hbefore hafter hfirst hlast
  · rintro rfl
    exact trimmed_trim text

/-- A text leaves one thing without the white space around it. -/
theorem Trimmed.unique {text rest other : String} (h : Trimmed text rest)
    (h' : Trimmed text other) : rest = other :=
  (trimmed_iff.mp h).symm.trans (trimmed_iff.mp h')

end LocaleRelay.Text
