import LocaleRelay.Report
import Mathlib.Data.List.TakeWhile

/-!
# The commit that a report names

The first line of a report names a commit, if it begins with the label. A line feed ends the line,
and one carriage return before the line feed goes with it. So the commit is read back from its
header if it has no line feed and no carriage return at its end; else it is cut there, and in no
case does it matter what follows the header.
-/

namespace LocaleRelay

namespace Text

/-! ### First lines -/

variable {text line piece begun : List Char}

/-- A line without the return at its end is the line itself, or the line had one return more. -/
theorem dropReturn_eq_iff :
    dropReturn line = piece ↔
      (line = piece ∧ piece.getLast? ≠ some '\r') ∨ line = piece ++ ['\r'] := by
  rw [dropReturn]
  by_cases h : line.getLast? = some '\r'
  · rw [if_pos h]
    obtain ⟨front, rfl⟩ := List.getLast?_eq_some_iff.mp h
    rw [List.dropLast_concat, List.append_left_inj]
    constructor
    · exact fun hfront => .inr hfront
    · rintro (⟨rfl, hno⟩ | hfront)
      · exact absurd h hno
      · exact hfront
  · rw [if_neg h]
    constructor
    · rintro rfl
      exact .inl ⟨rfl, h⟩
    · rintro (⟨rfl, -⟩ | rfl)
      · rfl
      · exact absurd List.getLast?_concat h

/-- The return at the end of a line stays out of what the line begins with. -/
theorem dropReturn_append (h : begun.getLast? ≠ some '\r') :
    dropReturn (begun ++ line) = begun ++ dropReturn line := by
  have hline := dropReturn_eq_iff.mp (rfl : dropReturn line = dropReturn line)
  rw [dropReturn_eq_iff]
  rcases hline with ⟨hsame, hno⟩ | hmore
  · left
    rw [← hsame] at hno ⊢
    refine ⟨rfl, ?_⟩
    rw [List.getLast?_append]
    cases hlast : line.getLast? with
    | none => exact h
    | some c => exact fun hc => hno (hlast.trans hc)
  · right
    rw [List.append_assoc, ← hmore]

/-- Up to a line feed that it does not have, a text is whole. -/
theorem takeWhile_of_not_mem (h : '\n' ∉ text) : text.takeWhile (· ≠ '\n') = text := by
  rw [List.takeWhile_eq_self_iff]
  intro c hc
  simpa using fun e : c = '\n' => h (e ▸ hc)

/-- Up to its first line feed, a text has none. -/
theorem not_mem_takeWhile (text : List Char) : '\n' ∉ text.takeWhile (· ≠ '\n') := by
  intro hmem
  simpa using List.mem_takeWhile_imp hmem

/-- A text that goes on with a line feed has its first one there or before. -/
theorem exists_eq_takeWhile_append (text more : List Char) :
    ∃ rest, text ++ '\n' :: more = text.takeWhile (· ≠ '\n') ++ '\n' :: rest := by
  induction text with
  | nil => exact ⟨more, rfl⟩
  | cons c text ih =>
    by_cases h : c = '\n'
    · exact ⟨text ++ '\n' :: more, by simp [h]⟩
    · obtain ⟨rest, hrest⟩ := ih
      exact ⟨rest, by simp [h, hrest]⟩

/-- A text without a line feed is its own first line. -/
theorem firstLine_of_not_mem (h : '\n' ∉ text) : firstLine text = text := by
  have hends : text.contains '\n' = false := by simpa using h
  simp only [firstLine, splitLine, hends, takeWhile_of_not_mem h, Bool.false_eq_true, if_false]

/-- The first line of a text with a line feed is what comes before the first of them. -/
theorem firstLine_line (h : '\n' ∉ line) (rest : List Char) :
    firstLine (line ++ '\n' :: rest) = dropReturn line := by
  rw [firstLine, splitLine_append line rest h]
  rfl

/-- A first line has no line feed. It is the whole text, or a line feed follows it, or a carriage
return and a line feed; only in the second case may no return be at its own end. -/
theorem firstLine_eq_iff :
    firstLine text = line ↔ '\n' ∉ line ∧
      (text = line ∨ (∃ rest, text = line ++ '\n' :: rest ∧ line.getLast? ≠ some '\r') ∨
        ∃ rest, text = line ++ '\r' :: '\n' :: rest) := by
  constructor
  · intro h
    by_cases hended : '\n' ∈ text
    · obtain ⟨whole, rest, rfl, hwhole⟩ := List.eq_append_cons_of_mem hended
      rw [firstLine_line hwhole, dropReturn_eq_iff] at h
      rcases h with ⟨rfl, hno⟩ | rfl
      · exact ⟨hwhole, .inr (.inl ⟨rest, rfl, hno⟩)⟩
      · refine ⟨fun hmem => hwhole (List.mem_append_left _ hmem), .inr (.inr ⟨rest, ?_⟩)⟩
        rw [List.append_assoc, List.singleton_append]
    · rw [firstLine_of_not_mem hended] at h
      exact ⟨h ▸ hended, .inl h⟩
  · rintro ⟨hline, rfl | ⟨rest, rfl, hno⟩ | ⟨rest, rfl⟩⟩
    · exact firstLine_of_not_mem hline
    · rw [firstLine_line hline, dropReturn_eq_iff]
      exact .inl ⟨rfl, hno⟩
    · have hreturn : '\n' ∉ line ++ ['\r'] := by simpa using hline
      rw [List.append_cons, firstLine_line hreturn, dropReturn_eq_iff]
      exact .inr rfl

end Text

namespace Report

/-! ### Reading a header back -/

/-- The part of a commit that fits on a line: what comes before its first line feed, without a
carriage return at the end. -/
def onOneLine (commit : String) : String :=
  String.ofList (Text.dropReturn (commit.toList.takeWhile (· ≠ '\n')))

private theorem getLast?_label : label.toList.getLast? ≠ some '\r' := by decide

private theorem newline_not_mem_label : '\n' ∉ label.toList := by decide

/-- A report names a commit if its first line is the label and the commit. -/
theorem recordedCommit?_eq_some_iff {content commit : String} :
    recordedCommit? content = some commit ↔
      Text.firstLine content.toList = label.toList ++ commit.toList := by
  rw [recordedCommit?, Option.map_eq_some_iff]
  constructor
  · rintro ⟨rest, hrest, rfl⟩
    rw [String.toList_ofList]
    exact Text.after?_eq_some_iff.mp hrest
  · intro h
    exact ⟨commit.toList, Text.after?_eq_some_iff.mpr h, String.ofList_toList⟩

/-- The first line after a header was written is the label and the part of the commit that fits on
a line, whatever follows. -/
theorem firstLine_header (commit output : String) :
    Text.firstLine (header commit ++ output).toList =
      label.toList ++ (onOneLine commit).toList := by
  obtain ⟨rest, hrest⟩ := Text.exists_eq_takeWhile_append commit.toList ('\n' :: output.toList)
  have hline : '\n' ∉ label.toList ++ commit.toList.takeWhile (· ≠ '\n') := by
    rw [List.mem_append, not_or]
    exact ⟨newline_not_mem_label, Text.not_mem_takeWhile _⟩
  have htext : (header commit ++ output).toList =
      (label.toList ++ commit.toList.takeWhile (· ≠ '\n')) ++ '\n' :: rest := by
    rw [List.append_assoc, ← hrest]
    simp [header]
  rw [htext, Text.firstLine_line hline, Text.dropReturn_append getLast?_label, onOneLine,
    String.toList_ofList]

/-- A report that was begun names the part of its commit that fits on a line, whatever follows. -/
theorem recordedCommit?_header (commit output : String) :
    recordedCommit? (header commit ++ output) = some (onOneLine commit) :=
  recordedCommit?_eq_some_iff.mpr (firstLine_header commit output)

/-- A commit fits on a line if it has no line feed and no carriage return at its end. -/
theorem onOneLine_eq_self_iff {commit : String} :
    onOneLine commit = commit ↔
      '\n' ∉ commit.toList ∧ commit.toList.getLast? ≠ some '\r' := by
  rw [onOneLine, ← String.toList_inj, String.toList_ofList, Text.dropReturn_eq_iff]
  constructor
  · rintro (⟨hwhole, hno⟩ | hmore)
    · exact ⟨hwhole ▸ Text.not_mem_takeWhile commit.toList, hno⟩
    · -- A beginning of the commit is not longer than the commit.
      have hlength := (List.takeWhile_sublist (l := commit.toList) (· ≠ '\n')).length_le
      rw [hmore, List.length_append, List.length_singleton] at hlength
      omega
  · rintro ⟨hline, hno⟩
    exact .inl ⟨Text.takeWhile_of_not_mem hline, hno⟩

private theorem exists_toList_eq_iff {content words : String} (ending : String) :
    (∃ rest, content.toList = words.toList ++ (ending.toList ++ rest)) ↔
      ∃ more, content = words ++ ending ++ more := by
  constructor
  · rintro ⟨rest, hrest⟩
    refine ⟨String.ofList rest, ?_⟩
    rw [← String.toList_inj, hrest]
    simp
  · rintro ⟨more, rfl⟩
    exact ⟨more.toList, by simp⟩

/-- The contents that name a commit are those that begin with the label and the commit and go on
with the end of the line, if at all. From a header with anything after it the commit is read back if
it fits on a line; else the part of it is read that does. -/
theorem recordedCommit?_reads_header :
    (∀ content commit : String, recordedCommit? content = some commit ↔
      '\n' ∉ commit.toList ∧ (content = label ++ commit ∨
        (∃ more, content = label ++ commit ++ "\n" ++ more ∧
          commit.toList.getLast? ≠ some '\r') ∨
        ∃ more, content = label ++ commit ++ "\r\n" ++ more)) ∧
    ∀ commit output : String,
      recordedCommit? (header commit ++ output) = some (onOneLine commit) ∧
      (recordedCommit? (header commit ++ output) = some commit ↔
        '\n' ∉ commit.toList ∧ commit.toList.getLast? ≠ some '\r') := by
  constructor
  · intro content commit
    have hline : '\n' ∉ label.toList ++ commit.toList ↔ '\n' ∉ commit.toList := by
      simp [newline_not_mem_label]
    have hreturn : (label.toList ++ commit.toList).getLast? ≠ some '\r' ↔
        commit.toList.getLast? ≠ some '\r' := by
      rw [List.getLast?_append]
      cases commit.toList.getLast? with
      | none => simp [getLast?_label]
      | some c => simp
    have hwhole : content.toList = label.toList ++ commit.toList ↔ content = label ++ commit := by
      rw [← String.toList_append, String.toList_inj]
    have hended : (∃ rest, content.toList = (label ++ commit).toList ++ '\n' :: rest) ↔
        ∃ more, content = label ++ commit ++ "\n" ++ more := exists_toList_eq_iff "\n"
    have hreturned : (∃ rest, content.toList = (label ++ commit).toList ++ '\r' :: '\n' :: rest) ↔
        ∃ more, content = label ++ commit ++ "\r\n" ++ more := exists_toList_eq_iff "\r\n"
    rw [recordedCommit?_eq_some_iff, Text.firstLine_eq_iff, hline, hreturn, hwhole,
      ← String.toList_append, exists_and_right, exists_and_right, hended, hreturned]
  · intro commit output
    rw [recordedCommit?_header]
    exact ⟨rfl, Option.some_inj.trans onOneLine_eq_self_iff⟩

/-- A carriage return at the end of a report ends no line. -/
example : recordedCommit? "l10n git hash: 4f1c\r" = some "4f1c\r" := by cbv

end Report

end LocaleRelay
