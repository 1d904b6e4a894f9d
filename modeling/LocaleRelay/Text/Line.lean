/-!
# Beginnings and lines

What follows a given beginning of a text, and the first line of a text. A line feed ends a line; a
carriage return right before the line feed belongs to the end of the line, anywhere else it is a
character like any other.
-/

namespace LocaleRelay.Text

/-- What follows a beginning of a text. -/
def after? : List Char → List Char → Option (List Char)
  | [], rest => some rest
  | _ :: _, [] => none
  | c :: begun, d :: rest => if c = d then after? begun rest else none

/-- The characters before the first line feed, and whether there is one. -/
def splitLine (text : List Char) : List Char × Bool :=
  (text.takeWhile (· ≠ '\n'), text.contains '\n')

/-- A line without the carriage return at its end. -/
def dropReturn (line : List Char) : List Char :=
  if line.getLast? = some '\r' then line.dropLast else line

/-- The first line of a text. -/
def firstLine (text : List Char) : List Char :=
  let (line, ended) := splitLine text
  if ended then dropReturn line else line

/-- A text has something after a beginning exactly when it is the two put together. -/
theorem after?_eq_some_iff {begun text rest : List Char} :
    after? begun text = some rest ↔ text = begun ++ rest := by
  induction begun generalizing text with
  | nil => simp [after?]
  | cons c begun ih =>
    cases text with
    | nil => simp [after?]
    | cons d text =>
      by_cases h : c = d
      · simp [after?, h, ih]
      · simp [after?, h, Ne.symm h]

/-- A line feed ends the first line whatever follows it. -/
theorem splitLine_append (line rest : List Char) (h : '\n' ∉ line) :
    splitLine (line ++ '\n' :: rest) = (line, true) := by
  have whole : (line ++ '\n' :: rest).takeWhile (· ≠ '\n') = line := by
    rw [List.takeWhile_append_of_pos]
    · simp
    · intro c hc
      simpa using fun e : c = '\n' => h (e ▸ hc)
  rw [splitLine, whole]
  simp

/-- After a line feed a text may go on in any way with the same first line. -/
theorem firstLine_append {text : List Char} (h : '\n' ∈ text) (rest : List Char) :
    firstLine (text ++ rest) = firstLine text := by
  obtain ⟨line, more, rfl, hline⟩ := List.eq_append_cons_of_mem h
  rw [List.append_assoc, List.cons_append, firstLine, firstLine, splitLine_append _ _ hline,
    splitLine_append _ _ hline]

end LocaleRelay.Text
