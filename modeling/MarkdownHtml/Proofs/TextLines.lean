import MarkdownHtml.Text.Space

/-! Lines that are written one after another are read back as they are, as long as no line holds a newline or ends
with the carriage return that belongs to a line ending. -/

namespace MarkdownHtml.Text

/-- A line that reading gives back as it was written. -/
def Unbroken (line : List Char) : Prop := '\n' ∉ line ∧ line.getLast? ≠ some '\r'

/-- Lines with a newline behind each of them. -/
def unlines (lines : List (List Char)) : List Char := lines.flatMap fun line => line ++ ['\n']

private theorem linesFrom_append (read line rest : List Char) (whole : '\n' ∉ line) :
    linesFrom read (line ++ rest) = linesFrom (line.reverse ++ read) rest := by
  induction line generalizing read with
  | nil => rfl
  | cons c line ih =>
    obtain ⟨other, whole⟩ := List.ne_and_not_mem_of_not_mem_cons whole
    have step : linesFrom read (c :: (line ++ rest)) = linesFrom (c :: read) (line ++ rest) := by
      rw [linesFrom]
      exact fun same => other same.symm
    rw [List.cons_append, step, ih (c :: read) whole, List.reverse_cons, List.append_assoc]
    rfl

private theorem lines_cons {line : List Char} (unbroken : Unbroken line) (rest : List Char) :
    lines (line ++ '\n' :: rest) = line :: lines rest := by
  obtain ⟨whole, noReturn⟩ := unbroken
  rw [List.getLast?_eq_head?_reverse] at noReturn
  rw [lines, linesFrom_append _ _ _ whole, List.append_nil, linesFrom, List.reverse_reverse]
  · rfl
  · intro read same
    apply noReturn
    rw [same]
    rfl

theorem lines_unlines_append {written : List (List Char)} (unbroken : ∀ line ∈ written, Unbroken line)
    (rest : List Char) : lines (unlines written ++ rest) = written ++ lines rest := by
  induction written with
  | nil => rfl
  | cons line written ih =>
    obtain ⟨here, later⟩ := List.forall_mem_cons.mp unbroken
    have first : unlines (line :: written) ++ rest = line ++ '\n' :: (unlines written ++ rest) := by
      simp [unlines]
    rw [first, lines_cons here, ih later, List.cons_append]

theorem head?_lines {line rest : List Char} (unbroken : Unbroken line) (some_ : line ≠ [])
    (ends : ∀ c ∈ rest.head?, c = '\n') : (lines (line ++ rest)).head? = some line := by
  cases rest with
  | nil =>
    rw [lines, linesFrom_append _ _ _ unbroken.1, List.append_nil, linesFrom, if_neg (by simpa using some_),
      List.reverse_reverse]
    rfl
  | cons c rest =>
    obtain rfl := ends c rfl
    rw [lines_cons unbroken]
    rfl

theorem trim_cons_of_space {c : Char} (space : isSpace c) (text : List Char) : trim (c :: text) = trim text := by
  rw [trim, trimStart, List.dropWhile_cons_of_pos space]
  rfl

theorem trimStart_of_head? {text : List Char} (solid : ∀ c ∈ text.head?, isSpace c = false) : trimStart text = text := by
  cases text with
  | nil => rfl
  | cons c text =>
    rw [trimStart, List.dropWhile_cons_of_neg]
    exact Bool.eq_false_iff.mp (solid c rfl)

theorem trim_enclosed {mark : Char} (solid : isSpace mark = false) (inner : List Char) :
    trim (mark :: (inner ++ [mark])) = mark :: (inner ++ [mark]) := by
  have stays : ¬ isSpace mark = true := Bool.eq_false_iff.mp solid
  rw [trim, trimStart, List.dropWhile_cons_of_neg stays, trimEnd, dropEndWhile, ← List.cons_append, List.reverse_concat,
    List.dropWhile_cons_of_neg stays, ← List.reverse_concat, List.reverse_reverse]

end MarkdownHtml.Text
