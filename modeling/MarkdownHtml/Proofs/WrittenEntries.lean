import MarkdownHtml.FrontMatter
import MarkdownHtml.Proofs.TextLines
import Mathlib.Data.List.Basic
import Mathlib.Data.List.TakeWhile

/-! Front matter that is written entry by entry and read back. The first line of an entry ends whatever was open
before it, and none of its further lines ends the entry. So an entry is read in the same way behind any other ones. -/

namespace MarkdownHtml.FrontMatter
open Text

inductive Quote
  | single | double
  deriving DecidableEq, Repr

namespace Quote

def mark : Quote → Char
  | single => '\''
  | double => '"'

/-- How a character is written between two marks. -/
def escape : Quote → Char → List Char
  | single, c => if c = '\'' then ['\'', '\''] else [c]
  | double, c => if c = '\\' ∨ c = '"' then ['\\', c] else [c]

def write (quote : Quote) (value : String) : List Char :=
  quote.mark :: (value.toList.flatMap quote.escape ++ [quote.mark])

end Quote

/-- An item of a list, with the number of spaces before its dash beyond the first one. -/
structure WrittenItem where
  further : Nat
  quote : Quote
  value : String

/-- The forms of an entry. -/
inductive Form
  | scalar (quote : Quote) (value : String)
  | list (items : List WrittenItem)
  | literal (lines : List String)

structure WrittenEntry where
  key : String
  form : Form

def WrittenItem.line (item : WrittenItem) : List Char :=
  List.replicate (item.further + 1) ' ' ++ '-' :: ' ' :: item.quote.write item.value

/-- A line of a literal block. An empty one is not indented. -/
def literalLine (line : String) : List Char := if line = "" then [] else ' ' :: ' ' :: line.toList

namespace WrittenEntry

def lines (entry : WrittenEntry) : List (List Char) :=
  let key := entry.key.toList
  match entry.form with
  | .scalar quote value => [key ++ ':' :: ' ' :: quote.write value]
  | .list items => (key ++ [':']) :: items.map WrittenItem.line
  | .literal lines => (key ++ [':', ' ', '|']) :: lines.map literalLine

/-- What an entry says. -/
def entry (entry : WrittenEntry) : Entry where
  key := entry.key
  values := match entry.form with
    | .scalar _ value => [value]
    | .list items => items.map WrittenItem.value
    | .literal lines => ["\n".intercalate lines]

end WrittenEntry

/-- The characters of keys. -/
def KeyLetter (c : Char) : Prop :=
  ('A' ≤ c ∧ c ≤ 'Z') ∨ ('a' ≤ c ∧ c ≤ 'z') ∨ ('0' ≤ c ∧ c ≤ '9') ∨ c = '.' ∨ c = '_' ∨ c = '-'

/-- A line that a literal block can hold. -/
def LiteralText (line : String) : Prop :=
  '\n' ∉ line.toList ∧ (∀ c ∈ line.toList.head?, isSpace c = false) ∧ line.toList.getLast? ≠ some '\r'

/-- What the form of an entry can hold. -/
def Form.Proper : Form → Prop
  | scalar _ value => '\n' ∉ value.toList
  | list items => ∀ item ∈ items, '\n' ∉ item.value.toList
  | literal lines => (∀ line ∈ lines, LiteralText line) ∧ lines.getLast? ≠ some ""

structure WrittenEntry.Proper (entry : WrittenEntry) : Prop where
  named : entry.key ≠ ""
  letters : ∀ c ∈ entry.key.toList, KeyLetter c
  form : entry.form.Proper

instance (c : Char) : Decidable (KeyLetter c) := inferInstanceAs (Decidable (_ ∨ _))

instance (line : String) : Decidable (LiteralText line) :=
  have := Option.decidableForallMem (p := fun c => isSpace c = false) line.toList.head?
  inferInstanceAs (Decidable (_ ∧ _))

instance : (form : Form) → Decidable form.Proper
  | .scalar _ value => inferInstanceAs (Decidable ('\n' ∉ value.toList))
  | .list items => inferInstanceAs (Decidable (∀ item ∈ items, '\n' ∉ item.value.toList))
  | .literal lines => inferInstanceAs (Decidable ((∀ line ∈ lines, LiteralText line) ∧ lines.getLast? ≠ some ""))

instance (entry : WrittenEntry) : Decidable entry.Proper :=
  have := List.decidableBAll KeyLetter entry.key.toList
  decidable_of_iff (entry.key ≠ "" ∧ (∀ c ∈ entry.key.toList, KeyLetter c) ∧ entry.form.Proper)
    ⟨fun ⟨named, letters, form⟩ => ⟨named, letters, form⟩, fun ⟨named, letters, form⟩ => ⟨named, letters, form⟩⟩

/-- A block of entries between two delimiter lines. The second one has no newline behind it yet. -/
def block (entries : List WrittenEntry) : String :=
  String.ofList (unlines (delimiter :: entries.flatMap WrittenEntry.lines) ++ delimiter)

private theorem isKeyChar_iff {c : Char} : isKeyChar c ↔ KeyLetter c := by
  have letter : c.isAlphanum = (decide ('A' ≤ c ∧ c ≤ 'Z') || decide ('a' ≤ c) && decide (c ≤ 'z') ||
    decide ('0' ≤ c) && decide (c ≤ '9')) := rfl
  simp only [isKeyChar, KeyLetter, letter, Bool.or_eq_true, Bool.and_eq_true, decide_eq_true_eq, beq_iff_eq, or_assoc]

/-! What is between two marks is read back. -/

private theorem quotedBy?_enclosed (mark : Char) (inner : List Char) :
    quotedBy? mark (mark :: (inner ++ [mark])) = some inner := by
  simp [quotedBy?]

private theorem quotedBy?_of_ne {mark c : Char} (other : c ≠ mark) (rest : List Char) :
    quotedBy? mark (c :: rest) = none :=
  if_neg other

private theorem replacePair_cons_of_ne {first second merged c : Char} (other : c ≠ first) (rest : List Char) :
    replacePair first second merged (c :: rest) = c :: replacePair first second merged rest := by
  cases rest with
  | nil => rfl
  | cons d rest => exact if_neg fun both => other both.1

private theorem replacePair_cons_of_head {first second merged c : Char} {rest : List Char}
    (other : ∀ d ∈ rest.head?, d ≠ second) :
    replacePair first second merged (c :: rest) = c :: replacePair first second merged rest := by
  cases rest with
  | nil => rfl
  | cons d rest => exact if_neg fun both => other d rfl both.2

private theorem replacePair_doubled (mark : Char) (value : List Char) :
    replacePair mark mark mark (value.flatMap fun c => if c = mark then [mark, mark] else [c]) = value := by
  induction value with
  | nil => rfl
  | cons c value ih =>
    rw [List.flatMap_cons]
    split
    next same =>
      subst same
      exact (if_pos ⟨rfl, rfl⟩).trans (congrArg _ ih)
    next other => exact (replacePair_cons_of_ne other _).trans (congrArg _ ih)

/-- A value in which only backslashes are written twice. -/
def slashed (value : List Char) : List Char := value.flatMap fun c => if c = '\\' then ['\\', '\\'] else [c]

private theorem head?_escaped (value : List Char) : ∀ c ∈ (value.flatMap Quote.double.escape).head?, c ≠ '"' := by
  cases value with
  | nil => exact nofun
  | cons c value =>
    rw [List.flatMap_cons, Quote.escape]
    split
    · rintro d ⟨⟩
      decide
    next other =>
      rintro d ⟨⟩
      exact fun same => other (.inr same)

/-- The first replacement takes away one backslash before each mark and no other one: behind a backslash that is
written twice there is never a bare mark. -/
theorem replacePair_marks (value : List Char) :
    replacePair '\\' '"' '"' (value.flatMap Quote.double.escape) = slashed value := by
  induction value with
  | nil => rfl
  | cons c value ih =>
    rw [slashed, List.flatMap_cons, List.flatMap_cons, ← slashed, ← ih, Quote.escape]
    by_cases slash : c = '\\'
    · subst slash
      have second : ∀ d ∈ ('\\' :: value.flatMap Quote.double.escape).head?, d ≠ '"' := by
        rintro d ⟨⟩
        decide
      exact (replacePair_cons_of_head second).trans (congrArg _ (replacePair_cons_of_head (head?_escaped value)))
    · by_cases mark : c = '"'
      · subst mark
        rfl
      · rw [if_neg (by simp [slash, mark]), if_neg slash]
        exact replacePair_cons_of_ne slash _

private theorem unquote_write (quote : Quote) (value : String) : unquote (quote.write value) = value.toList := by
  unfold unquote Quote.write
  cases quote with
  | single =>
    simp only [Quote.mark, quotedBy?_enclosed]
    exact replacePair_doubled '\'' value.toList
  | double =>
    simp only [Quote.mark, quotedBy?_of_ne (show '"' ≠ '\'' by decide), quotedBy?_enclosed]
    rw [replacePair_marks]
    exact replacePair_doubled '\\' value.toList

private theorem trim_write (quote : Quote) (value : String) : trim (quote.write value) = quote.write value :=
  trim_enclosed (by cases quote <;> decide) _

/-! What each line of an entry is read as. -/

private theorem dropSpaces_replicate (limit count : Nat) {rest : List Char} (solid : ∀ c ∈ rest.head?, c ≠ ' ') :
    dropSpaces limit (List.replicate count ' ' ++ rest) = List.replicate (count - limit) ' ' ++ rest := by
  induction limit generalizing count with
  | zero => rfl
  | succ limit ih =>
    cases count with
    | zero =>
      rw [Nat.zero_sub]
      cases rest with
      | nil => rfl
      | cons c rest =>
        rw [List.replicate_zero, List.nil_append, dropSpaces]
        exact fun _ _ _ same => solid c rfl (List.cons.inj same).1
    | succ count =>
      rw [Nat.add_sub_add_right, ← ih count, List.replicate_succ]
      rfl

private theorem KeyLetter.ne {c other : Char} (letter : KeyLetter c) (no : ¬ KeyLetter other) : c ≠ other :=
  fun same => no (same ▸ letter)

section
variable {key : String} (named : key ≠ "") (letters : ∀ c ∈ key.toList, KeyLetter c)
include named letters

private theorem exists_head_key : ∃ c rest, key.toList = c :: rest ∧ KeyLetter c := by
  obtain ⟨c, rest, spelled⟩ := List.exists_cons_of_ne_nil fun none_ => named (String.toList_eq_nil_iff.mp none_)
  exact ⟨c, rest, spelled, letters c (by simp [spelled])⟩

private theorem keyLine?_key (rest : List Char) :
    keyLine? (key.toList ++ ':' :: rest) = some (key.toList, trim rest) := by
  obtain ⟨c, more, spelled, letter⟩ := exists_head_key named letters
  have solid : ∀ d ∈ (key.toList ++ ':' :: rest).head?, d ≠ ' ' := by
    rw [spelled]
    rintro d ⟨⟩
    exact letter.ne (by decide)
  have unindented : dropSpaces 3 (key.toList ++ ':' :: rest) = key.toList ++ ':' :: rest :=
    dropSpaces_replicate 3 0 solid
  have taken : ∀ d ∈ key.toList, isKeyChar d = true := fun d member => isKeyChar_iff.mpr (letters d member)
  have stop : ¬ isKeyChar ':' = true := by decide
  rw [keyLine?, unindented, List.takeWhile_append_of_pos taken, List.dropWhile_append_of_pos taken,
    List.takeWhile_cons_of_neg stop, List.dropWhile_cons_of_neg stop, List.append_nil, spelled]
  rfl

private theorem isLiteralLine_key (rest : List Char) : isLiteralLine (key.toList ++ rest) = false := by
  obtain ⟨c, more, spelled, letter⟩ := exists_head_key named letters
  rw [spelled, List.cons_append, isLiteralLine, Bool.or_eq_false_iff, beq_eq_false_iff_ne, beq_eq_false_iff_ne]
  exact ⟨letter.ne (by decide), letter.ne (by decide)⟩

end

private theorem keyLine?_item (item : WrittenItem) : keyLine? item.line = none := by
  -- An item is no key: its dash would be one, but no colon follows.
  have solid : ∀ c ∈ ('-' :: ' ' :: item.quote.write item.value).head?, c ≠ ' ' := by
    rintro c ⟨⟩
    decide
  rw [keyLine?, WrittenItem.line, dropSpaces_replicate 3 _ solid]
  cases item.further + 1 - 3 with
  | zero => rfl
  | succ more => rfl

private theorem listItem?_item (item : WrittenItem) : listItem? item.line = some (item.quote.write item.value) := by
  have indented : ∀ c ∈ List.replicate item.further ' ', (c == ' ') = true := fun c member =>
    beq_iff_eq.mpr (List.eq_of_mem_replicate member)
  rw [WrittenItem.line, List.replicate_succ, List.cons_append, listItem?, List.dropWhile_append_of_pos indented]
  exact congrArg some ((trim_cons_of_space (by decide) _).trans (trim_write _ _))

private theorem trimStart_literalLine {line : String} (literal : LiteralText line) :
    trimStart (literalLine line) = line.toList := by
  unfold literalLine
  split
  next none_ =>
    subst none_
    rfl
  · have twice : trimStart (' ' :: ' ' :: line.toList) = trimStart line.toList := rfl
    rw [twice, trimStart_of_head? literal.2.1]

private theorem isLiteralLine_literalLine (line : String) : isLiteralLine (literalLine line) = true := by
  unfold literalLine
  split <;> rfl

/-! What the lines of an entry do to what has been read so far. -/

variable {state : State}

private theorem flush_opened (state : State) (entry : OpenEntry) :
    ({ state.flush with current := some entry } : State).flush =
      { state.flush with entries := state.flush.entries ++ [entry.close] } := by
  have closed : state.flush.current = none := by
    unfold State.flush
    split
    next none_ => exact none_
    · rfl
  change (⟨state.flush.entries ++ [entry.close], none, state.flush.ignored⟩ : State) =
    ⟨state.flush.entries ++ [entry.close], state.flush.current, state.flush.ignored⟩
  rw [closed]

theorem readLine_key {line key value : List Char} (found : keyLine? line = some (key, value))
    (outside : isLiteralLine line = false) (state : State) :
    state.readLine line = { state.flush with current := some (openEntry key value) } := by
  have other : state.readOther line = { state.flush with current := some (openEntry key value) } := by
    rw [State.readOther, found]
  unfold State.readLine
  split
  · rw [outside]
    exact other
  · exact other

private theorem readLine_item {key : List Char} {values : List (List Char)}
    (opened : state.current = some ⟨key, values, .list⟩) (item : WrittenItem) :
    state.readLine item.line = { state with current := some ⟨key, values ++ [item.value.toList], .list⟩ } := by
  rw [State.readLine, opened]
  change state.readOther item.line = _
  rw [State.readOther, keyLine?_item, opened, listItem?_item]
  change state.addValue _ (unquote (item.quote.write item.value)) = _
  rw [unquote_write]
  rfl

private theorem readLine_literal {key : List Char} {values : List (List Char)}
    (opened : state.current = some ⟨key, values, .literal⟩) {line : String} (literal : LiteralText line) :
    state.readLine (literalLine line) = { state with current := some ⟨key, values ++ [line.toList], .literal⟩ } := by
  rw [State.readLine, opened]
  change (if isLiteralLine (literalLine line) then _ else _) = _
  rw [isLiteralLine_literalLine, if_pos rfl, trimStart_literalLine literal]
  rfl

private theorem foldl_readLine {mode : Mode} {key : List Char} {write : β → List Char} {read : β → List Char}
    {written : List β} (each : ∀ item ∈ written, ∀ (state : State) values, state.current = some ⟨key, values, mode⟩ →
      state.readLine (write item) = { state with current := some ⟨key, values ++ [read item], mode⟩ })
    {values : List (List Char)} (opened : state.current = some ⟨key, values, mode⟩) :
    (written.map write).foldl State.readLine state =
      { state with current := some ⟨key, values ++ written.map read, mode⟩ } := by
  induction written generalizing state values with
  | nil =>
    rw [List.map_nil, List.map_nil, List.append_nil, ← opened]
    rfl
  | cons item written ih =>
    obtain ⟨here, later⟩ := List.forall_mem_cons.mp each
    rw [List.map_cons, List.foldl_cons, here state values opened, ih later rfl, List.map_cons, List.append_assoc]
    rfl

private theorem openEntry_write (key : List Char) (quote : Quote) (value : String) :
    openEntry key (quote.write value) = ⟨key, [value.toList], .scalar⟩ := by
  have noBar : quote.write value ≠ ['|'] := by cases quote <;> exact fun same => absurd (List.cons.inj same).1 (by decide)
  have some_ : quote.write value ≠ [] := List.cons_ne_nil _ _
  rw [openEntry, if_neg noBar, if_neg some_, unquote_write]

private theorem close_literal {key : List Char} {lines : List String} (ended : lines.getLast? ≠ some "") :
    (OpenEntry.close ⟨key, lines.map String.toList, .literal⟩) =
      ⟨String.ofList key, ["\n".intercalate lines]⟩ := by
  have kept : ((lines.map String.toList).reverse.dropWhile List.isEmpty).reverse = lines.map String.toList := by
    rcases List.eq_nil_or_concat lines with rfl | ⟨front, last, rfl⟩
    · rfl
    · rw [List.concat_eq_append] at ended ⊢
      have some_ : ¬ List.isEmpty last.toList = true := by
        rw [List.isEmpty_iff, String.toList_eq_nil_iff]
        rintro rfl
        exact ended List.getLast?_concat
      rw [List.map_append, List.map_singleton, List.reverse_concat, List.dropWhile_cons_of_neg some_, List.reverse_cons,
        List.reverse_reverse]
  have joined : String.ofList (List.intercalate ['\n'] (lines.map String.toList)) = "\n".intercalate lines := by
    rw [← String.toList_inj, String.toList_ofList, String.toList_intercalate]
    rfl
  simp only [OpenEntry.close, kept, List.map_cons, List.map_nil, joined]

/-- An entry is read as a whole, and what was open before it is closed. -/
theorem flush_read {entry : WrittenEntry} (proper : entry.Proper) (state : State) :
    (entry.lines.foldl State.readLine state).flush =
      { state.flush with entries := state.flush.entries ++ [entry.entry] } := by
  obtain ⟨key, form⟩ := entry
  obtain ⟨named, letters, proper⟩ := proper
  have begins : ∀ rest value : List Char, trim rest = value →
      state.readLine (key.toList ++ ':' :: rest) = { state.flush with current := some (openEntry key.toList value) } := by
    rintro rest _ rfl
    exact readLine_key (keyLine?_key named letters rest) (isLiteralLine_key named letters _) state
  cases form with
  | scalar quote value =>
    have trimmed : trim (' ' :: quote.write value) = quote.write value :=
      (trim_cons_of_space (by decide) _).trans (trim_write quote value)
    have opened : openEntry key.toList (quote.write value) = ⟨key.toList, [value.toList], .scalar⟩ :=
      openEntry_write key.toList quote value
    rw [WrittenEntry.lines, List.foldl_cons, begins _ _ trimmed, opened]
    simp only [List.foldl_nil, flush_opened]
    simp [OpenEntry.close, WrittenEntry.entry]
  | list items =>
    have opened : openEntry key.toList [] = ⟨key.toList, [], .list⟩ := rfl
    rw [WrittenEntry.lines, List.foldl_cons, begins [] [] rfl, opened,
      foldl_readLine (fun item _ state values opened => readLine_item opened item) rfl, flush_opened]
    simp [OpenEntry.close, WrittenEntry.entry]
  | literal lines =>
    obtain ⟨texts, ended⟩ := proper
    have opened : openEntry key.toList ['|'] = ⟨key.toList, [], .literal⟩ := rfl
    rw [WrittenEntry.lines, List.foldl_cons, begins [' ', '|'] ['|'] rfl, opened,
      foldl_readLine (fun line member state values opened => readLine_literal opened (texts line member)) rfl,
      flush_opened, List.nil_append, close_literal ended, String.ofList_toList]
    rfl

private theorem flush_readAll {entries : List WrittenEntry} (proper : ∀ entry ∈ entries, entry.Proper) (state : State) :
    ((entries.flatMap WrittenEntry.lines).foldl State.readLine state).flush =
      { state.flush with entries := state.flush.entries ++ entries.map WrittenEntry.entry } := by
  induction entries generalizing state with
  | nil => rw [List.map_nil, List.append_nil]; rfl
  | cons entry entries ih =>
    obtain ⟨here, later⟩ := List.forall_mem_cons.mp proper
    rw [List.flatMap_cons, List.foldl_append, ih later, flush_read here, List.map_cons, List.append_assoc]
    rfl

/-! The lines of entries are lines of their block, and none of them ends it. -/

private theorem mem_trimEnd {c : Char} {line : List Char} (solid : isSpace c = false) (member : c ∈ line) :
    c ∈ trimEnd line := by
  have parts : line.reverse = line.reverse.takeWhile isSpace ++ line.reverse.dropWhile isSpace :=
    List.takeWhile_append_dropWhile.symm
  rw [← List.mem_reverse, parts, List.mem_append] at member
  rcases member with space | kept
  · exact absurd (List.mem_takeWhile_imp space) (Bool.eq_false_iff.mp solid)
  · exact List.mem_reverse.mpr kept

private theorem trimEnd_prefix (line : List Char) : trimEnd line <+: line := by
  have suffix := List.dropWhile_suffix isSpace (l := line.reverse)
  rw [← List.reverse_prefix, List.reverse_reverse] at suffix
  exact suffix

private theorem not_isDelimiter_of_mem {c : Char} {line : List Char} (solid : isSpace c = false) (other : c ∉ delimiter)
    (member : c ∈ line) : isDelimiter line = false := by
  rw [isDelimiter, beq_eq_false_iff_ne]
  exact fun same => other (same ▸ mem_trimEnd solid member)

private theorem not_isDelimiter_literalLine (line : String) : isDelimiter (literalLine line) = false := by
  rw [isDelimiter, beq_eq_false_iff_ne]
  intro same
  have begins := trimEnd_prefix (literalLine line)
  rw [same] at begins
  unfold literalLine at begins
  split at begins
  · cases List.prefix_nil.mp begins
  · exact absurd (List.cons_prefix_cons.mp begins).1 (by decide)

/-- A line inside of a block, as it is written and read. -/
def Inside (line : List Char) : Prop := Unbroken line ∧ isDelimiter line = false

private theorem Quote.not_mem_write (quote : Quote) {value : String} (whole : '\n' ∉ value.toList) :
    '\n' ∉ quote.write value := by
  have mark : '\n' ≠ quote.mark := by cases quote <;> decide
  have escaped : ∀ c ∈ value.toList, '\n' ∉ quote.escape c := by
    intro c member
    have other : '\n' ≠ c := fun same => whole (same ▸ member)
    cases quote <;> simp only [Quote.escape] <;> split <;> simp [other]
  simp only [Quote.write, List.mem_cons, List.mem_append, List.mem_flatMap, List.not_mem_nil, or_false, mark, false_or]
  rintro ⟨c, member, inside⟩
  exact escaped c member inside

private theorem inside_write {front : List Char} (whole : '\n' ∉ front) (quote : Quote) {value : String}
    (wholeValue : '\n' ∉ value.toList) : Inside (front ++ quote.write value) := by
  -- What ends with a quoted value is a line, and the mark tells it from a delimiter.
  refine ⟨⟨?_, ?_⟩, ?_⟩
  · rw [List.mem_append]
    exact fun member => member.elim whole (quote.not_mem_write wholeValue)
  · rw [Quote.write, ← List.cons_append, ← List.append_assoc, List.getLast?_concat]
    cases quote <;> decide
  · have member : quote.mark ∈ front ++ quote.write value := List.mem_append_right _ (List.mem_cons_self ..)
    exact not_isDelimiter_of_mem (by cases quote <;> decide) (by cases quote <;> decide) member

private theorem inside_key {key : String} (letters : ∀ c ∈ key.toList, KeyLetter c) {rest : List Char}
    (whole : '\n' ∉ rest) (last : ∀ c ∈ (':' :: rest).getLast?, c ≠ '\r') : Inside (key.toList ++ ':' :: rest) := by
  refine ⟨⟨?_, ?_⟩, not_isDelimiter_of_mem (c := ':') (by decide) (by decide) (by simp)⟩
  · simp only [List.mem_append, List.mem_cons, not_or]
    exact ⟨fun member => (letters _ member).ne (by decide) rfl, by decide, whole⟩
  · rw [List.getLast?_append_of_ne_nil _ (List.cons_ne_nil _ _)]
    exact fun same => last _ same rfl

private theorem inside_literalLine {line : String} (literal : LiteralText line) : Inside (literalLine line) := by
  refine ⟨?_, not_isDelimiter_literalLine line⟩
  unfold literalLine
  split
  · exact ⟨List.not_mem_nil, nofun⟩
  next some_ =>
    refine ⟨by simpa using literal.1, ?_⟩
    have end_ : (' ' :: ' ' :: line.toList).getLast? = line.toList.getLast? :=
      List.getLast?_append_of_ne_nil [' ', ' '] fun none_ => some_ (String.toList_eq_nil_iff.mp none_)
    rw [end_]
    exact literal.2.2

private theorem WrittenEntry.Proper.inside {entry : WrittenEntry} (proper : entry.Proper) :
    ∀ line ∈ entry.lines, Inside line := by
  obtain ⟨key, form⟩ := entry
  obtain ⟨named, letters, proper⟩ := proper
  cases form with
  | scalar quote value =>
    intro line member
    obtain rfl := List.mem_singleton.mp member
    have whole : '\n' ∉ key.toList ++ [':', ' '] := by
      simp only [List.mem_append, not_or]
      exact ⟨fun member => (letters _ member).ne (by decide) rfl, by decide⟩
    have written := inside_write whole quote proper
    rwa [List.append_assoc] at written
  | list items =>
    refine List.forall_mem_cons.mpr ⟨inside_key letters List.not_mem_nil (by simp), ?_⟩
    refine List.forall_mem_map.mpr fun item member => ?_
    have whole : '\n' ∉ List.replicate (item.further + 1) ' ' ++ ['-', ' '] := by
      simp only [List.mem_append, List.mem_replicate, not_or]
      exact ⟨fun both => absurd both.2 (by decide), by decide⟩
    have written := inside_write whole item.quote (proper item member)
    rwa [List.append_assoc] at written
  | literal lines =>
    refine List.forall_mem_cons.mpr ⟨inside_key letters (by decide) (by simp), ?_⟩
    exact List.forall_mem_map.mpr fun line member => inside_literalLine (proper.1 line member)

/-- A block with the given lines between its two delimiters. -/
def enclosed (body : List (List Char)) : String := String.ofList (unlines (delimiter :: body) ++ delimiter)

theorem bodyLines_enclosed {body : List (List Char)} (inside : ∀ line ∈ body, Inside line) {rest : String}
    (ends : ∀ c ∈ rest.toList.head?, c = '\n') : bodyLines (enclosed body ++ rest) = body := by
  have unbroken : ∀ line ∈ delimiter :: body, Unbroken line :=
    List.forall_mem_cons.mpr ⟨⟨by decide, by decide⟩, fun line member => (inside line member).1⟩
  have text : (enclosed body ++ rest).toList = unlines (delimiter :: body) ++ (delimiter ++ rest.toList) := by
    rw [String.toList_append, enclosed, String.toList_ofList, List.append_assoc]
  have last : (lines (delimiter ++ rest.toList)).head? = some delimiter :=
    head?_lines (unbroken delimiter (List.mem_cons_self ..)) (by decide) ends
  obtain ⟨after, closing⟩ := List.head?_eq_some_iff.mp last
  have opens : isDelimiter delimiter = true := by decide
  have taken : ∀ line ∈ body, (!isDelimiter line) = true := fun line member => by
    rw [(inside line member).2]
    rfl
  rw [bodyLines, text, lines_unlines_append unbroken, closing, List.cons_append]
  simp only [opens, if_true]
  rw [List.takeWhile_append_of_pos taken, List.takeWhile_cons_of_neg (by simp [opens]), List.append_nil]

private theorem bodyLines_block {entries : List WrittenEntry} (proper : ∀ entry ∈ entries, entry.Proper) {rest : String}
    (ends : ∀ c ∈ rest.toList.head?, c = '\n') :
    bodyLines (block entries ++ rest) = entries.flatMap WrittenEntry.lines := by
  refine bodyLines_enclosed (fun line member => ?_) ends
  obtain ⟨entry, among, here⟩ := List.mem_flatMap.mp member
  exact (proper entry among).inside line here

/-- Entries that are written into a block are read back, every one with its values, whatever their forms are and
whatever follows the line that ends the block. No line is warned about. -/
theorem parse_block {entries : List WrittenEntry} (proper : ∀ entry ∈ entries, entry.Proper) {rest : String}
    (ends : ∀ c ∈ rest.toList.head?, c = '\n') : parse (block entries ++ rest) = (entries.map WrittenEntry.entry, []) := by
  have read := flush_readAll proper {}
  rw [parse, bodyLines_block proper ends, read]
  rfl

/-- A key that looks like a delimiter, values that look like items, keys and blocks, and a literal block with a
delimiter, an empty line and a key in it. -/
theorem parse_block_forms :
    let entries : List WrittenEntry := [⟨"---", .scalar .double "\\ \"a\\\""⟩,
      ⟨"tags", .list [⟨0, .single, "it's: |"⟩, ⟨4, .double, "- b: ''"⟩, ⟨1, .single, ""⟩]⟩,
      ⟨"text", .literal ["---", "", "tags:"]⟩, ⟨"tags", .list []⟩]
    (∀ entry ∈ entries, entry.Proper) ∧ (∀ c ∈ "\nmore: x".toList.head?, c = '\n') ∧
      parse (block entries ++ "\nmore: x") = ([⟨"---", ["\\ \"a\\\""]⟩, ⟨"tags", ["it's: |", "- b: ''", ""]⟩,
        ⟨"text", ["---\n\ntags:"]⟩, ⟨"tags", []⟩], []) := by
  intro entries
  have proper : ∀ entry ∈ entries, entry.Proper := by decide
  have ends : ∀ c ∈ "\nmore: x".toList.head?, c = '\n' := fun c same => (Option.some.inj same).symm
  exact ⟨proper, ends, parse_block proper ends⟩

end MarkdownHtml.FrontMatter
