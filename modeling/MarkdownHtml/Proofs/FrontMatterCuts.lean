import MarkdownHtml.Proofs.WrittenEntries

/-! What one line of a front matter block can change for the lines after it. Entries and warnings that are there
already only stand in front of what follows, a key begins anew, and a line that is warned about leaves nothing behind
but its warning. -/

namespace MarkdownHtml.FrontMatter
open Text

instance (line : List Char) : Decidable (Inside line) :=
  inferInstanceAs (Decidable (('\n' ∉ line ∧ line.getLast? ≠ some '\r') ∧ isDelimiter line = false))

def State.behind (state : State) (entries : List Entry) (ignored : List (List Char)) : State :=
  { state with entries := entries ++ state.entries, ignored := ignored ++ state.ignored }

variable (state : State) (entries : List Entry) (ignored : List (List Char))

private theorem flush_behind : (state.behind entries ignored).flush = state.flush.behind entries ignored := by
  obtain ⟨closed, current, skipped⟩ := state
  cases current with
  | none => rfl
  | some entry =>
    simp only [State.flush, State.behind, List.append_assoc]

private theorem readOther_behind (line : List Char) :
    (state.behind entries ignored).readOther line = (state.readOther line).behind entries ignored := by
  have same : (state.behind entries ignored).current = state.current := rfl
  unfold State.readOther
  rw [same]
  split
  · rw [flush_behind]
    rfl
  · rfl
  · split
    · rfl
    · simp only [State.behind, List.append_assoc]

private theorem readLine_behind (line : List Char) :
    (state.behind entries ignored).readLine line = (state.readLine line).behind entries ignored := by
  have same : (state.behind entries ignored).current = state.current := rfl
  unfold State.readLine
  rw [same]
  split
  · split
    · rfl
    · exact readOther_behind state entries ignored line
  · exact readOther_behind state entries ignored line

private theorem readAll_behind (lines : List (List Char)) :
    lines.foldl State.readLine (state.behind entries ignored) =
      (lines.foldl State.readLine state).behind entries ignored := by
  induction lines generalizing state with
  | nil => rfl
  | cons line lines ih => rw [List.foldl_cons, List.foldl_cons, readLine_behind, ih]

def State.outcome (state : State) : List Entry × List Event :=
  (state.flush.entries, state.flush.ignored.map fun line => .unsupportedLine (String.ofList line))

private theorem outcome_behind : (state.behind entries ignored).outcome =
    (entries ++ state.outcome.1, (ignored.map fun line => .unsupportedLine (String.ofList line)) ++ state.outcome.2) := by
  rw [State.outcome, flush_behind]
  simp only [State.behind, List.map_append]
  rfl

private theorem outcome_warnings :
    state.outcome.2 = state.ignored.map fun line => .unsupportedLine (String.ofList line) := by
  unfold State.outcome State.flush
  split <;> rfl

private theorem parse_enclosed {body : List (List Char)} (inside : ∀ line ∈ body, Inside line) :
    parse (enclosed body) = (body.foldl State.readLine {}).outcome := by
  have ends : ∀ c ∈ "".toList.head?, c = '\n' := nofun
  have text : enclosed body = enclosed body ++ "" := String.append_empty.symm
  rw [text, parse, bodyLines_enclosed inside ends]
  rfl

private theorem isLiteralLine_of_keyLine? {first key value : List Char} (found : keyLine? first = some (key, value))
    (unspaced : first.head? ≠ some ' ') (untabbed : first.head? ≠ some '\t') : isLiteralLine first = false := by
  cases first with
  | nil => cases found
  | cons c first =>
    rw [isLiteralLine, Bool.or_eq_false_iff, beq_eq_false_iff_ne, beq_eq_false_iff_ne]
    exact ⟨fun same => unspaced (congrArg some same), fun same => untabbed (congrArg some same)⟩

private theorem readLine_first {first key value : List Char} (found : keyLine? first = some (key, value))
    (outside : isLiteralLine first = false) :
    state.readLine first = (State.readLine {} first).behind state.flush.entries state.flush.ignored := by
  -- A key ends all that was open, so what it opens does not depend on what has been read.
  have closed : state.flush.current = none := by
    unfold State.flush
    split
    next none_ => exact none_
    · rfl
  rw [readLine_key found outside, readLine_key found outside]
  simp only [State.behind, State.flush, List.append_nil]

private theorem readLine_ignored (line : List Char) :
    (state.readLine line).ignored = state.ignored ∨
      state.readLine line = { state with ignored := state.ignored ++ [line] } := by
  have other : (state.readOther line).ignored = state.ignored ∨
      state.readOther line = { state with ignored := state.ignored ++ [line] } := by
    unfold State.readOther
    split
    · left
      unfold State.flush
      split <;> rfl
    · exact .inl rfl
    · split
      · exact .inl rfl
      · exact .inr rfl
  unfold State.readLine
  split
  · split
    · exact .inl rfl
    · exact other
  · exact other

section
variable {front back before after : List (List Char)} {line : List Char}

/-- A block can be cut before every line with a key that is not indented. -/
theorem parse_enclosed_append (inside : ∀ line ∈ front ++ back, Inside line)
    (begins : ∃ first ∈ back.head?, (keyLine? first).isSome ∧ first.head? ≠ some ' ' ∧ first.head? ≠ some '\t') :
    parse (enclosed (front ++ back)) = ((parse (enclosed front)).1 ++ (parse (enclosed back)).1,
      (parse (enclosed front)).2 ++ (parse (enclosed back)).2) := by
  obtain ⟨insideFront, insideBack⟩ := List.forall_mem_append.mp inside
  obtain ⟨first, head, known, unspaced, untabbed⟩ := begins
  obtain ⟨later, rfl⟩ := List.head?_eq_some_iff.mp head
  obtain ⟨⟨key, value⟩, found⟩ := Option.isSome_iff_exists.mp known
  have outside := isLiteralLine_of_keyLine? found unspaced untabbed
  rw [parse_enclosed inside, parse_enclosed insideFront, parse_enclosed insideBack, List.foldl_append, List.foldl_cons,
    readLine_first _ found outside, readAll_behind, outcome_behind]
  rfl

private theorem readLine_warned (inside : ∀ inner ∈ before ++ [line], Inside inner)
    (warned : (parse (enclosed (before ++ [line]))).2 ≠ (parse (enclosed before)).2) :
    let state := before.foldl State.readLine {}
    state.readLine line = { state with ignored := state.ignored ++ [line] } := by
  rw [parse_enclosed inside, parse_enclosed (List.forall_mem_append.mp inside).1, List.foldl_concat, outcome_warnings,
    outcome_warnings] at warned
  exact (readLine_ignored _ line).resolve_left fun same => warned (by rw [same])

/-- A line that is warned about can be deleted. -/
theorem parse_enclosed_delete (inside : ∀ inner ∈ before ++ line :: after, Inside inner)
    (warned : (parse (enclosed (before ++ [line]))).2 ≠ (parse (enclosed before)).2) :
    ∃ later, parse (enclosed (before ++ line :: after)) = ((parse (enclosed (before ++ after))).1,
        (parse (enclosed before)).2 ++ .unsupportedLine (String.ofList line) :: later) ∧
      (parse (enclosed (before ++ after))).2 = (parse (enclosed before)).2 ++ later := by
  have parts := List.forall_mem_append.mp inside
  obtain ⟨insideLine, insideAfter⟩ := List.forall_mem_cons.mp parts.2
  have insideKept := List.forall_mem_append.mpr ⟨parts.1, insideAfter⟩
  have insideHere := List.forall_mem_append.mpr ⟨parts.1, List.forall_mem_singleton.mpr insideLine⟩
  have skipped := readLine_warned insideHere warned
  rw [parse_enclosed inside, parse_enclosed insideKept, parse_enclosed parts.1, List.foldl_append, List.foldl_append,
    List.foldl_cons, skipped, outcome_warnings]
  -- the same place without the warnings so far
  let place : State := { before.foldl State.readLine {} with ignored := [] }
  have reached : before.foldl State.readLine {} = place.behind [] (before.foldl State.readLine {}).ignored := by
    simp [place, State.behind]
  generalize (before.foldl State.readLine {}).ignored = ignored at *
  have warnedState : ({ before.foldl State.readLine {} with ignored := ignored ++ [line] } : State) =
      place.behind [] (ignored ++ [line]) := by
    simp [place, State.behind]
  rw [warnedState, reached, readAll_behind, readAll_behind, outcome_behind, outcome_behind]
  exact ⟨(after.foldl State.readLine place).outcome.2, by simp, rfl⟩

end

/-- A block says what its parts say, as long as it is cut before a key that is not indented, and a line that is warned
about says nothing but its warning. Nothing is asked of what the lines before such a key or around such a line are. -/
theorem parse_cuts :
    (∀ front back : List (List Char), (∀ line ∈ front ++ back, Inside line) →
      (∃ first ∈ back.head?, (keyLine? first).isSome ∧ first.head? ≠ some ' ' ∧ first.head? ≠ some '\t') →
      parse (enclosed (front ++ back)) = ((parse (enclosed front)).1 ++ (parse (enclosed back)).1,
        (parse (enclosed front)).2 ++ (parse (enclosed back)).2)) ∧
    ∀ (before after : List (List Char)) (line : List Char), (∀ inner ∈ before ++ line :: after, Inside inner) →
      (parse (enclosed (before ++ [line]))).2 ≠ (parse (enclosed before)).2 →
      ∃ later, parse (enclosed (before ++ line :: after)) = ((parse (enclosed (before ++ after))).1,
          (parse (enclosed before)).2 ++ .unsupportedLine (String.ofList line) :: later) ∧
        (parse (enclosed (before ++ after))).2 = (parse (enclosed before)).2 ++ later :=
  ⟨fun _ _ inside begins => parse_enclosed_append inside begins,
    fun _ _ _ inside warned => parse_enclosed_delete inside warned⟩

/-- A list is cut short by a line without a key, which is warned about like the item without a list after it, and a
literal block is open where the next key comes. -/
theorem parse_cuts_unfinished :
    let front := ["tags:", " - a", "b", " - c", "note: |", "  d", ""].map String.toList
    let back := ["tags: e", " - f"].map String.toList
    let before := ["tags:", " - a"].map String.toList
    let after := [" - c", "note: |", "  d", ""].map String.toList
    (∀ line ∈ front ++ back, Inside line) ∧
      parse (enclosed (front ++ back)) = ((parse (enclosed front)).1 ++ (parse (enclosed back)).1,
        (parse (enclosed front)).2 ++ (parse (enclosed back)).2) ∧
      parse (enclosed back) = ([⟨"tags", ["e"]⟩], [.unsupportedLine " - f"]) ∧
      ∃ later, parse (enclosed (before ++ "b".toList :: after)) = ((parse (enclosed (before ++ after))).1,
          (parse (enclosed before)).2 ++ .unsupportedLine "b" :: later) ∧
        (parse (enclosed (before ++ after))).2 = (parse (enclosed before)).2 ++ later := by
  intro front back before after
  have insideBoth : ∀ line ∈ front ++ back, Inside line := by decide
  have inside : ∀ line ∈ before ++ "b".toList :: after, Inside line := by decide
  have warned : (parse (enclosed (before ++ ["b".toList]))).2 ≠ (parse (enclosed before)).2 := by decide +kernel
  exact ⟨insideBoth, parse_cuts.1 front back insideBoth ⟨"tags: e".toList, rfl, by decide +kernel⟩, by decide +kernel,
    parse_cuts.2 before after "b".toList inside warned⟩

end MarkdownHtml.FrontMatter
