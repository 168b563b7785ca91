import MarkdownHtml.Proofs.EditRuns
import MarkdownHtml.Proofs.PlusMatching

/-! The spans of a container against its delimiters: which runs stay text, and what stands at the inner side of those
that are matched. -/

namespace MarkdownHtml.Document

variable {doc : Document}

private theorem Linked.nodup_marksIn (linked : doc.Linked) (container : NodeId) :
    ((doc.marksIn container).map Mark.place).Nodup := by
  rw [map_place_marksIn, List.nodup_flatMap]
  refine ⟨fun child _ => ?_, (linked.nodup_childIds container).pairwise_of_forall_ne ?_⟩
  · unfold runPlaces
    split
    next literal _ =>
      refine .of_map Prod.snd ?_
      rw [List.map_map]
      exact (plusRuns_increasing 0 none literal.toList).1.imp Nat.ne_of_lt
    · exact .nil
  · intro first _ second _ apart place inFirst inSecond
    exact apart ((fst_of_mem_runPlaces inFirst).symm.trans (fst_of_mem_runPlaces inSecond))

/-- What the matching makes of the runs of a container. -/
structure Parsed (doc : Document) (container : NodeId) (spans : Spans) : Prop where
  marks : spans.marks = doc.marksIn container
  word : spans.word = (doc.childIds container).flatMap (delimitersOf (doc.matchDelimiters container))
  perm : (doc.matchDelimiters container).Perm spans.word
  sound : spans.Sound
  apart : spans.unmatched.Pairwise fun first second => ¬ (first.after = .solid ∧ second.before = .solid)

theorem Linked.exists_parsed (linked : doc.Linked) (container : NodeId) : ∃ spans, doc.Parsed container spans := by
  obtain ⟨spans, reads, perm, marks⟩ := read_marksIn doc container
  have word := (linked.flatMap_delimitersOf (Spans.sublist_runPlaces marks) perm).1
  exact ⟨spans, marks, word.symm, perm, reads.sound, reads.apart⟩

/-- The runs of a container that stay text. -/
def unmatchedIn (doc : Document) (container : NodeId) : List Mark :=
  (doc.marksIn container).filter fun mark => mark.place ∉ (doc.matchDelimiters container).map Delimiter.place

theorem Parsed.unmatched {container : NodeId} {spans : Spans} (parsed : doc.Parsed container spans)
    (linked : doc.Linked) : spans.unmatched = doc.unmatchedIn container := by
  have distinct := linked.nodup_marksIn container
  rw [← parsed.marks] at distinct
  rw [Spans.unmatched_eq distinct, unmatchedIn, parsed.marks]
  refine List.filter_congr fun mark _ => decide_eq_decide.mpr (not_congr ?_)
  exact ((parsed.perm.map Delimiter.place).mem_iff).symm

private theorem plusRuns_beside {start : Nat} {before : Option Char} {letters : List Char} {run : PlusRun}
    (member : run ∈ plusRuns start before letters) : ∃ front rest, letters = front ++ '+' :: '+' :: rest ∧
      run.offset = start + front.length ∧ run.before = front.getLast?.or before ∧ run.after = rest.head? := by
  fun_induction plusRuns start before letters with
  | case1 start before rest ih =>
    rcases List.mem_cons.mp member with rfl | member
    · exact ⟨[], rest, rfl, rfl, rfl, rfl⟩
    · obtain ⟨front, behind, rfl, offset, left, right⟩ := ih member
      refine ⟨'+' :: '+' :: front, behind, rfl, ?_, ?_, right⟩
      · rw [offset, List.length_cons, List.length_cons]
        omega
      · rw [left, List.getLast?_cons, List.getLast?_cons]
        cases front.getLast? <;> rfl
  | case2 start before c rest _ ih =>
    obtain ⟨front, behind, rfl, offset, left, right⟩ := ih member
    refine ⟨c :: front, behind, rfl, ?_, ?_, right⟩
    · rw [offset, List.length_cons]
      omega
    · rw [left, List.getLast?_cons]
      cases front.getLast? <;> rfl
  | case3 => cases member

/-- At a place of a text there is something that is neither white space nor a line break: a character of the text or,
where the text ends, what its sibling has at the end that `edge` picks. -/
def Faces (doc : Document) (letter : Option Char) (edge : List Char → Option Char) (sibling : Option NodeId) : Prop :=
  match letter with
  | some c => Text.isSpace c = false
  | none => ∃ id kind, sibling = some id ∧ doc.kind? id = some kind ∧ kind ≠ .softLineBreak ∧ kind ≠ .hardLineBreak ∧
      ∀ literal, kind = .text literal → ∃ c, edge literal.toList = some c ∧ Text.isSpace c = false

private theorem ofChar?_eq_solid {letter : Option Char} :
    Flank.ofChar? letter = .solid ↔ ∃ c, letter = some c ∧ Text.isSpace c = false := by
  cases letter with
  | none => simp [Flank.ofChar?]
  | some c => cases space : Text.isSpace c <;> simp [Flank.ofChar?, space]

private theorem siblingFlank_eq_solid {edge : List Char → Option Char} {sibling : Option NodeId} :
    doc.siblingFlank edge sibling = .solid ↔ doc.Faces none edge sibling := by
  unfold siblingFlank Faces
  cases sibling with
  | none => simp
  | some id =>
    cases found : doc.kind? id with
    | none => simp [found]
    | some kind => cases kind <;> simp [found, ofChar?_eq_solid]

private theorem flanks_eq_solid {text : NodeId} {run : PlusRun} :
    ((run.flanks doc text).1 = .solid ↔ doc.Faces run.before List.getLast? (doc.previous? text)) ∧
      ((run.flanks doc text).2 = .solid ↔ doc.Faces run.after List.head? (doc.next? text)) := by
  unfold PlusRun.flanks
  constructor
  · cases run.before with
    | none => exact siblingFlank_eq_solid
    | some c => simp [ofChar?_eq_solid, Faces]
  · cases run.after with
    | none => exact siblingFlank_eq_solid
    | some c => simp [ofChar?_eq_solid, Faces]

/-- A delimiter is two plus signs of a text, in front of something solid if it opens and behind something solid if it
closes. -/
def Flanked (doc : Document) (delimiter : Delimiter) : Prop :=
  ∃ literal front rest, doc.kind? delimiter.text = some (.text literal) ∧ literal.toList = front ++ '+' :: '+' :: rest ∧
    front.length = delimiter.offset ∧
    if delimiter.opens then doc.Faces rest.head? List.head? (doc.next? delimiter.text)
    else doc.Faces front.getLast? List.getLast? (doc.previous? delimiter.text)

private theorem Spans.Sound.exists_mark {spans : Spans} (sound : spans.Sound) {delimiter : Delimiter}
    (member : delimiter ∈ spans.word) : ∃ mark ∈ spans.marks, ∃ opens, delimiter = mark.delimiter opens ∧
      if opens then mark.after = .solid else mark.before = .solid := by
  induction spans with
  | nil => cases member
  | single mark rest ih =>
    obtain ⟨found, inside, rest⟩ := ih sound member
    exact ⟨found, List.mem_cons_of_mem _ inside, rest⟩
  | pair first inside last rest within later =>
    obtain ⟨opens, closes, _, sound, soundRest⟩ := sound
    simp only [word, List.mem_cons, List.mem_append] at member
    simp only [marks, List.mem_cons, List.mem_append]
    rcases member with rfl | member | rfl | member
    · exact ⟨first, .inl rfl, true, rfl, opens⟩
    · obtain ⟨found, here, rest⟩ := within sound member
      exact ⟨found, .inr (.inl here), rest⟩
    · exact ⟨last, .inr (.inr (.inl rfl)), false, rfl, closes⟩
    · obtain ⟨found, here, rest⟩ := later soundRest member
      exact ⟨found, .inr (.inr (.inr here)), rest⟩

private theorem Parsed.flanked {container : NodeId} {spans : Spans} (parsed : doc.Parsed container spans)
    {delimiter : Delimiter} (member : delimiter ∈ doc.matchDelimiters container) : doc.Flanked delimiter := by
  obtain ⟨mark, inside, opens, rfl, solid⟩ := parsed.sound.exists_mark (parsed.perm.subset member)
  rw [parsed.marks] at inside
  obtain ⟨child, _, here⟩ := List.mem_flatMap.mp inside
  unfold Document.marks at here
  split at here
  next literal found =>
    obtain ⟨run, among, rfl⟩ := List.mem_map.mp here
    obtain ⟨front, rest, letters, offset, before, after⟩ := plusRuns_beside among
    rw [Option.or_none] at before
    rw [Nat.zero_add] at offset
    refine ⟨literal, front, rest, found, letters, offset.symm, ?_⟩
    cases opens with
    | true =>
      have faces := flanks_eq_solid.2.mp solid
      rwa [after] at faces
    | false =>
      have faces := flanks_eq_solid.1.mp solid
      rwa [before] at faces
  · cases here

/-- The delimiters of a container, in the order of the document, are the pairs of spans that hold all of its runs. Each
of them has something solid at its inner side, nothing that is left over inside of a pair has anything solid at either
side, and of two runs that are left over the first one could not have opened a pair that the second one closes. -/
theorem WellFormed.exists_spans (wellFormed : doc.WellFormed) (container : NodeId) :
    ∃ spans : Spans, spans.marks = doc.marksIn container ∧
      spans.word = (doc.childIds container).flatMap (delimitersOf (doc.matchDelimiters container)) ∧
      spans.word.Perm (doc.matchDelimiters container) ∧ Balanced spans.word ∧ spans.Sound ∧
      (∀ delimiter ∈ doc.matchDelimiters container, doc.Flanked delimiter) ∧
      spans.unmatched = doc.unmatchedIn container ∧
      spans.unmatched.Pairwise fun first second => ¬ (first.after = .solid ∧ second.before = .solid) := by
  obtain ⟨spans, parsed⟩ := wellFormed.linked.exists_parsed container
  exact ⟨spans, parsed.marks, parsed.word, parsed.perm.symm, spans.balanced, parsed.sound,
    fun _ => parsed.flanked, parsed.unmatched wellFormed.linked, parsed.apart⟩

/-- Four runs: the second one stays inside of a pair, and the last one waits for a partner in vain. -/
theorem exists_spans_paragraph : ∃ doc : Document, doc.WellFormed ∧ (doc.marksIn ⟨1⟩).length = 4 ∧
    doc.matchDelimiters ⟨1⟩ = [⟨⟨2⟩, 10, false⟩, ⟨⟨2⟩, 2, true⟩] ∧
    ∃ spans : Spans, spans.marks = doc.marksIn ⟨1⟩ ∧ spans.word.Perm [⟨⟨2⟩, 10, false⟩, ⟨⟨2⟩, 2, true⟩] ∧ spans.Sound ∧
      spans.unmatched = doc.unmatchedIn ⟨1⟩ := by
  let paragraph := (Document.empty.appendNew root .paragraph).2
  let doc := (paragraph.appendNew ⟨1⟩ (.text "a ++b ++ c++ ++d")).2
  have linked : paragraph.Linked := Linked.empty.appendNew (by decide) _
  have wellFormed : doc.WellFormed := (linked.appendNew (by decide) _).wellFormed
  have matched : doc.matchDelimiters ⟨1⟩ = [⟨⟨2⟩, 10, false⟩, ⟨⟨2⟩, 2, true⟩] := by decide
  obtain ⟨spans, marks, _, perm, _, sound, _, unmatched, _⟩ := wellFormed.exists_spans ⟨1⟩
  exact ⟨doc, wellFormed, by decide, matched, spans, marks, matched ▸ perm, sound, unmatched⟩

end MarkdownHtml.Document
