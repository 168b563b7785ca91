import MarkdownHtml.Proofs.FlankedRows
import MarkdownHtml.Proofs.MarkedRows

/-! The runs that are left over when inserted text has been marked. Each of them has no more at its sides than it had
before, so none of them finds a partner in a second pass. -/

namespace MarkdownHtml.Document

variable {doc : Document} {container child : NodeId}

private theorem flankedRuns_bounds {offset : Nat} {left right : Flank} {letters : List Char} {place : Nat}
    (member : place ∈ (flankedRuns offset left right letters).map Prod.fst) :
    offset ≤ place ∧ place + 2 ≤ offset + letters.length := by
  fun_induction flankedRuns offset left right letters with
  | case1 offset left rest ih =>
    rw [List.length_cons, List.length_cons]
    rcases List.mem_cons.mp member with rfl | later
    · omega
    · have bounds := ih later
      omega
  | case2 offset left c rest _ ih =>
    rw [List.length_cons]
    have bounds := ih member
    omega
  | case3 => cases member

private theorem flankedRuns_split {offset : Nat} {left right : Flank} {before rest : List Char}
    (aligned : offset + before.length ∈ (flankedRuns offset left right (before ++ '+' :: '+' :: rest)).map Prod.fst) :
    ∃ flanks, flankedRuns offset left right (before ++ '+' :: '+' :: rest) =
      flankedRuns offset left .solid before ++
        (offset + before.length, flanks) :: flankedRuns (offset + before.length + 2) .solid right rest := by
  fun_induction flankedRuns offset left .solid before with
  | case1 offset left before ih =>
    rw [List.length_cons, List.length_cons] at aligned ⊢
    rw [List.cons_append, List.cons_append, flankedRuns] at aligned ⊢
    rcases List.mem_cons.mp aligned with same | later
    · simp at same
    · have shift : offset + (before.length + 1 + 1) = offset + 2 + before.length := by omega
      rw [shift] at later ⊢
      obtain ⟨flanks, split⟩ := ih later
      have head : right.beside (before ++ '+' :: '+' :: rest).head? = Flank.solid.beside before.head? := by
        cases before with
        | nil => exact (show Flank.ofChar? (some '+') = .solid by decide)
        | cons => rfl
      exact ⟨flanks, by rw [split, head]; rfl⟩
  | case2 offset left c before apart ih =>
    -- Three plus signs are a run and one more, so no run begins at the second one.
    by_cases odd : c = '+' ∧ before = []
    · obtain ⟨rfl, rfl⟩ := odd
      rw [List.cons_append, List.nil_append, flankedRuns, List.map_cons] at aligned
      rcases List.mem_cons.mp aligned with same | later
      · simp at same
      · have bounds := flankedRuns_bounds later
        simp at bounds
    · have still : ∀ behind, c = '+' → before ++ '+' :: '+' :: rest = '+' :: behind → False := by
        intro behind plus same
        cases before with
        | nil => exact odd ⟨plus, rfl⟩
        | cons next before => exact apart before plus (by rw [(List.cons.inj same).1])
      have shift : offset + (before.length + 1) = offset + 1 + before.length := by omega
      rw [List.length_cons, shift] at aligned ⊢
      rw [List.cons_append, flankedRuns] at aligned ⊢
      · exact ih aligned
      all_goals exact still
  | case3 =>
    exact ⟨_, flankedRuns.eq_1 ..⟩

private theorem Item.runs_dimmer (item : Item) {left right first last : Flank} (atLeft : first = .solid → left = .solid)
    (atRight : last = .solid → right = .solid) :
    List.Forall₂ Dimmer ((item.runs first last).map Prod.snd) ((item.runs left right).map Prod.snd) := by
  cases item with
  | text literal => exact flankedRuns_dimmer atLeft atRight 0 0 literal.toList
  | _ => exact .nil

private theorem dimmer_piece {left right first last : Flank} (atLeft : first = .solid → left = .solid)
    (atRight : last = .solid → right = .solid) (offset : Nat) (letters : List Char) :
    List.Forall₂ Dimmer (rowFlanks first last (itemizing.piece letters))
      ((flankedRuns offset left right letters).map Prod.snd) := by
  cases letters with
  | nil => exact .nil
  | cons c letters =>
    have row : rowFlanks first last (itemizing.piece (c :: letters)) =
        (flankedRuns 0 first last (String.ofList (c :: letters)).toList).map Prod.snd ++ [] := rfl
    rw [row, List.append_nil, String.toList_ofList]
    exact flankedRuns_dimmer atLeft atRight 0 offset (c :: letters)

private theorem filter_flankedRuns {offset : Nat} {left right : Flank} {before rest : List Char} {delimiter : Delimiter}
    {delimiters : List Delimiter} (here : delimiter.offset = offset + before.length)
    (later : Cuts (delimiter.offset + 2) rest delimiters) (aligned : ∀ other ∈ delimiter :: delimiters,
      other.offset ∈ (flankedRuns offset left right (before ++ '+' :: '+' :: rest)).map Prod.fst) :
    ((flankedRuns offset left right (before ++ '+' :: '+' :: rest)).filter fun run =>
        run.1 ∉ (delimiter :: delimiters).map Delimiter.offset) =
      flankedRuns offset left .solid before ++ ((flankedRuns (delimiter.offset + 2) .solid right rest).filter fun run =>
        run.1 ∉ delimiters.map Delimiter.offset) ∧
    ∀ other ∈ delimiters, other.offset ∈ (flankedRuns (delimiter.offset + 2) .solid right rest).map Prod.fst := by
  obtain ⟨aligned, others⟩ := List.forall_mem_cons.mp aligned
  rw [here] at aligned
  obtain ⟨flanks, split⟩ := flankedRuns_split aligned
  rw [← here] at split
  have larger : ∀ other ∈ delimiters, delimiter.offset + 2 ≤ other.offset := fun other member => (later.bounds member).1
  have inFront : ∀ run ∈ flankedRuns offset left .solid before, run.1 < delimiter.offset := fun run member => by
    have bounds := flankedRuns_bounds (List.mem_map_of_mem member)
    omega
  have behind : ∀ run ∈ flankedRuns (delimiter.offset + 2) .solid right rest, delimiter.offset < run.1 :=
    fun run member => by
      have bounds := flankedRuns_bounds (List.mem_map_of_mem member)
      omega
  rw [split] at others ⊢
  rw [List.filter_append, List.filter_cons_of_neg (by simp)]
  refine ⟨congrArg₂ _ (List.filter_eq_self.mpr fun run member => decide_eq_true fun inside => ?_)
    (List.filter_congr fun run member => decide_eq_decide.mpr (not_congr ?_)), fun other member => ?_⟩
  · have smaller := inFront run member
    obtain ⟨other, among, same⟩ := List.mem_map.mp inside
    rcases List.mem_cons.mp among with rfl | among
    · omega
    · have bound := larger other among
      omega
  · rw [List.map_cons, List.mem_cons, or_iff_right (Nat.ne_of_gt (behind run member))]
  · have bound := larger other member
    obtain ⟨run, among, same⟩ := List.mem_map.mp (others other member)
    rcases List.mem_append.mp among with among | among
    · have smaller := inFront run among
      omega
    · rcases List.mem_cons.mp among with rfl | among
      · change delimiter.offset = other.offset at same
        omega
      · exact same ▸ List.mem_map_of_mem among

private theorem Cuts.dimmer {offset : Nat} {letters : List Char} {delimiters : List Delimiter}
    (cuts : Cuts offset letters delimiters) {left right first last : Flank} (atLeft : first = .solid → left = .solid)
    (atRight : last = .solid → right = .solid)
    (aligned : ∀ delimiter ∈ delimiters, delimiter.offset ∈ (flankedRuns offset left right letters).map Prod.fst) :
    List.Forall₂ Dimmer (rowFlanks first last (itemizing.cut offset letters delimiters))
      (((flankedRuns offset left right letters).filter fun run =>
        run.1 ∉ delimiters.map Delimiter.offset).map Prod.snd) := by
  induction cuts generalizing left first with
  | done offset letters =>
    rw [List.filter_eq_self.mpr fun run _ => by simp]
    exact dimmer_piece atLeft atRight offset letters
  | @cut offset rest delimiter delimiters before here later ih =>
    obtain ⟨kept, aligned⟩ := filter_flankedRuns here later aligned
    have row : rowFlanks first last (itemizing.cut offset (before ++ '+' :: '+' :: rest) (delimiter :: delimiters)) =
        rowFlanks first (Item.mark delimiter.opens).leading (itemizing.piece before) ++
          rowFlanks (Item.mark delimiter.opens).trailing last (itemizing.cut (delimiter.offset + 2) rest delimiters) := by
      rw [Reading.cut_cons here, List.append_assoc, rowFlanks_append]
      rfl
    rw [row, kept, List.map_append]
    exact List.rel_append (dimmer_piece atLeft (fun _ => rfl) offset before) (ih (fun _ => rfl) aligned)

private theorem Cuts.ends_cut {offset : Nat} {letters : List Char} {delimiters : List Delimiter}
    (cuts : Cuts offset letters delimiters) (some_ : letters ≠ []) :
    (∃ flank, (itemizing.cut offset letters delimiters).head?.map Item.leading = some flank ∧
      (flank = .solid → Flank.ofChar? letters.head? = .solid)) ∧
    ∃ flank, (itemizing.cut offset letters delimiters).getLast?.map Item.trailing = some flank ∧
      (flank = .solid → Flank.ofChar? letters.getLast? = .solid) := by
  have plus : Flank.ofChar? (some '+') = .solid := by decide
  have text : ∀ letters : List Char, (Item.text (String.ofList letters)).leading = .ofChar? letters.head? ∧
      (Item.text (String.ofList letters)).trailing = .ofChar? letters.getLast? := by
    intro letters
    simp only [Item.leading, Item.trailing, kindFlank, String.toList_ofList, and_self]
  induction cuts with
  | done offset letters =>
    cases letters with
    | nil => exact absurd rfl some_
    | cons c letters =>
      exact ⟨⟨_, rfl, fun solid => (text _).1.symm.trans solid⟩, _, rfl, fun solid => (text _).2.symm.trans solid⟩
  | @cut offset rest delimiter delimiters before here later ih =>
    rw [Reading.cut_cons here]
    constructor
    · cases before with
      | nil => exact ⟨_, rfl, fun _ => plus⟩
      | cons c before => exact ⟨_, rfl, fun solid => (text (c :: before)).1.symm.trans solid⟩
    · cases rest with
      | nil =>
        obtain rfl := later.eq_nil
        have ends : (before ++ ['+', '+']).getLast? = some '+' := by simp
        refine ⟨(Item.mark delimiter.opens).trailing, ?_, fun _ => ends ▸ plus⟩
        rw [List.getLast?_append, List.getLast?_append]
        rfl
      | cons c rest =>
        obtain ⟨_, flank, last, dimmer⟩ := ih (List.cons_ne_nil c rest)
        obtain ⟨item, found, same⟩ := Option.map_eq_some_iff.mp last
        have ends : (before ++ '+' :: '+' :: c :: rest).getLast? = (c :: rest).getLast? := by
          rw [List.getLast?_append_of_ne_nil _ (List.cons_ne_nil _ _), List.getLast?_cons_cons, List.getLast?_cons_cons]
        refine ⟨flank, ?_, fun solid => ends ▸ dimmer solid⟩
        rw [List.getLast?_append, found]
        exact congrArg some same

private theorem text_of_mem_marks {mark : Mark} (member : mark ∈ doc.marks child) : mark.text = child := by
  have place := List.mem_map_of_mem (f := Mark.place) member
  rw [map_place_marks] at place
  exact fst_of_mem_runPlaces place

section
variable (linked : doc.Linked) {front rest : List NodeId}
include linked

private theorem Linked.map_flanked_unmatched (row : doc.childIds container = front ++ child :: rest) :
    ((doc.marks child).filter fun mark => mark.place ∉ (doc.matchDelimiters container).map Delimiter.place).map
        (Prod.snd ∘ Mark.flanked) =
      (((doc.asItem child).runs (lastFlank .blank (front.map doc.asItem)) (headFlank (rest.map doc.asItem) .blank)).filter
        fun run => run.1 ∉ (delimitersOf (doc.matchDelimiters container) child).map Delimiter.offset).map Prod.snd := by
  rw [← linked.map_flanked_marks row, List.filter_map, List.map_map]
  refine congrArg _ (List.filter_congr fun mark member => decide_eq_decide.mpr (not_congr ?_))
  rw [List.mem_map, List.mem_map]
  constructor
  · rintro ⟨delimiter, among, same⟩
    have text := congrArg Prod.fst same
    exact ⟨delimiter, mem_delimitersOf.mpr ⟨among, text.trans (text_of_mem_marks member)⟩, congrArg Prod.snd same⟩
  · rintro ⟨delimiter, among, same⟩
    obtain ⟨among, text⟩ := mem_delimitersOf.mp among
    exact ⟨delimiter, among, Prod.ext (text.trans (text_of_mem_marks member).symm) same⟩

private theorem Linked.ends_child (member : child ∈ doc.childIds container) {items : List Item}
    (same : itemizing.child doc doc (fun _ => []) (doc.matchDelimiters container) child = items) :
    (∃ flank, items.head?.map Item.leading = some flank ∧ (flank = .solid → (doc.asItem child).leading = .solid)) ∧
      ∃ flank, items.getLast?.map Item.trailing = some flank ∧
        (flank = .solid → (doc.asItem child).trailing = .solid) := by
  subst same
  have held := linked.holds_of_mem_childIds member
  rcases linked.child_cases member with ⟨_, same⟩ | ⟨literal, found, some_, cuts, same⟩
  · rw [same, (ends_adds held).1, (ends_adds held).2]
    exact ⟨⟨_, rfl, id⟩, _, rfl, id⟩
  · rw [same, asItem_text found]
    exact cuts.ends_cut fun none_ => some_ (none_ ▸ cuts).eq_nil

private theorem Linked.dimmer_child (row : doc.childIds container = front ++ child :: rest) {first last : Flank}
    (atLeft : first = .solid → lastFlank .blank (front.map doc.asItem) = .solid)
    (atRight : last = .solid → headFlank (rest.map doc.asItem) .blank = .solid) :
    List.Forall₂ Dimmer
      (rowFlanks first last (itemizing.child doc doc (fun _ => []) (doc.matchDelimiters container) child))
      (((doc.marks child).filter fun mark => mark.place ∉ (doc.matchDelimiters container).map Delimiter.place).map
        (Prod.snd ∘ Mark.flanked)) := by
  have member : child ∈ doc.childIds container := row ▸ List.mem_append_right _ (List.mem_cons_self ..)
  rw [linked.map_flanked_unmatched row]
  rcases linked.child_cases member with ⟨none_, same⟩ | ⟨literal, found, _, cuts, same⟩
  · rw [same, none_, List.filter_eq_self.mpr fun run _ => by simp]
    rcases adds_cases (linked.holds_of_mem_childIds member) with adds | ⟨_, new, _⟩
    · rw [adds, rowFlanks, rowFlanks, List.append_nil]
      exact (doc.asItem child).runs_dimmer atLeft atRight
    · exact absurd (linked.holds_of_mem_childIds member) new
  · rw [same, asItem_text found]
    refine cuts.dimmer atLeft atRight fun delimiter among => ?_
    have place := (linked.sublist_runPlaces member).subset (List.mem_map_of_mem among)
    rw [← map_place_marks] at place
    obtain ⟨mark, inside, same⟩ := List.mem_map.mp place
    have runs := linked.map_flanked_marks row
    rw [asItem_text found] at runs
    have run := List.mem_map_of_mem (f := Mark.flanked) inside
    rw [runs] at run
    exact List.mem_map.mpr ⟨_, run, congrArg Prod.snd same⟩

/-- The runs in the row of a container whose inserted text is marked have no more at their sides than the ones that
stayed text had before. -/
theorem Linked.dimmer_markedRow (container : NodeId) : List.Forall₂ Dimmer (rowFlanks .blank .blank (doc.markedRow container))
    ((doc.unmatchedIn container).map (Prod.snd ∘ Mark.flanked)) := by
  rw [markedRow, unmatchedIn, marksIn, List.filter_flatMap, List.map_flatMap]
  suffices suffix : ∀ rest front, doc.childIds container = front ++ rest → ∀ first : Flank,
      (first = .solid → lastFlank .blank (front.map doc.asItem) = .solid) →
      List.Forall₂ Dimmer (rowFlanks first .blank
          (rest.flatMap (itemizing.child doc doc (fun _ => []) (doc.matchDelimiters container))))
        (rest.flatMap fun child => ((doc.marks child).filter fun mark =>
          mark.place ∉ (doc.matchDelimiters container).map Delimiter.place).map (Prod.snd ∘ Mark.flanked)) from
    suffix _ [] rfl .blank fun same => absurd same (by decide)
  intro rest
  induction rest with
  | nil => exact fun _ _ _ _ => .nil
  | cons child rest ih =>
    intro front row first atLeft
    have inRow : ∀ other ∈ child :: rest, other ∈ doc.childIds container := fun other member =>
      row ▸ List.mem_append_right _ member
    obtain ⟨_, flank, trailing, dimmer⟩ := linked.ends_child (inRow child (List.mem_cons_self ..)) rfl
    rw [List.flatMap_cons, List.flatMap_cons, rowFlanks_append]
    refine List.rel_append (linked.dimmer_child row atLeft ?_) ?_
    · cases rest with
      | nil => exact id
      | cons next rest =>
        obtain ⟨⟨flank, leading, dimmer⟩, _⟩ := linked.ends_child (inRow next (by simp)) rfl
        rw [List.flatMap_cons, headFlank_append leading]
        exact dimmer
    · rw [lastFlank, trailing]
      refine ih (front ++ [child]) (row.trans (List.append_cons ..)) flank fun solid => ?_
      rw [List.map_append, lastFlank, List.map_singleton, List.getLast?_concat]
      exact dimmer solid

end

/-- In a document in which inserted text is marked, no runs match. -/
theorem matchDelimiters_markInserted (wellFormed : doc.WellFormed) (held : doc.Holds root) (leaves : doc.LeafTexts)
    {id : NodeId} (member : id ∈ doc.markInserted.1.descendants root) : doc.markInserted.1.matchDelimiters id = [] := by
  obtain ⟨marking, _⟩ := markInserted_accounts wellFormed held leaves
  have after := marking.linked.wellFormed
  have present : doc.markInserted.1.Holds id :=
    ((after.mem_descendants (marking.holds root held)).mp member).holds (marking.holds root held)
  rcases wellFormed.items_markInserted held leaves member with ⟨literal, isText⟩ | rows
  · rw [matchDelimiters, marking.leaves.childIds_eq marking.linked isText]
    rfl
  · obtain ⟨container, inside⟩ : ∃ container, (rowFlanks .blank .blank (doc.items doc.markInserted.1 id)).Sublist
        (rowFlanks .blank .blank (doc.markedRow container)) := by
      rcases rows with ⟨_, same⟩ | ⟨container, _, between⟩
      · exact ⟨id, same ▸ .refl _⟩
      · exact ⟨container, rowFlanks_between .blank .blank between⟩
    obtain ⟨spans, parsed⟩ := wellFormed.linked.exists_parsed container
    have apart := parsed.apart
    rw [parsed.unmatched wellFormed.linked] at apart
    have noPair := noPair_of_dimmer (wellFormed.linked.dimmer_markedRow container) (List.pairwise_map.mpr apart)
    exact after.linked.matchDelimiters_eq_nil (noPair.sublist ((after.rowFlanks_items doc present).trans inside))

/-- Where no runs match, marking does nothing. -/
theorem markInserted_eq_self (none_ : ∀ container ∈ doc.descendants root, doc.matchDelimiters container = []) :
    doc.markInserted = (doc, []) := by
  unfold markInserted
  generalize doc.descendants root = containers at none_
  induction containers with
  | nil => rfl
  | cons container containers ih =>
    obtain ⟨here, others⟩ := List.forall_mem_cons.mp none_
    have step : insertInto (doc, []) container = (doc, []) := by
      simp only [insertInto, here]
    rw [List.foldl_cons, step]
    exact ih others

/-- To mark inserted text again does nothing: no runs match, and the document stays as it is. -/
theorem markInserted_again (wellFormed : doc.WellFormed) (held : doc.Holds root) (leaves : doc.LeafTexts) :
    (∀ container ∈ doc.markInserted.1.descendants root, doc.markInserted.1.matchDelimiters container = []) ∧
      doc.markInserted.1.markInserted = (doc.markInserted.1, []) := by
  have none_ : ∀ container ∈ doc.markInserted.1.descendants root, doc.markInserted.1.matchDelimiters container = [] :=
    fun _ => matchDelimiters_markInserted wellFormed held leaves
  exact ⟨none_, markInserted_eq_self none_⟩

/-- A run is left over between two that match, and another one behind them. -/
theorem markInserted_again_paragraph : ∃ doc : Document, doc.WellFormed ∧ doc.Holds root ∧ doc.LeafTexts ∧
    (doc.matchDelimiters ⟨1⟩).length = 2 ∧ (doc.unmatchedIn ⟨1⟩).length = 2 ∧
    doc.markInserted.1.markInserted = (doc.markInserted.1, []) := by
  let doc := ((Document.empty.appendNew root .paragraph).2.appendNew ⟨1⟩ (.text "a ++b ++ c++ ++d")).2
  obtain ⟨wellFormed, leaves⟩ : doc.WellFormed ∧ doc.LeafTexts := leafTexts_paragraph _
  exact ⟨doc, wellFormed, by decide, leaves, by decide, by decide, (markInserted_again wellFormed (by decide) leaves).2⟩

end MarkdownHtml.Document
