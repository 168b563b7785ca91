import MarkdownHtml.Proofs.ChildLists
import MarkdownHtml.Proofs.PlusSpans

/-! The runs of plus signs that find a partner, text by text: the delimiters of a text come in the order of their
offsets, and at each of them the text is cut between plus signs. -/

namespace MarkdownHtml.Document

variable {doc after : Document}

theorem plusRuns_increasing (start : Nat) (before : Option Char) (letters : List Char) :
    ((plusRuns start before letters).map PlusRun.offset).Pairwise (· < ·) ∧
      ∀ run ∈ plusRuns start before letters, start ≤ run.offset := by
  fun_induction plusRuns start before letters with
  | case1 start before rest ih =>
    obtain ⟨increasing, above⟩ := ih
    refine ⟨List.pairwise_cons.mpr ⟨fun offset member => ?_, increasing⟩, List.forall_mem_cons.mpr ⟨Nat.le_refl _, ?_⟩⟩
    · obtain ⟨run, inside, rfl⟩ := List.mem_map.mp member
      have bound := above run inside
      change start < run.offset
      omega
    · intro run member
      have bound := above run member
      omega
  | case2 start before c rest _ ih =>
    exact ⟨ih.1, fun run member => Nat.le_of_succ_le (ih.2 run member)⟩
  | case3 => exact ⟨.nil, nofun⟩

/-- A text that is cut at delimiters, at each of them between two plus signs. -/
inductive Cuts : Nat → List Char → List Delimiter → Prop
  | done (start : Nat) (rest : List Char) : Cuts start rest []
  | cut {start : Nat} {rest : List Char} {delimiter : Delimiter} {delimiters : List Delimiter} (before : List Char)
      (here : delimiter.offset = start + before.length) (later : Cuts (delimiter.offset + 2) rest delimiters) :
      Cuts start (before ++ '+' :: '+' :: rest) (delimiter :: delimiters)

private theorem Cuts.behind {start : Nat} {rest : List Char} {delimiters : List Delimiter} (c : Char)
    (cuts : Cuts (start + 1) rest delimiters) : Cuts start (c :: rest) delimiters := by
  cases cuts with
  | done => exact .done _ _
  | cut before here later =>
    refine .cut (c :: before) ?_ later
    rw [here, List.length_cons]
    omega

theorem Cuts.bounds {offset : Nat} {letters : List Char} {delimiters : List Delimiter}
    (cuts : Cuts offset letters delimiters) {delimiter : Delimiter} (member : delimiter ∈ delimiters) :
    offset ≤ delimiter.offset ∧ delimiter.offset + 2 ≤ offset + letters.length := by
  induction cuts with
  | done => cases member
  | cut before here _ ih =>
    simp only [List.length_append, List.length_cons]
    rcases List.mem_cons.mp member with rfl | later
    · omega
    · have bounds := ih later
      omega

theorem Cuts.eq_nil {offset : Nat} {delimiters : List Delimiter} (cuts : Cuts offset [] delimiters) : delimiters = [] := by
  refine List.eq_nil_iff_forall_not_mem.mpr fun delimiter member => ?_
  have bounds := cuts.bounds member
  rw [List.length_nil] at bounds
  omega

private theorem cuts_of_sublist (start : Nat) (before : Option Char) (letters : List Char) {delimiters : List Delimiter}
    (inside : (delimiters.map Delimiter.offset).Sublist ((plusRuns start before letters).map PlusRun.offset)) :
    Cuts start letters delimiters := by
  fun_induction plusRuns start before letters generalizing delimiters with
  | case1 start before rest ih =>
    rcases List.sublist_cons_iff.mp inside with skipped | ⟨offsets, same, later⟩
    · exact .behind '+' (.behind '+' (ih skipped))
    · obtain ⟨delimiter, delimiters, rfl, here, rfl⟩ := List.map_eq_cons_iff.mp same
      refine .cut [] here ?_
      rw [here]
      exact ih later
  | case2 start before c rest _ ih => exact .behind c (ih inside)
  | case3 =>
    obtain rfl : delimiters = [] := List.map_eq_nil_iff.mp (List.sublist_nil.mp inside)
    exact .done _ _

theorem fst_of_mem_runPlaces {child : NodeId} {place : NodeId × Nat} (member : place ∈ doc.runPlaces child) :
    place.1 = child := by
  unfold runPlaces at member
  split at member
  · obtain ⟨run, _, rfl⟩ := List.mem_map.mp member
    rfl
  · cases member

/-- The delimiters of a word that stand in one text. -/
def within (text : NodeId) (word : List Delimiter) : List Delimiter := word.filter fun delimiter => delimiter.text == text

theorem within_eq_self {word : List Delimiter} {child : NodeId}
    (inside : (word.map Delimiter.place).Sublist (doc.runPlaces child)) : within child word = word := by
  refine List.filter_eq_self.mpr fun delimiter member => ?_
  have here := inside.subset (List.mem_map_of_mem member)
  exact beq_iff_eq.mpr (fst_of_mem_runPlaces here)

theorem within_eq_nil {word : List Delimiter} {child : NodeId} {children : List NodeId} (outside : child ∉ children)
    (inside : (word.map Delimiter.place).Sublist (children.flatMap doc.runPlaces)) : within child word = [] := by
  refine List.filter_eq_nil_iff.mpr fun delimiter member same => ?_
  obtain ⟨other, among, here⟩ := List.mem_flatMap.mp (inside.subset (List.mem_map_of_mem member))
  have text : delimiter.text = other := fst_of_mem_runPlaces here
  exact outside (eq_of_beq same ▸ text ▸ among)

private theorem flatMap_within {children : List NodeId} (distinct : children.Nodup) {word : List Delimiter}
    (inside : (word.map Delimiter.place).Sublist (children.flatMap doc.runPlaces)) :
    (children.flatMap fun child => within child word) = word ∧
      ∀ child ∈ children, ((within child word).map Delimiter.place).Sublist (doc.runPlaces child) := by
  induction children generalizing word with
  | nil =>
    rw [List.flatMap_nil, List.sublist_nil, List.map_eq_nil_iff] at inside
    subst inside
    exact ⟨rfl, nofun⟩
  | cons child children ih =>
    obtain ⟨outside, distinct⟩ := List.nodup_cons.mp distinct
    obtain ⟨first, second, same, here, later⟩ := List.sublist_append_iff.mp inside
    obtain ⟨word, rest, rfl, rfl, rfl⟩ := List.map_eq_append_iff.mp same
    have own : within child (word ++ rest) = word := by
      rw [within, List.filter_append]
      exact (congrArg₂ _ (within_eq_self here) (within_eq_nil outside later)).trans (List.append_nil _)
    have others : ∀ other ∈ children, within other (word ++ rest) = within other rest := by
      intro other member
      have apart : other ∉ [child] := fun same => outside (List.mem_singleton.mp same ▸ member)
      have single : (word.map Delimiter.place).Sublist ([child].flatMap doc.runPlaces) := by
        rw [List.flatMap_singleton]
        exact here
      rw [within, List.filter_append]
      exact congrArg₂ _ (within_eq_nil apart single) rfl
    obtain ⟨whole, parts⟩ := ih distinct later
    constructor
    · rw [List.flatMap_cons, own, List.flatMap_congr others, whole]
    · refine List.forall_mem_cons.mpr ⟨?_, fun other member => ?_⟩
      · rw [own]
        exact here
      · rw [others other member]
        exact parts other member

private theorem delimitersOf_eq {matched word : List Delimiter} (perm : matched.Perm word) {text : NodeId}
    (increasing : ((within text word).map Delimiter.offset).Pairwise (· < ·)) :
    delimitersOf matched text = within text word := by
  -- In whatever order the delimiters were found, those of one text come in the order of their offsets.
  have sorted : (delimitersOf matched text).Pairwise fun first second => first.offset ≤ second.offset := by
    refine (List.pairwise_mergeSort ?_ ?_ _).imp fun smaller => of_decide_eq_true smaller
    · intro first second third left right
      exact decide_eq_true (Nat.le_trans (of_decide_eq_true left) (of_decide_eq_true right))
    · intro first second
      rw [Bool.or_eq_true, decide_eq_true_eq, decide_eq_true_eq]
      exact Nat.le_total _ _
  have same : (delimitersOf matched text).Perm (within text word) := (List.mergeSort_perm _ _).trans (perm.filter _)
  have strict := List.pairwise_map.mp increasing
  refine List.Perm.eq_of_pairwise (fun first second left right below above => ?_) sorted
    (strict.imp fun smaller => Nat.le_of_lt smaller) same
  by_contra different
  have apart : Std.Symm fun first second : Delimiter => first.offset ≠ second.offset := ⟨fun _ _ apart => apart.symm⟩
  exact (strict.imp fun smaller => Nat.ne_of_lt smaller).forall (same.subset left) right different
    (Nat.le_antisymm below above)

private theorem cuts_of_runPlaces {child : NodeId} {word : List Delimiter}
    (inside : (word.map Delimiter.place).Sublist (doc.runPlaces child)) :
    (word.map Delimiter.offset).Pairwise (· < ·) ∧
      (word ≠ [] → ∃ literal, doc.kind? child = some (.text literal) ∧ Cuts 0 literal.toList word) := by
  unfold runPlaces at inside
  split at inside
  next literal found =>
    have offsets := inside.map Prod.snd
    rw [List.map_map, List.map_map] at offsets
    exact ⟨(plusRuns_increasing 0 none literal.toList).1.sublist offsets,
      fun _ => ⟨literal, found, cuts_of_sublist 0 none _ offsets⟩⟩
  · obtain rfl : word = [] := List.map_eq_nil_iff.mp (List.sublist_nil.mp inside)
    exact ⟨.nil, fun some_ => absurd rfl some_⟩

/-- A word that has the delimiters of a container in the order of their places is what the children say, one after
another. -/
theorem Linked.flatMap_delimitersOf (linked : doc.Linked) {container : NodeId} {word : List Delimiter}
    (inside : (word.map Delimiter.place).Sublist ((doc.childIds container).flatMap doc.runPlaces))
    (perm : (doc.matchDelimiters container).Perm word) :
    (doc.childIds container).flatMap (delimitersOf (doc.matchDelimiters container)) = word ∧
      ∀ child ∈ doc.childIds container, delimitersOf (doc.matchDelimiters container) child = within child word ∧
        ((within child word).map Delimiter.place).Sublist (doc.runPlaces child) := by
  obtain ⟨whole, parts⟩ := flatMap_within (linked.nodup_childIds container) inside
  have same : ∀ child ∈ doc.childIds container,
      delimitersOf (doc.matchDelimiters container) child = within child word :=
    fun child member => delimitersOf_eq perm (cuts_of_runPlaces (parts child member)).1
  exact ⟨(List.flatMap_congr same).trans whole, fun child member => ⟨same child member, parts child member⟩⟩

theorem Linked.sublist_runPlaces (linked : doc.Linked) {container child : NodeId} (member : child ∈ doc.childIds container) :
    ((delimitersOf (doc.matchDelimiters container) child).map Delimiter.place).Sublist (doc.runPlaces child) := by
  obtain ⟨word, _, inside, perm⟩ := exists_word doc container
  obtain ⟨same, part⟩ := (linked.flatMap_delimitersOf inside perm).2 child member
  rwa [same]

/-- The delimiters of a container: balanced over all of its children, and each text is cut at its own ones. -/
theorem Linked.matched (linked : doc.Linked) (container : NodeId) :
    ((doc.childIds container).flatMap (delimitersOf (doc.matchDelimiters container))).Perm
        (doc.matchDelimiters container) ∧
      Balanced ((doc.childIds container).flatMap (delimitersOf (doc.matchDelimiters container))) ∧
      ∀ child ∈ doc.childIds container, delimitersOf (doc.matchDelimiters container) child ≠ [] →
        ∃ literal, doc.kind? child = some (.text literal) ∧
          Cuts 0 literal.toList (delimitersOf (doc.matchDelimiters container) child) := by
  obtain ⟨word, balanced, inside, perm⟩ := exists_word doc container
  obtain ⟨inOrder, parts⟩ := linked.flatMap_delimitersOf inside perm
  refine ⟨?_, ?_, fun child member => ?_⟩
  · rw [inOrder]
    exact perm.symm
  · rw [inOrder]
    exact balanced
  · rw [(parts child member).1]
    exact (cuts_of_runPlaces (parts child member).2).2

private theorem siblingFlank_congr {sibling : Option NodeId}
    (same : ∀ id, sibling = some id → after.kind? id = doc.kind? id)
    (edge : List Char → Option Char) : after.siblingFlank edge sibling = doc.siblingFlank edge sibling := by
  unfold siblingFlank
  cases sibling with
  | none => rfl
  | some id => simp only [Option.bind_some, same id rfl]

/-- Runs are matched by what the children of a container are and how they follow one another. -/
theorem Linked.matchDelimiters_congr (linked : doc.Linked) (linkedAfter : after.Linked) {container : NodeId}
    (same : after.childIds container = doc.childIds container)
    (kinds : ∀ child ∈ doc.childIds container, after.kind? child = doc.kind? child) :
    after.matchDelimiters container = doc.matchDelimiters container := by
  have flanks : ∀ child ∈ doc.childIds container, ∀ run : PlusRun, run.flanks after child = run.flanks doc child := by
    intro child member run
    obtain ⟨previous, next⟩ := linked.neighbours_congr linkedAfter same member
    have under := linked.parent_of_mem_childIds member
    have before := siblingFlank_congr (fun id found => kinds id (linked.mem_childIds.mpr
      ((linked.sameParent id child ((linked.inverse id child).mpr found)).trans under))) List.getLast?
    have behind := siblingFlank_congr (fun id found => kinds id (linked.mem_childIds.mpr
      ((linked.sameParent child id found).symm.trans under))) List.head?
    simp only [PlusRun.flanks, previous, next, before, behind]
  have children : ∀ child ∈ doc.childIds container, ∀ state : Matching, state.addChild after child = state.addChild doc child := by
    intro child member state
    have runs : Matching.addRun after child = Matching.addRun doc child := by
      funext state run
      simp only [Matching.addRun, flanks child member run]
    simp only [Matching.addChild, kinds child member, runs]
  rw [matchDelimiters, matchDelimiters, same]
  exact congrArg Matching.matched (List.foldl_ext _ _ _ fun state child member => children child member state)

end MarkdownHtml.Document
