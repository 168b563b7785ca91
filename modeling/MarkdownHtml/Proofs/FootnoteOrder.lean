import MarkdownHtml.Proofs.BackLinks
import MarkdownHtml.Proofs.ChildEdits
import MarkdownHtml.Proofs.FootnoteCounts
import MarkdownHtml.Proofs.NodeTrees

/-! Where the numbering of footnotes leaves the definitions. Each one leaves its row, the rows close behind it, and
those with a number come to the end of the document in the order of their numbers. Nothing else in the document
changes. -/

namespace MarkdownHtml

/-- Sorting leaves those in their order that may stand either way. -/
theorem pairwise_mergeSort_stable {α : Type} {le : α → α → Bool} {earlier : α → α → Prop}
    (trans : ∀ a b c, le a b → le b c → le a c) (total : ∀ a b, le a b || le b a) {list : List α}
    (ordered : list.Pairwise earlier) : (list.mergeSort le).Pairwise fun a b => le a b ∧ (le b a → earlier a b) := by
  rw [← List.mergeSort_zipIdx, List.pairwise_map]
  have sorted := List.pairwise_mergeSort (List.zipIdxLE_trans trans) (List.zipIdxLE_total total) list.zipIdx
  have perm := List.mergeSort_perm list.zipIdx (List.zipIdxLE le)
  have distinct : (list.zipIdx.mergeSort (List.zipIdxLE le)).Pairwise fun a b => a.2 ≠ b.2 := by
    refine List.pairwise_map.mp ((perm.map Prod.snd).nodup_iff.mpr ?_)
    rw [List.zipIdx_map_snd]
    exact List.nodup_range'
  refine (sorted.and distinct).imp_of_mem fun {a b} memberA memberB both => ?_
  obtain ⟨i, insideA, rfl⟩ := List.mem_iff_getElem.mp (perm.mem_iff.mp memberA)
  obtain ⟨j, insideB, rfl⟩ := List.mem_iff_getElem.mp (perm.mem_iff.mp memberB)
  simp only [List.getElem_zipIdx, List.zipIdxLE, Nat.zero_add] at both ⊢
  rw [List.length_zipIdx] at insideA insideB
  obtain ⟨ranked, different⟩ := both
  split at ranked
  next below =>
    refine ⟨below, fun equal => List.pairwise_iff_getElem.mp ordered i j insideA insideB ?_⟩
    rw [if_pos equal, decide_eq_true_eq] at ranked
    omega
  · cases ranked

private theorem pairwise_idxOf {α : Type} [DecidableEq α] {list : List α} (distinct : list.Nodup) :
    list.Pairwise fun a b => list.idxOf a < list.idxOf b := by
  refine List.pairwise_iff_getElem.mpr fun i j insideI insideJ less => ?_
  rwa [distinct.idxOf_getElem, distinct.idxOf_getElem]

namespace Document
open ReferenceCounts

variable {doc after : Document} {counts : ReferenceCounts}

/-- What a definition adds to the list of those that have a number. -/
def entry (doc : Document) (counts : ReferenceCounts) (id : NodeId) : Option (Nat × NodeId) :=
  ((doc.kind? id).bind definitionKey).bind fun key => (counts.get? key).map fun _ => (number counts key, id)

/-- What the second pass has done to the rows of children, and which definitions it has numbered. -/
structure Collected (doc : Document) (counts : ReferenceCounts) (seen : List NodeId) (state : NumberedDefinitions) :
    Prop extends Detached doc counts seen state where
  rows : ∀ id, state.document.childIds id = (doc.childIds id).filter fun child => child ∉ seen
  entries : state.numbered = seen.filterMap (doc.entry counts)

theorem Collected.start (linked : doc.Linked) : Collected doc counts [] { document := doc } where
  toDetached := .start linked
  rows id := by simp
  entries := rfl

private theorem numberDefinition_rows (counts : ReferenceCounts) {state : NumberedDefinitions}
    (linked : state.document.Linked) {id : NodeId} {key : String} (defines : state.document.Defines key id) :
    (∀ parent, (numberDefinition counts state id).document.childIds parent =
      (state.document.childIds parent).erase id) ∧
      (numberDefinition counts state id).numbered = state.numbered ++ (state.document.entry counts id).toList := by
  obtain ⟨kind, found, same⟩ := Option.bind_eq_some_iff.mp defines
  cases kind with
  | footnoteDefinition label number references =>
    simp only [numberDefinition, found, entry, Option.bind_some, definitionKey]
    cases counts.get? (Text.lowercase label) with
    | none => exact ⟨linked.childIds_detach id, by simp⟩
    | some count =>
      refine ⟨fun parent => ?_, rfl⟩
      have links : SameLinks state.document _ := sameLinks_setKind id
        (.footnoteDefinition label (ReferenceCounts.number counts (Text.lowercase label)) count)
      rw [(links.linked linked).childIds_detach, childIds_of_sameLinks links linked]
  | _ => cases same

theorem Collected.step {seen : List NodeId} {state : NumberedDefinitions} (collected : Collected doc counts seen state)
    (linked : doc.Linked) {id : NodeId} (fresh : id ∉ seen) {key : String} (defines : doc.Defines key id) :
    Collected doc counts (seen ++ [id]) (numberDefinition counts state id) := by
  have here : state.document.kind? id = doc.kind? id := by rw [collected.kind, if_neg fresh]
  have definesHere : state.document.Defines key id := by rwa [Defines, here]
  obtain ⟨rows, entries⟩ := numberDefinition_rows counts collected.linked definesHere
  refine ⟨collected.toDetached.step fresh defines, fun parent => ?_, ?_⟩
  · rw [rows, collected.rows, ((linked.nodup_childIds parent).filter _).erase_eq_filter, List.filter_filter]
    refine List.filter_congr fun child _ => ?_
    by_cases same : child = id <;> simp [same]
  · rw [entries, collected.entries, List.filterMap_append, entry, here, ← entry]
    cases found : doc.entry counts id <;> simp [found]

/-- Nodes without a place that are put below the root come to the end of its row in their order. -/
theorem Rooted.childIds_foldl_appendChild (rooted : doc.Rooted) (entries : List (Nat × NodeId))
    (movable : ∀ entry ∈ entries, doc.Holds entry.2 ∧ entry.2 ≠ root ∧ doc.parent? entry.2 = none)
    (distinct : (entries.map (·.2)).Nodup) (id : NodeId) :
    (entries.foldl (fun doc entry => doc.appendChild root entry.2) doc).childIds id =
      if id = root then doc.childIds root ++ entries.map (·.2) else doc.childIds id := by
  induction entries generalizing doc with
  | nil =>
    split
    next same => simp [same]
    · rfl
  | cons entry rest ih =>
    obtain ⟨held, notRoot, orphan⟩ := movable entry (List.mem_cons_self ..)
    obtain ⟨outside, distinct⟩ := List.nodup_cons.mp distinct
    obtain ⟨next, parent, kind⟩ := rooted.foldl_appendChild [entry] fun other member => by
      cases List.mem_singleton.mp member
      exact ⟨held, notRoot⟩
    simp only [List.foldl_cons, List.foldl_nil] at next parent kind
    have rows := rooted.linked.childIds_appendChild rooted.held held ⟨notRoot, not_ancestor_of_top rooted.top⟩
    simp only [List.erase_of_not_mem (rooted.linked.notMem_childIds orphan _)] at rows
    rw [List.foldl_cons, ih next ?_ distinct]
    · rw [rows, rows]
      split
      · simp
      · rfl
    · intro other member
      obtain ⟨heldOther, notRootOther, orphanOther⟩ := movable other (List.mem_cons_of_mem _ member)
      refine ⟨holds_iff_kind.mpr ?_, notRootOther, ?_⟩
      · rw [kind]
        exact holds_iff_kind.mp heldOther
      · rw [parent, if_neg, orphanOther]
        intro same
        exact outside (List.mem_singleton.mp same ▸ List.mem_map_of_mem member)

/-- What a footnote is numbered with, in its definition. -/
def footnoteNumber : NodeKind → Nat
  | .footnoteDefinition _ number _ => number
  | _ => 0

/-- Footnotes stand in the order of their numbers, those with one number in the order of another document. -/
def Precedes (doc after : Document) (first second : NodeId) : Prop :=
  footnoteNumber (after.kindOf first) < footnoteNumber (after.kindOf second) ∨
    footnoteNumber (after.kindOf first) = footnoteNumber (after.kindOf second) ∧
      [first, second].Sublist (doc.descendants root)

end Document

mutual

/-- A tree without the definitions of footnotes in it, and without what the numbering sets in references. -/
def NodeTree.withoutFootnotes : NodeTree → NodeTree
  | .node kind children => .node (Document.bare kind) (NodeTree.rowWithoutFootnotes children)

def NodeTree.rowWithoutFootnotes : List NodeTree → List NodeTree
  | [] => []
  | .node kind children :: rest =>
    if kind.type = .footnoteDefinition then NodeTree.rowWithoutFootnotes rest
    else NodeTree.withoutFootnotes (.node kind children) :: NodeTree.rowWithoutFootnotes rest

end

namespace Document
open ReferenceCounts

variable {doc after : Document} {counts : ReferenceCounts}

/-- What the numbering of footnotes has done to a document, if these are the definitions that it keeps. -/
structure FootnotesNumbered (doc after : Document) (kept : List NodeId) : Prop where
  references : ∀ before id later, doc.references = before ++ id :: later →
    ∀ label number occurrence, doc.kind? id = some (.footnoteReference label number occurrence) →
      after.kind? id = some (.footnoteReference label (doc.labels.idxOf (Text.lowercase label) + 1)
        ((doc.keysOf before).count (Text.lowercase label) + 1))
  definitions : ∀ id ∈ kept, ∀ label number references,
    doc.kind? id = some (.footnoteDefinition label number references) →
      after.kind? id = some (.footnoteDefinition label (doc.labels.idxOf (Text.lowercase label) + 1)
        ((doc.keysOf doc.references).count (Text.lowercase label)))
  distinct : kept.Nodup
  mem_kept : ∀ id, id ∈ kept ↔ id ∈ doc.definitions ∧ ∃ key ∈ doc.labels, doc.Defines key id
  atEnd : after.childIds root = ((doc.childIds root).filter fun id => id ∉ doc.definitions) ++ kept
  others : ∀ id, id ≠ root → after.childIds id = (doc.childIds id).filter fun child => child ∉ doc.definitions
  sorted : kept.Pairwise (Precedes doc after)
  dropped : ∀ id, doc.type? id = some .footnoteDefinition → id ∉ kept → id ∉ after.descendants root
  rest : (after.tree root).withoutFootnotes = (doc.tree root).withoutFootnotes

private theorem rowWithoutFootnotes_map_tree (wellFormed : doc.WellFormed) (ids : List NodeId)
    (held : ∀ id ∈ ids, doc.Holds id) :
    NodeTree.rowWithoutFootnotes (ids.map doc.tree) =
      (ids.filter fun id => doc.type? id != some .footnoteDefinition).map fun id => (doc.tree id).withoutFootnotes := by
  induction ids with
  | nil => rfl
  | cons id rest ih =>
    obtain ⟨here, later⟩ := List.forall_mem_cons.mp held
    have type : doc.type? id = some (doc.kindOf id).type := by rw [type?, kind?_eq_kindOf here, Option.map_some]
    rw [List.map_cons, wellFormed.tree_eq here, NodeTree.rowWithoutFootnotes, ih later, ← wellFormed.tree_eq here,
      List.filter_cons, type]
    by_cases same : (doc.kindOf id).type = .footnoteDefinition <;> simp [same]

theorem SameLabels.type? (labels : SameLabels doc after) (id : NodeId) : after.type? id = doc.type? id := by
  have blind : ∀ kind : NodeKind, (bare kind).type = kind.type := fun kind => by cases kind <;> rfl
  have same := congrArg (Option.map NodeKind.type) (labels id)
  simpa only [Document.type?, Option.map_map, Function.comp_def, blind] using same

private theorem withoutFootnotes_tree_eq (wellFormed : doc.WellFormed) (wellFormedAfter : after.WellFormed)
    (labels : SameLabels doc after)
    (rows : ∀ id, ((after.childIds id).filter fun child => doc.type? child != some .footnoteDefinition) =
      (doc.childIds id).filter fun child => doc.type? child != some .footnoteDefinition)
    (id : NodeId) (held : doc.Holds id) : (after.tree id).withoutFootnotes = (doc.tree id).withoutFootnotes := by
  induction id using wellFormed.child_induction with
  | step id ih =>
    have heldAfter := (labels.holds id).mpr held
    have kinds : bare (after.kindOf id) = bare (doc.kindOf id) := by
      have same := labels id
      rw [kind?_eq_kindOf held, kind?_eq_kindOf heldAfter] at same
      exact Option.some.inj same
    have inside : ∀ child ∈ doc.childIds id, doc.Holds child := fun child => wellFormed.linked.holds_of_mem_childIds
    rw [wellFormed.tree_eq held, wellFormedAfter.tree_eq heldAfter, NodeTree.withoutFootnotes,
      NodeTree.withoutFootnotes, kinds, rowWithoutFootnotes_map_tree wellFormed _ inside,
      rowWithoutFootnotes_map_tree wellFormedAfter _ fun child => wellFormedAfter.linked.holds_of_mem_childIds]
    simp only [labels.type?, rows]
    congr 1
    refine List.map_congr_left fun child member => ?_
    have member := List.mem_of_mem_filter member
    exact ih child member (inside child member)

private theorem Counted.kind_definition {ids : List NodeId} {state : Document × ReferenceCounts}
    (counted : Counted doc ids state) {id : NodeId} {key : String} (defines : doc.Defines key id) :
    state.1.kind? id = doc.kind? id := by
  by_cases member : id ∈ ids
  · obtain ⟨before, later, split⟩ := List.append_of_mem member
    obtain ⟨kind, found, same⟩ := Option.bind_eq_some_iff.mp defines
    have other : referenceKey kind = none := by cases kind <;> first | rfl | cases same
    rw [counted.written before id later split, found]
    exact congrArg some (refer_of_referenceKey other)
  · exact counted.ahead id member

private theorem references_split {before later : List NodeId} {id : NodeId}
    (split : doc.references = before ++ id :: later) :
    ∃ front rest, doc.descendants root = front ++ id :: rest ∧ doc.keysOf front = doc.keysOf before := by
  obtain ⟨first, second, parts, rfl, tail⟩ := List.filter_eq_append_iff.mp split
  obtain ⟨passed, rest, rfl, none_, _, _⟩ := List.filter_eq_cons_iff.mp tail
  refine ⟨first ++ passed, rest, by rw [parts, List.append_assoc], ?_⟩
  rw [keysOf_append, keysOf_filter, ← keysOf_filter passed, List.filter_eq_nil_iff.mpr none_]
  exact List.append_nil _

private theorem entry_snd (ids : List NodeId) :
    (ids.filterMap (doc.entry counts)).map (·.2) = ids.filter fun id => (doc.entry counts id).isSome := by
  rw [List.map_filterMap, ← List.filterMap_eq_filter]
  refine List.filterMap_congr fun id _ => ?_
  cases defines : (doc.kind? id).bind definitionKey with
  | none => simp [entry, defines, Option.guard]
  | some key => cases found : counts.get? key <;> simp [entry, defines, found, Option.guard]

private theorem mem_entry {id other : NodeId} {number : Nat} (found : doc.entry counts id = some (number, other)) :
    id = other ∧ ∃ key, doc.Defines key id ∧ (counts.get? key).isSome ∧ ReferenceCounts.number counts key = number := by
  obtain ⟨key, defines, found⟩ := Option.bind_eq_some_iff.mp found
  obtain ⟨count, counted, same⟩ := Option.map_eq_some_iff.mp found
  cases same
  exact ⟨rfl, key, defines, by rw [counted]; rfl, rfl⟩

section
variable {first : Document × ReferenceCounts} {second : NumberedDefinitions} {sorted : List (Nat × NodeId)}
  (rooted : doc.Rooted) (numbered : Numbered doc (doc.descendants root) first)
  (counted : Counted doc (doc.descendants root) first)
  (collected : Collected first.1 first.2 doc.definitions second) (perm : sorted.Perm second.numbered)

include rooted collected perm in
private theorem distinct_sorted : (sorted.map (·.2)).Nodup := by
  rw [(perm.map _).nodup_iff, collected.entries, entry_snd]
  exact ((rooted.linked.wellFormed.nodup_descendants rooted.held).filter _).filter _

include collected in
private theorem ordered_numbered : second.numbered.Pairwise fun a b => [a.2, b.2].Sublist (doc.descendants root) := by
  have ordered : (second.numbered.map (·.2)).Pairwise fun a b => [a, b].Sublist (doc.descendants root) := by
    rw [collected.entries, entry_snd]
    exact List.pairwise_iff_forall_sublist.mpr fun pair => (pair.trans List.filter_sublist).trans List.filter_sublist
  exact List.pairwise_map.mp ordered

include numbered collected perm in
private theorem mem_sorted (id : NodeId) :
    id ∈ sorted.map (·.2) ↔ id ∈ doc.definitions ∧ ∃ key ∈ doc.labels, doc.Defines key id := by
  rw [(perm.map _).mem_iff, numbered_detached numbered collected.toDetached]
  simp only [mem_labels, and_comm]

include rooted numbered collected perm

private theorem movable_sorted : ∀ entry ∈ sorted, second.document.Holds entry.2 ∧ entry.2 ≠ root ∧
    second.document.parent? entry.2 = none := by
  intro entry member
  have inside := ((mem_sorted numbered collected perm entry.2).mp (List.mem_map_of_mem member)).1
  refine ⟨?_, fun same => rooted.notMem_definitions (same ▸ inside), by rw [collected.parent, if_pos inside]⟩
  rw [(sameLabels_detached numbered collected.toDetached).holds]
  exact ((rooted.linked.wellFormed.mem_descendants rooted.held).mp (mem_definitions.mp inside).1).holds rooted.held

private theorem kind_sorted (id : NodeId) :
    (sorted.foldl (fun doc entry => doc.appendChild root entry.2) second.document).kind? id =
      if id ∈ doc.definitions then (first.1.kind? id).map (settle first.2) else first.1.kind? id := by
  have movable := movable_sorted rooted numbered collected perm
  rw [← collected.kind]
  exact ((rooted_detached numbered collected.toDetached rooted).foldl_appendChild sorted fun entry member =>
    ⟨(movable entry member).1, (movable entry member).2.1⟩).2.2 id

private theorem rows_sorted (id : NodeId) :
    (sorted.foldl (fun doc entry => doc.appendChild root entry.2) second.document).childIds id =
      ((doc.childIds id).filter fun child => child ∉ doc.definitions) ++
        if id = root then sorted.map (·.2) else [] := by
  rw [(rooted_detached numbered collected.toDetached rooted).childIds_foldl_appendChild sorted
    (movable_sorted rooted numbered collected perm) (distinct_sorted rooted collected perm)]
  simp only [collected.rows, childIds_of_sameLinks numbered.links rooted.linked]
  split
  next same => rw [same]
  · rw [List.append_nil]

private theorem plainRows_sorted (id : NodeId) :
    (((sorted.foldl (fun doc entry => doc.appendChild root entry.2) second.document).childIds id).filter
      fun child => doc.type? child != some .footnoteDefinition) =
      (doc.childIds id).filter fun child => doc.type? child != some .footnoteDefinition := by
  have type : ∀ child ∈ doc.definitions, doc.type? child = some .footnoteDefinition := fun child inside =>
    eq_of_beq (List.mem_filter.mp inside).2
  have appended : (if id = root then sorted.map (·.2) else []).filter
      (fun child => doc.type? child != some .footnoteDefinition) = [] := by
    split
    · refine List.filter_eq_nil_iff.mpr fun child member => ?_
      simp [type child ((mem_sorted numbered collected perm child).mp member).1]
    · rfl
  rw [rows_sorted rooted numbered collected perm, List.filter_append, appended, List.append_nil, List.filter_filter]
  refine List.filter_congr fun child _ => ?_
  by_cases inside : child ∈ doc.definitions
  · simp [type child inside]
  · simp [inside]

include counted

private theorem kind_kept {id : NodeId} (member : id ∈ sorted.map (·.2)) {label : String} {number references : Nat}
    (found : doc.kind? id = some (.footnoteDefinition label number references)) :
    (sorted.foldl (fun doc entry => doc.appendChild root entry.2) second.document).kind? id =
      some (.footnoteDefinition label (doc.labels.idxOf (Text.lowercase label) + 1)
        ((doc.keysOf doc.references).count (Text.lowercase label))) := by
  have tallies : Tallies (doc.keysOf doc.references) first.2 := keysOf_references ▸ counted.tallies
  obtain ⟨inside, key, referenced, defines⟩ := (mem_sorted numbered collected perm id).mp member
  have same : key = Text.lowercase label := by
    rw [Defines, found] at defines
    exact (Option.some.inj defines).symm
  subst same
  have settled := tallies.get? (Text.lowercase label)
  rw [if_pos (List.mem_eraseDups.mp referenced)] at settled
  rw [kind_sorted rooted numbered collected perm, if_pos inside, counted.kind_definition defines, found]
  simp only [Option.map_some, settle, settled, tallies.number]
  rfl

private theorem number_kept {entry : Nat × NodeId} (member : entry ∈ sorted) :
    footnoteNumber ((sorted.foldl (fun doc entry => doc.appendChild root entry.2) second.document).kindOf entry.2) =
      entry.1 := by
  have tallies : Tallies (doc.keysOf doc.references) first.2 := keysOf_references ▸ counted.tallies
  have listed := perm.mem_iff.mp member
  rw [collected.entries] at listed
  obtain ⟨id, _, found⟩ := List.mem_filterMap.mp listed
  obtain ⟨rfl, key, defines, _, number⟩ := mem_entry found
  have definesHere : doc.Defines key entry.2 := (numbered.labels.defines key _).mp defines
  obtain ⟨kind, here, same⟩ := Option.bind_eq_some_iff.mp definesHere
  cases kind with
  | footnoteDefinition label before references =>
    cases same
    rw [kindOf_eq (kind_kept rooted numbered counted collected perm (List.mem_map_of_mem member) here), ← number,
      tallies.number]
    rfl
  | _ => cases same

private theorem kind_reference {before later : List NodeId} {id : NodeId}
    (split : doc.references = before ++ id :: later) {label : String} {number occurrence : Nat}
    (found : doc.kind? id = some (.footnoteReference label number occurrence)) :
    (sorted.foldl (fun doc entry => doc.appendChild root entry.2) second.document).kind? id =
      some (.footnoteReference label (doc.labels.idxOf (Text.lowercase label) + 1)
        ((doc.keysOf before).count (Text.lowercase label) + 1)) := by
  obtain ⟨front, rest, whole, keys⟩ := references_split split
  have outside : id ∉ doc.definitions := by
    intro inside
    obtain ⟨_, key, defines⟩ := mem_definitions.mp inside
    rw [Defines, found] at defines
    cases defines
  have here : Text.lowercase label ∈ doc.keysOf (front ++ [id]) := by
    rw [mem_keysOf]
    exact ⟨id, by simp, by rw [RefersTo, found]; rfl⟩
  have place := idxOf_eraseDups_append here (doc.keysOf rest)
  rw [← keysOf_append, List.append_assoc, List.singleton_append, ← whole, ← keysOf_references, keysOf_append,
    keysOf_singleton, found] at place
  rw [kind_sorted rooted numbered collected perm, if_neg outside, counted.written front id rest whole, found, ← keys,
    labels, place]
  rfl

private theorem footnotesNumbered_sorted (stable : sorted.Pairwise fun a b => a.1 ≤ b.1 ∧
      (b.1 ≤ a.1 → [a.2, b.2].Sublist (doc.descendants root))) :
    FootnotesNumbered doc (sorted.foldl (fun doc entry => doc.appendChild root entry.2) second.document)
      (sorted.map (·.2)) where
  references before id later split label number occurrence found :=
    kind_reference rooted numbered counted collected perm split found
  definitions id member label number references found := kind_kept rooted numbered counted collected perm member found
  distinct := distinct_sorted rooted collected perm
  mem_kept := mem_sorted numbered collected perm
  atEnd := by rw [rows_sorted rooted numbered collected perm, if_pos rfl]
  others id different := by rw [rows_sorted rooted numbered collected perm, if_neg different, List.append_nil]
  sorted := by
    rw [List.pairwise_map]
    refine stable.imp_of_mem fun {a b} memberA memberB order => ?_
    rw [Precedes, number_kept rooted numbered counted collected perm memberA,
      number_kept rooted numbered counted collected perm memberB]
    rcases Nat.lt_or_eq_of_le order.1 with less | equal
    · exact .inl less
    · exact .inr ⟨equal, order.2 equal.ge⟩
  dropped := by
    intro id type outside member
    have renumbered := renumbered_sorted numbered collected.toDetached rooted perm
    obtain ⟨inside, found⟩ := (mem_descendants_renumbered rooted renumbered).mp member
    have defined : id ∈ doc.definitions := List.mem_filter.mpr ⟨inside, by rw [type]; rfl⟩
    obtain ⟨key, defines⟩ := (mem_definitions.mp defined).2
    refine found (.dropped defines fun referenced => outside ?_)
    exact (mem_sorted numbered collected perm id).mpr ⟨defined, key, mem_labels.mpr referenced, defines⟩
  rest := by
    have renumbered := renumbered_sorted numbered collected.toDetached rooted perm
    exact withoutFootnotes_tree_eq rooted.linked.wellFormed renumbered.rooted.linked.wellFormed renumbered.labels
      (plainRows_sorted rooted numbered collected perm) root rooted.held

end

private theorem collected_all (rooted : doc.Rooted) {first : Document × ReferenceCounts}
    (numbered : Numbered doc (doc.descendants root) first) :
    Collected first.1 first.2 doc.definitions
      (doc.definitions.foldl (numberDefinition first.2) { document := first.1 }) := by
  have linked := numbered.links.linked rooted.linked
  have distinct := rooted.linked.wellFormed.nodup_descendants rooted.held
  refine foldl_passed (.start linked) (distinct.filter _) ?_
  intro seen state id fresh member collected
  obtain ⟨key, defines⟩ := (mem_definitions.mp member).2
  exact collected.step linked fresh ((numbered.labels.defines key id).mpr defines)

theorem Rooted.exists_footnotesNumbered (rooted : doc.Rooted) :
    ∃ kept, FootnotesNumbered doc doc.numberFootnotes.1 kept := by
  have distinct := rooted.linked.wellFormed.nodup_descendants rooted.held
  have numbered : Numbered doc _ _ := numbered_all _ distinct
  have counted : Counted doc _ _ := counted_all _ distinct
  have collected := collected_all rooted numbered
  refine ⟨_, footnotesNumbered_sorted rooted numbered counted collected (List.mergeSort_perm _ _) ?_⟩
  refine (pairwise_mergeSort_stable ?_ ?_ (ordered_numbered collected)).imp ?_
  · intro a b c low high
    exact decide_eq_true ((of_decide_eq_true low).trans (of_decide_eq_true high))
  · intro a b
    rw [Bool.or_eq_true, decide_eq_true_eq, decide_eq_true_eq]
    exact Nat.le_total a.1 b.1
  · rintro a b ⟨low, stable⟩
    exact ⟨of_decide_eq_true low, fun high => stable (decide_eq_true high)⟩

/-- The definitions that something refers to, in the order of first references. -/
def notes (doc : Document) : List NodeId :=
  doc.labels.flatMap fun key => doc.definitions.filter fun id => doc.Defines key id

theorem mem_notes {id : NodeId} : id ∈ doc.notes ↔ id ∈ doc.definitions ∧ ∃ key ∈ doc.labels, doc.Defines key id := by
  simp only [notes, List.mem_flatMap, List.mem_filter, decide_eq_true_eq]
  constructor
  · rintro ⟨key, referenced, member, defines⟩
    exact ⟨member, key, referenced, defines⟩
  · rintro ⟨member, key, referenced, defines⟩
    exact ⟨key, referenced, member, defines⟩

theorem nodup_labels : doc.labels.Nodup := nodup_eraseDups _

namespace FootnotesNumbered
variable {kept : List NodeId} (rooted : doc.Rooted) (numbered : FootnotesNumbered doc after kept)
include numbered

private theorem number {id : NodeId} (member : id ∈ kept) {key : String} (defines : doc.Defines key id) :
    footnoteNumber (after.kindOf id) = doc.labels.idxOf key + 1 := by
  obtain ⟨kind, found, same⟩ := Option.bind_eq_some_iff.mp defines
  cases kind with
  | footnoteDefinition label before references =>
    cases same
    rw [kindOf_eq (numbered.definitions id member label before references found)]
    rfl
  | _ => cases same

private theorem pairwise_notes : doc.notes.Pairwise (Precedes doc after) := by
  have kept_ : ∀ key ∈ doc.labels, ∀ id ∈ doc.definitions.filter fun id => doc.Defines key id,
      id ∈ kept ∧ doc.Defines key id := by
    intro key referenced id member
    obtain ⟨inside, defines⟩ := List.mem_filter.mp member
    have defines := of_decide_eq_true defines
    exact ⟨(numbered.mem_kept id).mpr ⟨inside, key, referenced, defines⟩, defines⟩
  refine List.pairwise_flatMap.mpr ⟨fun key referenced => ?_, ?_⟩
  · refine List.pairwise_iff_forall_sublist.mpr fun {a b} pair => .inr ⟨?_, ?_⟩
    · obtain ⟨keptA, definesA⟩ := kept_ key referenced a (pair.subset (by simp))
      obtain ⟨keptB, definesB⟩ := kept_ key referenced b (pair.subset (by simp))
      rw [numbered.number keptA definesA, numbered.number keptB definesB]
    · exact (pair.trans List.filter_sublist).trans List.filter_sublist
  · refine (pairwise_idxOf nodup_labels).imp_of_mem fun {first second} left right less a memberA b memberB => .inl ?_
    obtain ⟨keptA, definesA⟩ := kept_ first left a memberA
    obtain ⟨keptB, definesB⟩ := kept_ second right b memberB
    rw [numbered.number keptA definesA, numbered.number keptB definesB]
    omega

include rooted in
theorem kept_eq : kept = doc.notes := by
  have distinct := rooted.linked.wellFormed.nodup_descendants rooted.held
  have irreflexive : ∀ a b, Precedes doc after a b → a ≠ b := by
    rintro a b (less | ⟨_, pair⟩) rfl
    · exact lt_irrefl _ less
    · simpa using distinct.sublist pair
  have antisymmetric : ∀ a b, a ∈ kept → b ∈ doc.notes → Precedes doc after a b → Precedes doc after b a → a = b := by
    rintro a b _ _ (less | ⟨_, pair⟩) (lessBack | ⟨_, pairBack⟩)
    · omega
    · omega
    · omega
    · have forth := List.pairwise_iff_forall_sublist.mp (pairwise_idxOf distinct) pair
      have back := List.pairwise_iff_forall_sublist.mp (pairwise_idxOf distinct) pairBack
      omega
  have distinctNotes : doc.notes.Nodup := numbered.pairwise_notes.imp fun {a b} => irreflexive a b
  have perm := (List.perm_ext_iff_of_nodup numbered.distinct distinctNotes).mpr fun id =>
    (numbered.mem_kept id).trans mem_notes.symm
  exact perm.eq_of_pairwise antisymmetric numbered.sorted numbered.pairwise_notes

end FootnotesNumbered

/-- What becomes of the footnotes of a document, for any document whose links agree. -/
theorem Rooted.footnotesNumbered (rooted : doc.Rooted) : FootnotesNumbered doc doc.numberFootnotes.1 doc.notes := by
  obtain ⟨kept, numbered⟩ := rooted.exists_footnotesNumbered
  rwa [← numbered.kept_eq rooted]

/-- A definition refers to another one first, in capitals, and holds one that nothing refers to. -/
theorem footnotesNumbered_nested :
    FootnotesNumbered (placed [.node (.footnoteDefinition "a") [.node (.footnoteDefinition "c") [],
        .node .paragraph [.leaf (.footnoteReference "B")]], .node .paragraph [.leaf (.footnoteReference "a"),
        .leaf (.footnoteReference "b")], .node (.footnoteDefinition "b") []])
      (placed [.node (.footnoteDefinition "a") [.node (.footnoteDefinition "c") [],
        .node .paragraph [.leaf (.footnoteReference "B")]], .node .paragraph [.leaf (.footnoteReference "a"),
        .leaf (.footnoteReference "b")], .node (.footnoteDefinition "b") []]).numberFootnotes.1 [⟨8⟩, ⟨1⟩] := by
  have notes : (placed [.node (.footnoteDefinition "a") [.node (.footnoteDefinition "c") [],
      .node .paragraph [.leaf (.footnoteReference "B")]], .node .paragraph [.leaf (.footnoteReference "a"),
      .leaf (.footnoteReference "b")], .node (.footnoteDefinition "b") []]).notes = [⟨8⟩, ⟨1⟩] := by
    simp only [placed, under, place, placement, List.map_cons, List.map_nil, List.cons_append, List.nil_append,
      GrammarTree.leaf]
    decide +kernel
  rw [← notes]
  exact (rooted_placed _).footnotesNumbered

end Document

end MarkdownHtml
