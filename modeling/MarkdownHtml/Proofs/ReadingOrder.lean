import MarkdownHtml.Proofs.FootnoteOrder

/-! The order in which a reader meets the references to footnotes. Numbers are given out before the definitions move to
the end, and a definition takes the references in it along. So the reader meets the numbers in their order if and only
if the move keeps the references in the order that they were numbered in. -/

namespace MarkdownHtml

private theorem eraseDups_map {α β : Type} [DecidableEq α] [DecidableEq β] {f : α → β} {list : List α}
    (injective : ∀ a ∈ list, ∀ b ∈ list, f a = f b → a = b) : (list.map f).eraseDups = list.eraseDups.map f := by
  induction list using List.reverseRecOn with
  | nil => rfl
  | append_singleton list last ih =>
    have inside : ∀ a ∈ list, a ∈ list ++ [last] := fun a => List.mem_append_left _
    have shorter := ih fun a left b right => injective a (inside a left) b (inside b right)
    have member : f last ∈ list.map f ↔ last ∈ list := by
      constructor
      · intro found
        obtain ⟨a, left, same⟩ := List.mem_map.mp found
        rwa [← injective a (inside a left) last (by simp) same]
      · exact List.mem_map_of_mem
    rw [List.map_append, List.map_singleton, eraseDups_concat, eraseDups_concat, shorter]
    by_cases found : last ∈ list <;> simp [member, found]

/-- A part of a list begins it if and only if its entries have the places one, two, three and so on. -/
theorem map_idxOf_eq_range'_iff {α : Type} [DecidableEq α] {whole part : List α} (distinct : whole.Nodup)
    (inside : part ⊆ whole) :
    (∃ most, part.map (fun a => whole.idxOf a + 1) = List.range' 1 most) ↔ part <+: whole := by
  constructor
  · rintro ⟨most, counted⟩
    refine List.prefix_iff_getElem?.mpr fun i below => ?_
    have place : whole.idxOf part[i] = i := by
      have same := List.getElem_of_eq counted (by simpa using below)
      simp only [List.getElem_map, List.getElem_range'] at same
      omega
    have found := List.getElem?_idxOf (inside (List.getElem_mem below))
    rwa [place] at found
  · intro start
    refine ⟨part.length, List.ext_getElem (by simp) fun i left right => ?_⟩
    rw [List.length_map] at left
    rw [List.getElem_map, List.getElem_range', start.getElem left, distinct.idxOf_getElem]
    omega

private theorem flatMap_filter_eq {α β : Type} {p : α → Bool} {f g : α → List β} {list : List α}
    (same : ∀ a ∈ list, (p a → f a = g a) ∧ (¬ p a → g a = [])) : (list.filter p).flatMap f = list.flatMap g := by
  induction list with
  | nil => rfl
  | cons a rest ih =>
    obtain ⟨⟨kept, dropped⟩, later⟩ := List.forall_mem_cons.mp same
    rw [List.filter_cons, List.flatMap_cons, ← ih later]
    by_cases passes : p a
    · rw [if_pos passes, List.flatMap_cons, kept passes]
    · rw [if_neg passes, dropped passes, List.nil_append]

namespace Document

variable {doc after : Document}

def referenceNumber : NodeKind → Option Nat
  | .footnoteReference _ number _ => some number
  | _ => none

/-- The occurrence of a reference with a given number. -/
def occurrenceWith (number : Nat) : NodeKind → Option Nat
  | .footnoteReference _ found occurrence => if found = number then some occurrence else none
  | _ => none

/-- Read in pre-order, the references bring up the numbers one, two, three and so on, and those with one number have
the occurrences one, two, three and so on. -/
structure FootnotesInOrder (doc : Document) : Prop where
  numbers : ∃ most, (doc.references.filterMap fun id => (doc.kind? id).bind referenceNumber).eraseDups =
    List.range' 1 most
  occurrences : ∀ number, ∃ most, doc.references.filterMap (fun id => (doc.kind? id).bind (occurrenceWith number)) =
    List.range' 1 most

/-- A node and what is below it, without the definitions of footnotes in it. -/
def body (doc : Document) : NodeId → List NodeId :=
  doc.value fun below id => id :: ((doc.childIds id).filter fun child => child ∉ doc.definitions).flatMap below

/-- The references as they are read when the definitions stand at the end. -/
def rereading (doc : Document) : List NodeId :=
  (doc.body root ++ doc.notes.flatMap doc.body).filter fun id => doc.type? id == some .footnoteReference

private theorem WellFormed.body_eq (wellFormed : doc.WellFormed) {id : NodeId} (held : doc.Holds id) :
    doc.body id = id :: ((doc.childIds id).filter fun child => child ∉ doc.definitions).flatMap doc.body := by
  refine wellFormed.value_eq (fun first second id same => ?_) held
  rw [List.cons.injEq]
  exact ⟨rfl, List.flatMap_congr fun child member => same child (List.mem_of_mem_filter member)⟩

private theorem Rooted.child_ne_root (rooted : doc.Rooted) {parent child : NodeId}
    (member : child ∈ doc.childIds parent) : child ≠ root := by
  rintro rfl
  have under := rooted.linked.parent_of_mem_childIds member
  rw [rooted.top] at under
  cases under

private theorem refersTo_of_mem_references {id : NodeId} (member : id ∈ doc.references) :
    ∃ key, doc.RefersTo key id := by
  have type := (List.mem_filter.mp member).2
  unfold RefersTo
  unfold type? at type
  cases found : doc.kind? id with
  | none => rw [found] at type; cases type
  | some kind =>
    rw [found] at type
    cases kind with
    | footnoteReference label number occurrence => exact ⟨_, rfl⟩
    | _ => cases type

private theorem mem_labels_of_refersTo {id : NodeId} (member : id ∈ doc.references) {key : String}
    (refers : doc.RefersTo key id) : key ∈ doc.labels :=
  mem_labels.mpr ⟨id, List.mem_of_mem_filter member, refers⟩

namespace FootnotesNumbered
variable {kept : List NodeId} (rooted : doc.Rooted) (numbered : FootnotesNumbered doc after kept)
include numbered

include rooted in
private theorem written {id : NodeId} (member : id ∈ doc.references) {key : String}
    (refers : doc.RefersTo key id) : ∃ label, after.kind? id = some (.footnoteReference label (doc.labels.idxOf key + 1)
      ((doc.references.filter fun id => doc.RefersTo key id).idxOf id + 1)) := by
  obtain ⟨before, later, split⟩ := List.append_of_mem member
  obtain ⟨kind, found, same⟩ := Option.bind_eq_some_iff.mp refers
  have fresh : id ∉ before.filter fun id => doc.RefersTo key id := by
    have distinct := rooted.nodup_references
    rw [split] at distinct
    obtain ⟨outside, _⟩ := List.nodup_cons.mp (List.nodup_middle.mp distinct)
    exact fun inside => outside (List.mem_append_left _ (List.mem_of_mem_filter inside))
  have place : (doc.references.filter fun id => doc.RefersTo key id).idxOf id = (doc.keysOf before).count key := by
    rw [split, List.filter_append, List.filter_cons_of_pos (by simpa using refers), List.idxOf_append_of_notMem fresh,
      List.idxOf_cons_self, keysOf, List.count_filterMap, List.countP_eq_length_filter, Nat.add_zero]
    refine congrArg List.length (List.filter_congr fun other _ => ?_)
    rw [beq_eq_decide]
    rfl
  cases kind with
  | footnoteReference label number occurrence =>
    cases same
    rw [place]
    exact ⟨label, numbered.references before id later split label number occurrence found⟩
  | _ => cases same

variable (renumbered : Renumbered doc after)
include rooted renumbered

private theorem subtree_eq_body (id : NodeId) (held : after.Holds id) (below : id ≠ root) :
    after.subtree id = doc.body id := by
  have wellFormed := renumbered.rooted.linked.wellFormed
  induction id using wellFormed.child_induction with
  | step id ih =>
    rw [wellFormed.subtree_eq held, rooted.linked.wellFormed.body_eq ((renumbered.labels.holds id).mp held),
      ← numbered.others id below, List.cons.injEq]
    refine ⟨rfl, List.flatMap_congr fun child member => ih child member ?_ (renumbered.rooted.child_ne_root member)⟩
    exact wellFormed.linked.holds_of_mem_childIds member

/-- What a reader meets: the document without its definitions, and then each definition that is kept. -/
theorem descendants_eq : after.descendants root = doc.body root ++ doc.notes.flatMap doc.body := by
  have wellFormed := renumbered.rooted.linked.wellFormed
  have rows : (after.childIds root).flatMap after.subtree = (after.childIds root).flatMap doc.body :=
    List.flatMap_congr fun child member => numbered.subtree_eq_body rooted renumbered child
      (wellFormed.linked.holds_of_mem_childIds member) (renumbered.rooted.child_ne_root member)
  rw [wellFormed.descendants_eq_subtree renumbered.rooted.held, wellFormed.subtree_eq renumbered.rooted.held, rows,
    numbered.atEnd, List.flatMap_append, ← numbered.kept_eq rooted, rooted.linked.wellFormed.body_eq rooted.held,
    List.cons_append]

private theorem references_eq : after.references = doc.rereading := by
  rw [Document.references, rereading, numbered.descendants_eq rooted renumbered]
  simp only [renumbered.labels.type?]

private theorem rereading_subset : doc.rereading ⊆ doc.references := by
  intro id member
  rw [← numbered.references_eq rooted renumbered] at member
  obtain ⟨inside, type⟩ := List.mem_filter.mp member
  rw [renumbered.labels.type?] at type
  exact List.mem_filter.mpr ⟨((mem_descendants_renumbered rooted renumbered).mp inside).1, type⟩

private theorem numbers_read : after.references.filterMap (fun id => (after.kind? id).bind referenceNumber) =
    (doc.keysOf doc.rereading).map fun key => doc.labels.idxOf key + 1 := by
  rw [numbered.references_eq rooted renumbered, keysOf, List.map_filterMap]
  refine List.filterMap_congr fun id member => ?_
  obtain ⟨key, refers⟩ := refersTo_of_mem_references (numbered.rereading_subset rooted renumbered member)
  obtain ⟨label, found⟩ := numbered.written rooted (numbered.rereading_subset rooted renumbered member) refers
  rw [found, refers]
  rfl

private theorem occurrences_read {key : String} (referenced : key ∈ doc.labels) :
    after.references.filterMap (fun id => (after.kind? id).bind (occurrenceWith (doc.labels.idxOf key + 1))) =
      (doc.rereading.filter fun id => doc.RefersTo key id).map
        fun id => (doc.references.filter fun id => doc.RefersTo key id).idxOf id + 1 := by
  rw [numbered.references_eq rooted renumbered, ← List.filterMap_eq_map, List.filterMap_filter]
  refine List.filterMap_congr fun id member => ?_
  obtain ⟨other, refers⟩ := refersTo_of_mem_references (numbered.rereading_subset rooted renumbered member)
  obtain ⟨label, found⟩ := numbered.written rooted (numbered.rereading_subset rooted renumbered member) refers
  rw [found]
  by_cases same : other = key
  · subst same
    simp [occurrenceWith, refers]
  · have different : ¬ doc.RefersTo key id := fun refersKey => same (Option.some.inj (refers.symm.trans refersKey))
    have known := mem_labels_of_refersTo (numbered.rereading_subset rooted renumbered member) refers
    have apart : doc.labels.idxOf other ≠ doc.labels.idxOf key := fun equal => same ((List.idxOf_inj known).mp equal)
    simp [occurrenceWith, different, apart]

private theorem numbersInOrder_iff : (∃ most, (after.references.filterMap fun id =>
      (after.kind? id).bind referenceNumber).eraseDups = List.range' 1 most) ↔
    (doc.keysOf doc.rereading).eraseDups <+: doc.labels := by
  have inside : ∀ key ∈ doc.keysOf doc.rereading, key ∈ doc.labels := by
    intro key member
    obtain ⟨id, read, refers⟩ := mem_keysOf.mp member
    exact mem_labels_of_refersTo (numbered.rereading_subset rooted renumbered read) refers
  rw [numbered.numbers_read rooted renumbered, eraseDups_map]
  · exact map_idxOf_eq_range'_iff nodup_labels fun key member => inside key (List.mem_eraseDups.mp member)
  · intro first left second _ same
    exact (List.idxOf_inj (inside first left)).mp (Nat.succ.inj same)

private theorem occurrencesInOrder_iff : (∀ number, ∃ most, after.references.filterMap
      (fun id => (after.kind? id).bind (occurrenceWith number)) = List.range' 1 most) ↔
    ∀ key, (doc.rereading.filter fun id => doc.RefersTo key id) <+:
      doc.references.filter fun id => doc.RefersTo key id := by
  have subset := numbered.rereading_subset rooted renumbered
  have counts : ∀ key ∈ doc.labels, ((∃ most, after.references.filterMap (fun id =>
      (after.kind? id).bind (occurrenceWith (doc.labels.idxOf key + 1))) = List.range' 1 most) ↔
      (doc.rereading.filter fun id => doc.RefersTo key id) <+:
        doc.references.filter fun id => doc.RefersTo key id) := by
    intro key referenced
    rw [numbered.occurrences_read rooted renumbered referenced]
    exact map_idxOf_eq_range'_iff (rooted.nodup_references.filter _) (List.filter_subset _ subset)
  constructor
  · intro ordered key
    by_cases referenced : key ∈ doc.labels
    · exact (counts key referenced).mp (ordered _)
    · have none_ : (doc.rereading.filter fun id => doc.RefersTo key id) = [] := by
        refine List.filter_eq_nil_iff.mpr fun id member refers => referenced ?_
        exact mem_labels_of_refersTo (subset member) (of_decide_eq_true refers)
      rw [none_]
      exact List.nil_prefix
  · intro kept number
    by_cases given : ∃ key ∈ doc.labels, doc.labels.idxOf key + 1 = number
    · obtain ⟨key, referenced, rfl⟩ := given
      exact (counts key referenced).mpr (kept key)
    · refine ⟨0, List.filterMap_eq_nil_iff.mpr fun id member => ?_⟩
      rw [numbered.references_eq rooted renumbered] at member
      obtain ⟨key, refers⟩ := refersTo_of_mem_references (subset member)
      obtain ⟨label, found⟩ := numbered.written rooted (subset member) refers
      rw [found]
      exact if_neg fun same => given ⟨key, mem_labels_of_refersTo (subset member) refers, same⟩

private theorem inOrder_iff : after.FootnotesInOrder ↔ (doc.keysOf doc.rereading).eraseDups <+: doc.labels ∧
    ∀ key, (doc.rereading.filter fun id => doc.RefersTo key id) <+:
      doc.references.filter fun id => doc.RefersTo key id := by
  rw [← numbered.numbersInOrder_iff rooted renumbered, ← numbered.occurrencesInOrder_iff rooted renumbered]
  exact ⟨fun ordered => ⟨ordered.numbers, ordered.occurrences⟩, fun both => ⟨both.1, both.2⟩⟩

end FootnotesNumbered

/-- Where no definition holds a node of some sort, the nodes of that sort are read in the same order when the
definitions stand at the end. -/
theorem Rooted.filter_body (rooted : doc.Rooted) {p : NodeId → Bool}
    (plain : ∀ note ∈ doc.definitions, ∀ id ∈ doc.subtree note, ¬ p id) :
    (doc.body root ++ doc.notes.flatMap doc.body).filter p = (doc.subtree root).filter p := by
  have wellFormed := rooted.linked.wellFormed
  have empty_ : ∀ note ∈ doc.definitions, (doc.subtree note).filter p = [] := fun note member =>
    List.filter_eq_nil_iff.mpr (plain note member)
  have same : ∀ id, doc.Holds id → (doc.body id).filter p = (doc.subtree id).filter p := by
    intro id held
    induction id using wellFormed.child_induction with
    | step id ih =>
      rw [wellFormed.body_eq held, wellFormed.subtree_eq held, List.filter_cons, List.filter_cons, List.filter_flatMap,
        List.filter_flatMap, flatMap_filter_eq]
      intro child member
      refine ⟨fun _ => ih child member (wellFormed.linked.holds_of_mem_childIds member), fun defined => ?_⟩
      exact empty_ child (by simpa using defined)
  have notes : (doc.notes.flatMap doc.body).filter p = [] := by
    rw [List.filter_flatMap, List.flatMap_eq_nil_iff]
    intro note member
    obtain ⟨defined, _⟩ := mem_notes.mp member
    have reached := (wellFormed.mem_descendants rooted.held).mp (List.mem_of_mem_filter defined)
    exact (same note (reached.holds rooted.held)).trans (empty_ note defined)
  rw [List.filter_append, notes, List.append_nil, same root rooted.held]

/-- The reader of a converted document meets the numbers of footnotes and the occurrences of each in their order if and
only if the references, read with the definitions at the end, begin as they were numbered: the labels by their first
references, and the references to each label. -/
theorem footnotesInOrder_iff (blocks : List GrammarTree) : (ofGrammar blocks).1.FootnotesInOrder ↔
    ((placed blocks).keysOf (placed blocks).rereading).eraseDups <+: (placed blocks).labels ∧
      ∀ key, ((placed blocks).rereading.filter fun id => (placed blocks).RefersTo key id) <+:
        (placed blocks).references.filter fun id => (placed blocks).RefersTo key id := by
  have rooted := rooted_placed blocks
  have renumbered : Renumbered (placed blocks) (ofGrammar blocks).1 := rooted.renumbered
  obtain ⟨kept, numbered⟩ : ∃ kept, FootnotesNumbered (placed blocks) (ofGrammar blocks).1 kept :=
    rooted.exists_footnotesNumbered
  exact numbered.inOrder_iff rooted renumbered

/-- Everything is referred to, but the first reference stands in the definition that comes second. -/
theorem not_footnotesInOrder_moved :
    let blocks := [.node (.footnoteDefinition "a") [.node .paragraph [.leaf (.footnoteReference "b")]],
      .node .paragraph [.leaf (.footnoteReference "a")], .node (.footnoteDefinition "b") [.node .paragraph
      [.leaf (.text "x")]]]
    (∀ id ∈ (placed blocks).definitions, ∃ key ∈ (placed blocks).labels, (placed blocks).Defines key id) ∧
      ¬ (ofGrammar blocks).1.FootnotesInOrder := by
  intro blocks
  have grown : placed blocks = ((((((((empty.appendNew root (.footnoteDefinition "a" 0 0)).2.appendNew ⟨1⟩
      .paragraph).2.appendNew ⟨2⟩ (.footnoteReference "b" 0 0)).2.appendNew root .paragraph).2.appendNew ⟨4⟩
      (.footnoteReference "a" 0 0)).2.appendNew root (.footnoteDefinition "b" 0 0)).2.appendNew ⟨6⟩
      .paragraph).2.appendNew ⟨7⟩ (.text "x")).2 := by
    simp only [blocks, placed, under, place, placement, List.map_cons, List.map_nil, List.cons_append, List.nil_append,
      GrammarTree.leaf]
    rfl
  have rooted := rooted_placed blocks
  have renumbered : Renumbered (placed blocks) (ofGrammar blocks).1 := rooted.renumbered
  obtain ⟨kept, numbered⟩ : ∃ kept, FootnotesNumbered (placed blocks) (ofGrammar blocks).1 kept :=
    rooted.exists_footnotesNumbered
  refine ⟨by rw [grown]; decide +kernel, fun ordered => ?_⟩
  have start := (numbered.numbersInOrder_iff rooted renumbered).mp ordered.numbers
  have read : (placed blocks).keysOf (placed blocks).rereading = ["a", "b"] := by rw [grown]; decide +kernel
  have labels : (placed blocks).labels = ["b", "a"] := by rw [grown]; decide +kernel
  rw [read, labels] at start
  exact absurd start (by decide)

end Document

end MarkdownHtml
