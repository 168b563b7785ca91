import MarkdownHtml.Proofs.InsertedPieces

/-! The rows of a document in which the new inserted nodes are no more than two marks. In such a row every text and every
other node stands where it stands in the tree, so what is left of a container when its inserted text has been marked can
be told from the container alone. -/

namespace MarkdownHtml.Document

/-- An entry of a row: a text, a node that is older, or a mark of a new inserted node. -/
inductive Item
  | text (literal : String)
  | whole (id : NodeId) (kind : NodeKind)
  | mark (opens : Bool)
  deriving DecidableEq

def itemizing : Reading Item where
  text literal := [.text literal]
  mark opens := [.mark opens]
  whole id kind _ := [.whole id kind]

def markedRow (doc : Document) (container : NodeId) : List Item :=
  (doc.childIds container).flatMap (itemizing.child doc doc (fun _ => []) (doc.matchDelimiters container))

/-- The rows below the nodes of a document that has come from an earlier one. -/
def items (start doc : Document) : NodeId → List Item :=
  doc.value fun below id => (doc.childIds id).flatMap (itemizing.adds start doc below)

variable {start doc after : Document} {first second : NodeId → List Item} {id container : NodeId}

theorem itemizing_congr (same : after.kind? id = doc.kind? id) (inside : ¬ start.Holds id → first id = second id) :
    itemizing.adds start after first id = itemizing.adds start doc second id := by
  rw [Reading.adds_congr same]
  unfold Reading.adds
  split
  · rfl
  · by_cases old : start.Holds id
    · rw [if_neg fun both => both.2 old, if_neg fun both => both.2 old]
      rfl
    · rw [inside old]

theorem itemizing_cases (held : doc.Holds id) :
    (∃ literal, doc.kind? id = some (.text literal) ∧ itemizing.adds start doc first id = [.text literal]) ∨
      (doc.kind? id = some .ins ∧ ¬ start.Holds id ∧
        itemizing.adds start doc first id = .mark true :: (first id ++ [.mark false])) ∨
      ((∀ literal, doc.kind? id ≠ some (.text literal)) ∧ itemizing.adds start doc first id = [.whole id (doc.kindOf id)]) := by
  by_cases isText : ∃ literal, doc.kind? id = some (.text literal)
  · obtain ⟨literal, found⟩ := isText
    exact .inl ⟨literal, found, Reading.adds_text found⟩
  · have noText := not_exists.mp isText
    by_cases new : doc.kind? id = some .ins ∧ ¬ start.Holds id
    · exact .inr (.inl ⟨new.1, new.2, Reading.adds_new new.1 new.2⟩)
    · exact .inr (.inr ⟨noText, Reading.adds_whole held noText new⟩)

theorem WellFormed.accounts_items (wellFormed : doc.WellFormed) (start : Document) :
    Accounts itemizing start doc (start.items doc) fun _ => [] := by
  intro id held
  rw [List.append_nil]
  refine wellFormed.value_eq (fun first second id same => ?_) held
  exact List.flatMap_congr fun child member => itemizing_congr rfl fun _ => same child member

theorem Linked.flatMap_child (linked : start.Linked) (linkedNow : doc.Linked)
    (same : doc.childIds container = start.childIds container)
    (kinds : ∀ child ∈ start.childIds container, doc.kind? child = start.kind? child) :
    (doc.childIds container).flatMap (itemizing.child start doc first (doc.matchDelimiters container)) =
      start.markedRow container := by
  rw [linked.matchDelimiters_congr linkedNow same kinds, same, markedRow]
  refine List.flatMap_congr fun child member => ?_
  have old := linked.holds_of_mem_childIds member
  unfold Reading.child
  rw [kinds child member, itemizing_congr (kinds child member) fun new => absurd old new]

theorem mem_delimitersOf {delimiters : List Delimiter} {delimiter : Delimiter} {text : NodeId} :
    delimiter ∈ delimitersOf delimiters text ↔ delimiter ∈ delimiters ∧ delimiter.text = text := by
  rw [delimitersOf, List.mem_mergeSort, List.mem_filter, beq_iff_eq]

theorem Linked.child_cases (linked : doc.Linked) {child : NodeId} (member : child ∈ doc.childIds container) :
    (delimitersOf (doc.matchDelimiters container) child = [] ∧
      itemizing.child doc doc first (doc.matchDelimiters container) child = itemizing.adds doc doc first child) ∨
    ∃ literal, doc.kind? child = some (.text literal) ∧ delimitersOf (doc.matchDelimiters container) child ≠ [] ∧
      Cuts 0 literal.toList (delimitersOf (doc.matchDelimiters container) child) ∧
      itemizing.child doc doc first (doc.matchDelimiters container) child =
        itemizing.cut 0 literal.toList (delimitersOf (doc.matchDelimiters container) child) := by
  obtain ⟨_, _, cuts⟩ := linked.matched container
  have cuts := cuts child member
  unfold Reading.child
  cases splits : delimitersOf (doc.matchDelimiters container) child with
  | nil => exact .inl ⟨rfl, rfl⟩
  | cons delimiter delimiters =>
    rw [splits] at cuts
    obtain ⟨literal, found, cut⟩ := cuts (List.cons_ne_nil delimiter delimiters)
    simp only [found]
    exact .inr ⟨literal, rfl, List.cons_ne_nil delimiter delimiters, cut, rfl⟩

theorem mem_cut {letters : List Char} {delimiters : List Delimiter} {offset : Nat} {item : Item}
    (member : item ∈ itemizing.cut offset letters delimiters) : (∃ literal, item = .text literal) ∨ ∃ opens, item = .mark opens := by
  have piece : ∀ letters : List Char, item ∈ itemizing.piece letters → ∃ literal, item = .text literal := by
    intro letters member
    unfold Reading.piece at member
    split at member
    · cases member
    · exact ⟨_, List.mem_singleton.mp member⟩
  induction delimiters generalizing offset letters with
  | nil => exact .inl (piece letters member)
  | cons delimiter delimiters ih =>
    rcases List.mem_append.mp member with member | later
    · rcases List.mem_append.mp member with before | mark
      · exact .inl (piece _ before)
      · exact .inr ⟨_, List.mem_singleton.mp mark⟩
    · exact ih later

theorem Linked.mem_markedRow (linked : doc.Linked) {kind : NodeKind} (member : .whole id kind ∈ doc.markedRow container) :
    id ∈ doc.childIds container := by
  obtain ⟨child, inside, member⟩ := List.mem_flatMap.mp member
  have held := linked.holds_of_mem_childIds inside
  rcases linked.child_cases inside with ⟨_, same⟩ | ⟨_, _, _, _, same⟩
  · rcases itemizing_cases held with ⟨literal, _, adds⟩ | ⟨_, new, _⟩ | ⟨_, adds⟩
    · rw [same, adds] at member
      cases List.mem_singleton.mp member
    · exact absurd held new
    · rw [same, adds] at member
      cases List.mem_singleton.mp member
      exact inside
  · rw [same] at member
    rcases mem_cut member with ⟨_, same⟩ | ⟨_, same⟩ <;> cases same

end MarkdownHtml.Document
