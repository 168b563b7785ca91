import MarkdownHtml.Proofs.ChildEdits
import MarkdownHtml.Proofs.TidyTrees

/-! What stands below the nodes of a document, as rows in which an inserted node that is new is no entry of its own: its
content stands there, between two marks. The rows belong to the document at the end. Before an edit, what the edit puts
below a node waits for its place there. -/

namespace MarkdownHtml.Document
open NodeTree

/-- How nodes are read into the rows that they stand in. A new inserted node adds its content between the mark that
opens it and the one that closes it. -/
structure Reading (α : Type) where
  text : String → List α
  mark : (opens : Bool) → List α
  whole : NodeId → NodeKind → List α → List α

/-- New inserted nodes are spelled out with the plus signs that they were made of. -/
def spelling : Reading Letter where
  text := chars
  mark _ := chars "++"
  whole _ kind below := [.tree (.node kind (grouped below))]

variable {α : Type} {reading : Reading α}

/-- What a node adds to the row that it stands in, given the rows below nodes. Inserted nodes are new that an earlier
document has no place for. -/
def Reading.adds (reading : Reading α) (start doc : Document) (content : NodeId → List α) (id : NodeId) : List α :=
  match doc.kindOf id with
  | .text literal => reading.text literal
  | kind =>
    if kind = .ins ∧ ¬ start.Holds id then reading.mark true ++ content id ++ reading.mark false
    else reading.whole id kind (content id)

/-- The rows below nodes are what their children add to them, and what waits for a place behind the children. -/
def Accounts (reading : Reading α) (start doc : Document) (content waiting : NodeId → List α) : Prop :=
  ∀ id, doc.Holds id → content id = (doc.childIds id).flatMap (reading.adds start doc content) ++ waiting id

variable {start doc after : Document} {content waiting earlier : NodeId → List α} {parent child : NodeId}

theorem Reading.adds_congr {id : NodeId} (same : after.kind? id = doc.kind? id) :
    reading.adds start after content id = reading.adds start doc content id := by
  simp only [adds, kindOf, same]

theorem Reading.adds_text {id : NodeId} {literal : String} (found : doc.kind? id = some (.text literal)) :
    reading.adds start doc content id = reading.text literal := by
  rw [adds, kindOf_eq found]

theorem Reading.adds_new {id : NodeId} (found : doc.kind? id = some .ins) (new : ¬ start.Holds id) :
    reading.adds start doc content id = reading.mark true ++ content id ++ reading.mark false := by
  rw [adds, kindOf_eq found]
  exact if_pos ⟨rfl, new⟩

theorem Reading.adds_whole {id : NodeId} (held : doc.Holds id) (noText : ∀ literal, doc.kind? id ≠ some (.text literal))
    (old : ¬ (doc.kind? id = some .ins ∧ ¬ start.Holds id)) :
    reading.adds start doc content id = reading.whole id (doc.kindOf id) (content id) := by
  have found := kind?_eq_kindOf held
  unfold adds
  cases kind : doc.kindOf id with
  | text literal => exact absurd (found.trans (congrArg some kind)) (noText literal)
  | _ => exact if_neg fun both => old ⟨found.trans (congrArg some (kind.trans both.1)), both.2⟩

private theorem Linked.flatMap_adds (linked : doc.Linked) (kinds : ∀ id, doc.Holds id → after.kind? id = doc.kind? id)
    (id : NodeId) : (doc.childIds id).flatMap (reading.adds start after content) =
      (doc.childIds id).flatMap (reading.adds start doc content) :=
  List.flatMap_congr fun child member => Reading.adds_congr (kinds child (linked.holds_of_mem_childIds member))

/-- Where nothing waits, all rows follow from the document. -/
theorem Accounts.unique (wellFormed : doc.WellFormed) {first second : NodeId → List α}
    (left : Accounts reading start doc first fun _ => []) (right : Accounts reading start doc second fun _ => []) {id : NodeId}
    (held : doc.Holds id) : first id = second id := by
  suffices each : ∀ id, doc.Holds id → first id = second id from each id held
  refine wellFormed.child_induction fun id ih held => ?_
  rw [left id held, right id held, List.append_nil, List.append_nil]
  refine List.flatMap_congr fun child member => ?_
  simp only [Reading.adds, ih child member (wellFormed.linked.holds_of_mem_childIds member)]

private theorem Accounts.of_last (accounts : Accounts reading start after content waiting) (linked : doc.Linked)
    (holds : ∀ id, doc.Holds id → after.Holds id) (kinds : ∀ id, doc.Holds id → after.kind? id = doc.kind? id)
    (children : ∀ id, after.childIds id = if id = parent then doc.childIds parent ++ [child] else doc.childIds id)
    (same : ∀ id, doc.Holds id → earlier id =
      if id = parent then reading.adds start after content child ++ waiting id else waiting id) :
    Accounts reading start doc content earlier := by
  intro id held
  rw [accounts id (holds id held), children, same id held, ← linked.flatMap_adds kinds]
  by_cases here : id = parent
  · subst here
    rw [if_pos rfl, if_pos rfl, List.flatMap_append, List.flatMap_singleton, List.append_assoc]
  · rw [if_neg here, if_neg here]

theorem Accounts.of_appendNew (linked : doc.Linked) (held : doc.Holds parent) {kind : NodeKind}
    (accounts : Accounts reading start (doc.appendNew parent kind).2 content waiting)
    (same : ∀ id, doc.Holds id → earlier id =
      if id = parent then reading.adds start (doc.appendNew parent kind).2 content ⟨doc.size⟩ ++ waiting id else waiting id) :
    Accounts reading start doc content earlier := by
  refine accounts.of_last linked (fun id present => holds_appendNew_iff.mpr (.inl present)) ?_
    (linked.childIds_appendNew held kind) same
  intro id present
  rw [linked.kind?_appendNew held, if_neg present.ne_new]

theorem Accounts.of_new (linked : doc.Linked) (held : doc.Holds parent) {kind : NodeKind}
    (accounts : Accounts reading start (doc.appendNew parent kind).2 content waiting) :
    content ⟨doc.size⟩ = waiting ⟨doc.size⟩ := by
  have present : (doc.appendNew parent kind).2.Holds ⟨doc.size⟩ := holds_appendNew doc parent kind
  rw [accounts _ present, linked.childIds_appendNew held, if_neg held.ne_new.symm, linked.childIds_new]
  rfl

theorem Accounts.of_appendChild (linked : doc.Linked) (held : doc.Holds parent) (present : doc.Holds child)
    (movable : doc.Movable child parent) (orphan : doc.parent? child = none)
    (accounts : Accounts reading start (doc.appendChild parent child) content waiting)
    (same : ∀ id, doc.Holds id → earlier id =
      if id = parent then reading.adds start (doc.appendChild parent child) content child ++ waiting id else waiting id) :
    Accounts reading start doc content earlier := by
  have outside := linked.notMem_childIds orphan
  refine accounts.of_last linked ?_ ?_ ?_ same
  · intro id inside
    rw [Holds, size_appendChild]
    exact inside
  · exact fun id _ => linked.kind?_appendChild held present movable.1.symm id
  · intro id
    rw [linked.childIds_appendChild held present movable, List.erase_of_not_mem (outside parent),
      List.erase_of_not_mem (outside id)]

theorem Accounts.of_setKind (linked : doc.Linked) (orphan : doc.parent? child = none) {kind : NodeKind}
    (accounts : Accounts reading start (doc.setKind child kind) content waiting) : Accounts reading start doc content waiting := by
  intro id held
  have inside : (doc.setKind child kind).Holds id := by
    rw [Holds, setKind, size_modify]
    exact held
  rw [accounts id inside, childIds_of_sameLinks (sameLinks_setKind child kind) linked]
  refine congrArg (· ++ waiting id) (List.flatMap_congr fun other member => Reading.adds_congr ?_)
  rw [kind?_setKind, if_neg fun same : other = child => linked.notMem_childIds orphan id (same ▸ member)]

/-- A document out of which nodes have been taken, one by one. -/
structure TakenOut (doc after : Document) (ids : List NodeId) : Prop where
  linked : after.Linked
  size : after.size = doc.size
  parent : ∀ id, after.parent? id = if id ∈ ids then none else doc.parent? id
  kind : ∀ id, after.kind? id = doc.kind? id
  children : ∀ id, after.childIds id = (doc.childIds id).diff ids

theorem Linked.takenOut (linked : doc.Linked) (ids : List NodeId) : TakenOut doc (ids.foldl Document.detach doc) ids := by
  induction ids generalizing doc with
  | nil => exact ⟨linked, rfl, fun _ => rfl, fun _ => rfl, fun _ => rfl⟩
  | cons first rest ih =>
    have removed := linked.removed_detach first
    obtain ⟨after, size, parents, kinds, children⟩ := ih (linked.detach first)
    refine ⟨after, size.trans (size_detach first), fun id => ?_, fun id => (kinds id).trans (removed.kind id), fun id => ?_⟩
    · rw [List.foldl_cons, parents, removed.parent]
      by_cases inside : id ∈ rest <;> by_cases same : id = first <;> simp [inside, same]
    · rw [List.foldl_cons, children, linked.childIds_detach, List.diff_cons]

/-- Where the children of one node are taken out, all others are still in their rows. -/
theorem TakenOut.childIds_eq {container : NodeId} (taken : TakenOut doc after (doc.childIds container))
    (linked : doc.Linked) (id : NodeId) : after.childIds id = if id = container then [] else doc.childIds id := by
  rw [taken.children, (linked.nodup_childIds id).sdiff_eq_filter]
  split
  next same =>
    subst same
    exact List.filter_eq_nil_iff.mpr fun child member => by simp [member]
  next different =>
    refine List.filter_eq_self.mpr fun child member => ?_
    have apart : child ∉ doc.childIds container := fun inside => different (linked.eq_of_mem_childIds member inside)
    simpa using apart

theorem Accounts.of_takenOut {container : NodeId} (linked : doc.Linked)
    (taken : TakenOut doc after (doc.childIds container)) (accounts : Accounts reading start after content waiting)
    (elsewhere : ∀ id, after.Holds id → id ≠ container → waiting id = []) {id : NodeId} (held : doc.Holds id) :
    content id = if id = container then waiting id else (doc.childIds id).flatMap (reading.adds start doc content) := by
  have inside : after.Holds id := by
    rw [Holds, taken.size]
    exact held
  rw [accounts id inside, taken.childIds_eq linked]
  by_cases same : id = container
  · rw [if_pos same, if_pos same]
    rfl
  · rw [if_neg same, if_neg same, elsewhere id inside same, List.append_nil]
    exact List.flatMap_congr fun child _ => Reading.adds_congr (taken.kind child)

end MarkdownHtml.Document
