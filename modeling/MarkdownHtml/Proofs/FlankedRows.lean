import MarkdownHtml.Proofs.InsertedItems
import MarkdownHtml.Proofs.PlusPairs

/-! The flanks of the runs in a row, told from the entries of the row alone. Where an entry shows less to its neighbours
than it did before, runs have less at their sides, and runs that could not become a pair still cannot. -/

namespace MarkdownHtml.Document

variable {doc : Document}

/-- What a node shows to its neighbour, at the end that `edge` picks. -/
def kindFlank (edge : List Char → Option Char) : NodeKind → Flank
  | .text literal => .ofChar? (edge literal.toList)
  | .softLineBreak | .hardLineBreak => .blank
  | _ => .solid

/-- What an entry shows to the one in front of it. Below a new inserted node there is nothing at the edges. -/
def Item.leading : Item → Flank
  | .text literal => kindFlank List.head? (.text literal)
  | .whole _ kind => kindFlank List.head? kind
  | .mark opens => if opens then .solid else .blank

def Item.trailing : Item → Flank
  | .text literal => kindFlank List.getLast? (.text literal)
  | .whole _ kind => kindFlank List.getLast? kind
  | .mark opens => if opens then .blank else .solid

/-- The side of a run at which a character stands, or nothing up to a neighbour. -/
def Flank.beside (flank : Flank) : Option Char → Flank
  | some c => .ofChar? (some c)
  | none => flank

/-- The runs of a text between two flanks: where they stand, and their own flanks. -/
def flankedRuns (offset : Nat) (left right : Flank) : List Char → List (Nat × Flank × Flank)
  | '+' :: '+' :: rest => (offset, left, right.beside rest.head?) :: flankedRuns (offset + 2) .solid right rest
  | c :: rest => flankedRuns (offset + 1) (.ofChar? (some c)) right rest
  | [] => []

def Item.runs (left right : Flank) : Item → List (Nat × Flank × Flank)
  | .text literal => flankedRuns 0 left right literal.toList
  | _ => []

def headFlank (items : List Item) (right : Flank) : Flank := (items.head?.map Item.leading).getD right

def lastFlank (left : Flank) (items : List Item) : Flank := (items.getLast?.map Item.trailing).getD left

def rowFlanks (left right : Flank) : List Item → List (Flank × Flank)
  | [] => []
  | item :: rest => (item.runs left (headFlank rest right)).map Prod.snd ++ rowFlanks item.trailing right rest

theorem headFlank_append {first second : List Item} {right flank : Flank}
    (leading : first.head?.map Item.leading = some flank) : headFlank (first ++ second) right = flank := by
  cases first with
  | nil => cases leading
  | cons item first => exact Option.some.inj leading

theorem rowFlanks_append (left right : Flank) (first second : List Item) : rowFlanks left right (first ++ second) =
    rowFlanks left (headFlank second right) first ++ rowFlanks (lastFlank left first) right second := by
  induction first generalizing left with
  | nil => rfl
  | cons item first ih =>
    have next : headFlank (first ++ second) right = headFlank first (headFlank second right) := by
      cases first <;> rfl
    have last : lastFlank item.trailing first = lastFlank left (item :: first) := by
      rw [lastFlank, lastFlank, List.getLast?_cons]
      cases first.getLast? <;> rfl
    rw [List.cons_append, rowFlanks, rowFlanks, ih, next, last, List.append_assoc]

private theorem rowFlanks_mark (left right : Flank) (opens : Bool) (rest : List Item) :
    rowFlanks left right (.mark opens :: rest) = rowFlanks (Item.mark opens).trailing right rest := rfl

/-- Flanks that show nothing solid where others show nothing solid. -/
def Dimmer (first second : Flank × Flank) : Prop :=
  (first.1 = .solid → second.1 = .solid) ∧ (first.2 = .solid → second.2 = .solid)

/-- Two runs of which the first one could not open a pair that the second one closes. -/
def NoPair (first second : Flank × Flank) : Prop := ¬ (first.2 = .solid ∧ second.1 = .solid)

theorem noPair_of_dimmer {first second : List (Flank × Flank)} (dimmer : List.Forall₂ Dimmer first second)
    (noPair : second.Pairwise NoPair) : first.Pairwise NoPair := by
  obtain ⟨_, dimmer⟩ := List.forall₂_iff_get.mp dimmer
  rw [List.pairwise_iff_get] at noPair ⊢
  rintro ⟨i, inside⟩ ⟨j, within⟩ before ⟨opens, closes⟩
  exact noPair ⟨i, by omega⟩ ⟨j, by omega⟩ before
    ⟨(dimmer i inside (by omega)).2 opens, (dimmer j within (by omega)).1 closes⟩

theorem flankedRuns_dimmer {left right first last : Flank} (atLeft : first = .solid → left = .solid)
    (atRight : last = .solid → right = .solid) (offset other : Nat) (letters : List Char) :
    List.Forall₂ Dimmer ((flankedRuns offset first last letters).map Prod.snd)
      ((flankedRuns other left right letters).map Prod.snd) := by
  fun_induction flankedRuns offset first last letters generalizing other left with
  | case1 offset first rest ih =>
    rw [flankedRuns]
    refine .cons ⟨atLeft, ?_⟩ (ih id (other + 2))
    cases rest.head? with
    | none => exact atRight
    | some c => exact id
  | case2 offset first c rest apart ih =>
    rw [flankedRuns]
    · exact ih id (other + 1)
    · exact apart
  | case3 => exact .nil

private theorem siblingFlank_eq (edge : List Char → Option Char) (sibling : Option NodeId) :
    doc.siblingFlank edge sibling = ((sibling.bind doc.kind?).map (kindFlank edge)).getD .blank := by
  unfold siblingFlank
  cases sibling.bind doc.kind? with
  | none => rfl
  | some kind => cases kind <;> rfl

private theorem markOf_flanks (child : NodeId) (run : PlusRun) :
    ((doc.markOf child run).before, (doc.markOf child run).after) =
      ((doc.siblingFlank List.getLast? (doc.previous? child)).beside run.before,
        (doc.siblingFlank List.head? (doc.next? child)).beside run.after) := by
  obtain ⟨offset, before, after⟩ := run
  cases before <;> cases after <;> rfl

private theorem map_markOf_plusRuns (child : NodeId) (offset : Nat) (before : Option Char) (letters : List Char) :
    (plusRuns offset before letters).map (fun run =>
        (run.offset, (doc.markOf child run).before, (doc.markOf child run).after)) =
      flankedRuns offset ((doc.siblingFlank List.getLast? (doc.previous? child)).beside before)
        (doc.siblingFlank List.head? (doc.next? child)) letters := by
  fun_induction plusRuns offset before letters with
  | case1 offset before rest ih =>
    have solid : Flank.ofChar? (some '+') = .solid := by decide
    rw [flankedRuns, List.map_cons, ih, markOf_flanks, Flank.beside, solid]
  | case2 offset before c rest apart ih =>
    rw [flankedRuns]
    · exact ih
    · exact apart
  | case3 => rfl

def asItem (doc : Document) (id : NodeId) : Item :=
  match doc.kindOf id with
  | .text literal => .text literal
  | kind => .whole id kind

theorem leading_asItem (id : NodeId) : (doc.asItem id).leading = kindFlank List.head? (doc.kindOf id) := by
  unfold asItem
  split
  next literal same => rw [same, Item.leading]
  next => rfl

theorem trailing_asItem (id : NodeId) : (doc.asItem id).trailing = kindFlank List.getLast? (doc.kindOf id) := by
  unfold asItem
  split
  next literal same => rw [same, Item.trailing]
  next => rfl

variable {container child : NodeId} {front rest : List NodeId}

private theorem Linked.siblingFlank_row (linked : doc.Linked) (row : doc.childIds container = front ++ child :: rest) :
    doc.siblingFlank List.getLast? (doc.previous? child) = lastFlank .blank (front.map doc.asItem) ∧
      doc.siblingFlank List.head? (doc.next? child) = headFlank (rest.map doc.asItem) .blank := by
  obtain ⟨previous, next⟩ := linked.neighbours row
  have held : ∀ id ∈ front ++ child :: rest, doc.kind? id = some (doc.kindOf id) := fun id member =>
    kind?_eq_kindOf (linked.holds_of_mem_childIds (row ▸ member))
  constructor
  · rw [siblingFlank_eq, previous, lastFlank, List.getLast?_map]
    cases last : front.getLast? with
    | none => rfl
    | some id =>
      rw [Option.bind_some, held id (List.mem_append_left _ (List.mem_of_getLast? last))]
      exact (trailing_asItem id).symm
  · rw [siblingFlank_eq, next, headFlank, List.head?_map]
    cases first : rest.head? with
    | none => rfl
    | some id =>
      rw [Option.bind_some, held id (List.mem_append_right _ (List.mem_cons_of_mem _ (List.mem_of_mem_head? first)))]
      exact (leading_asItem id).symm

def Mark.flanked (mark : Mark) : Nat × Flank × Flank := (mark.offset, mark.before, mark.after)

theorem Linked.map_flanked_marks (linked : doc.Linked) (row : doc.childIds container = front ++ child :: rest) :
    (doc.marks child).map Mark.flanked =
      (doc.asItem child).runs (lastFlank .blank (front.map doc.asItem)) (headFlank (rest.map doc.asItem) .blank) := by
  obtain ⟨before, behind⟩ := linked.siblingFlank_row row
  have member : child ∈ doc.childIds container := row ▸ List.mem_append_right _ (List.mem_cons_self ..)
  have found := kind?_eq_kindOf (linked.holds_of_mem_childIds member)
  rw [← before, ← behind]
  unfold Document.marks asItem
  rw [found]
  cases doc.kindOf child with
  | text literal =>
    rw [List.map_map]
    exact map_markOf_plusRuns child 0 none literal.toList
  | _ => rfl

/-- The flanks of the runs of a container are those of its row. -/
theorem Linked.map_flanked_marksIn (linked : doc.Linked) (container : NodeId) :
    (doc.marksIn container).map (Prod.snd ∘ Mark.flanked) =
      rowFlanks .blank .blank ((doc.childIds container).map doc.asItem) := by
  suffices suffix : ∀ rest front, doc.childIds container = front ++ rest →
      (rest.flatMap doc.marks).map (Prod.snd ∘ Mark.flanked) =
        rowFlanks (lastFlank .blank (front.map doc.asItem)) .blank (rest.map doc.asItem) from
    suffix _ [] rfl
  intro rest
  induction rest with
  | nil => exact fun _ _ => rfl
  | cons child rest ih =>
    intro front row
    have marks := congrArg (List.map Prod.snd) (linked.map_flanked_marks row)
    rw [List.map_map] at marks
    have later := ih (front ++ [child]) (row.trans (List.append_cons ..))
    rw [List.map_append, lastFlank, List.map_singleton, List.getLast?_concat] at later
    rw [List.flatMap_cons, List.map_append, marks, later]
    rfl

private theorem Spans.Sound.word_eq_nil {spans : Spans} (sound : spans.Sound)
    (noPair : spans.marks.Pairwise fun first second => ¬ (first.after = .solid ∧ second.before = .solid)) :
    spans.word = [] := by
  induction spans with
  | nil => rfl
  | single mark rest ih => exact ih sound (List.pairwise_cons.mp noPair).2
  | pair first inside last rest =>
    obtain ⟨opens, closes, _⟩ := sound
    have among : last ∈ inside.marks ++ last :: rest.marks := List.mem_append_right _ (List.mem_cons_self ..)
    exact absurd ⟨opens, closes⟩ ((List.pairwise_cons.mp noPair).1 last among)

theorem Linked.matchDelimiters_eq_nil (linked : doc.Linked)
    (noPair : (rowFlanks .blank .blank ((doc.childIds container).map doc.asItem)).Pairwise NoPair) :
    doc.matchDelimiters container = [] := by
  obtain ⟨spans, parsed⟩ := linked.exists_parsed container
  rw [← linked.map_flanked_marksIn, List.pairwise_map, ← parsed.marks] at noPair
  exact List.perm_nil.mp (parsed.perm.trans (.of_eq (parsed.sound.word_eq_nil noPair)))

section
variable {start : Document} {content : NodeId → List Item}

theorem asItem_text {id : NodeId} {literal : String} (found : doc.kind? id = some (.text literal)) :
    doc.asItem id = .text literal := by
  rw [asItem, kindOf_eq found]

theorem asItem_whole {id : NodeId} (noText : ∀ literal, doc.kindOf id ≠ .text literal) :
    doc.asItem id = .whole id (doc.kindOf id) := by
  unfold asItem
  split
  next literal isText => exact absurd isText (noText literal)
  next => rfl

/-- A node stands in its row as it is, or as its content between two marks. -/
theorem adds_cases {id : NodeId} (held : doc.Holds id) : itemizing.adds start doc content id = [doc.asItem id] ∨
    doc.kind? id = some .ins ∧ ¬ start.Holds id ∧
      itemizing.adds start doc content id = .mark true :: (content id ++ [.mark false]) := by
  rcases itemizing_cases held with ⟨literal, found, adds⟩ | new | ⟨noText, adds⟩
  · exact .inl (adds.trans (congrArg (fun item => [item]) (asItem_text found).symm))
  · exact .inr new
  · refine .inl (adds.trans (congrArg (fun item => [item]) (asItem_whole fun literal isText => ?_).symm))
    exact noText literal ((kind?_eq_kindOf held).trans (congrArg some isText))

/-- From both sides, a new inserted node looks like one that is there as a whole. -/
theorem ends_adds {id : NodeId} (held : doc.Holds id) :
    (itemizing.adds start doc content id).head?.map Item.leading = some (doc.asItem id).leading ∧
      (itemizing.adds start doc content id).getLast?.map Item.trailing = some (doc.asItem id).trailing := by
  rcases adds_cases held with adds | ⟨isInserted, _, adds⟩
  · rw [adds]
    exact ⟨rfl, rfl⟩
  · rw [adds, leading_asItem, trailing_asItem, kindOf_eq isInserted, ← List.cons_append, List.getLast?_concat]
    exact ⟨rfl, rfl⟩

/-- A row in which the content of new inserted nodes stands has all runs of the row itself, with their flanks. -/
theorem rowFlanks_adds {right : Flank} {children : List NodeId} (held : ∀ child ∈ children, doc.Holds child)
    (left : Flank) : (rowFlanks left right (children.map doc.asItem)).Sublist
      (rowFlanks left right (children.flatMap (itemizing.adds start doc content))) := by
  induction children generalizing left with
  | nil => exact .slnil
  | cons child children ih =>
    obtain ⟨here, later⟩ := List.forall_mem_cons.mp held
    have next : headFlank (children.flatMap (itemizing.adds start doc content)) right =
        headFlank (children.map doc.asItem) right := by
      cases children with
      | nil => rfl
      | cons next children =>
        exact headFlank_append (ends_adds (later next (List.mem_cons_self ..))).1
    rw [List.map_cons, List.flatMap_cons, rowFlanks_append, rowFlanks, next]
    refine List.Sublist.append ?_ ?_
    · rcases adds_cases here with adds | ⟨isInserted, _, adds⟩
      · rw [adds]
        exact List.sublist_append_left _ _
      · rw [asItem_whole fun literal isText => by cases isText.symm.trans (kindOf_eq isInserted)]
        exact List.nil_sublist _
    · rw [lastFlank, (ends_adds here).2]
      exact ih later _

theorem WellFormed.rowFlanks_items (wellFormed : doc.WellFormed) (start : Document) {id : NodeId} (held : doc.Holds id) :
    (rowFlanks .blank .blank ((doc.childIds id).map doc.asItem)).Sublist (rowFlanks .blank .blank (start.items doc id)) := by
  rw [wellFormed.accounts_items start id held, List.append_nil]
  exact rowFlanks_adds (fun child member => wellFormed.linked.holds_of_mem_childIds member) .blank

end

theorem rowFlanks_between {items row : List Item} (left right : Flank)
    (between : .mark true :: (items ++ [.mark false]) <:+: row) :
    (rowFlanks .blank .blank items).Sublist (rowFlanks left right row) := by
  obtain ⟨before, behind, rfl⟩ := between
  rw [rowFlanks_append, rowFlanks_append, rowFlanks_mark, rowFlanks_append]
  refine List.Sublist.trans ?_ (List.sublist_append_left _ _)
  refine List.Sublist.trans ?_ (List.sublist_append_right _ _)
  exact List.sublist_append_left _ _

end MarkdownHtml.Document
