import MarkdownHtml.Proofs.MarkedRows

/-! Inserted nodes that are left empty. An inserted node gets no child where the run that closes it stands directly behind
the one that opens it: the runs take each other for something solid. -/

namespace MarkdownHtml.Document

variable {start doc : Document} {id container : NodeId}

/-- Every inserted node that the marking makes has a child. -/
def InsertedFilled (doc : Document) : Prop :=
  ∀ id, doc.markInserted.1.kind? id = some .ins → ¬ doc.Holds id → doc.markInserted.1.childIds id ≠ []

/-- The second run stands directly behind the first one: in the same text, or at the start of the text behind the one
that the first run ends. -/
def Touches (doc : Document) (first second : Delimiter) : Prop :=
  first.text = second.text ∧ second.offset = first.offset + 2 ∨
    doc.next? first.text = some second.text ∧ second.offset = 0 ∧
      ∃ literal, doc.kind? first.text = some (.text literal) ∧ first.offset + 2 = literal.toList.length

/-- Not a mark that opens a node with the mark that closes it again. -/
def Item.Parted (first second : Item) : Prop := ¬ (first = .mark true ∧ second = .mark false)

section
variable {offset : Nat} {letters : List Char} {delimiters : List Delimiter} (cuts : Cuts offset letters delimiters)
include cuts

private theorem Cuts.head?_cut {opens : Bool} : (itemizing.cut offset letters delimiters).head? = some (.mark opens) ↔
    ∃ delimiter ∈ delimiters, delimiter.opens = opens ∧ delimiter.offset = offset := by
  cases cuts with
  | done => cases letters <;> simp [Reading.cut, Reading.piece, itemizing]
  | @cut _ rest delimiter delimiters before here later =>
    have behind : ∀ other ∈ delimiters, other.offset ≠ offset := fun other member same => by
      have bounds := later.bounds member
      omega
    rw [Reading.cut_cons here]
    constructor
    · intro found
      cases before with
      | nil => exact ⟨delimiter, List.mem_cons_self .., by simpa [Reading.piece, itemizing] using found, here⟩
      | cons first before => cases found
    · rintro ⟨other, member, rfl, start⟩
      rcases List.mem_cons.mp member with rfl | member
      · obtain rfl : before = [] := List.length_eq_zero_iff.mp (by omega)
        rfl
      · exact absurd start (behind other member)

private theorem Cuts.cut_ne_nil (some_ : letters ≠ []) : itemizing.cut offset letters delimiters ≠ [] := by
  cases cuts with
  | done =>
    cases letters with
    | nil => exact absurd rfl some_
    | cons => exact List.cons_ne_nil _ _
  | cut before here _ =>
    rw [Reading.cut_cons here]
    exact List.append_ne_nil_of_left_ne_nil (List.append_ne_nil_of_right_ne_nil _ (List.cons_ne_nil _ _)) _

private theorem Cuts.getLast?_cut {opens : Bool} :
    (itemizing.cut offset letters delimiters).getLast? = some (.mark opens) ↔
    ∃ delimiter ∈ delimiters, delimiter.opens = opens ∧ delimiter.offset + 2 = offset + letters.length := by
  induction cuts with
  | done start letters => cases letters <;> simp [Reading.cut, Reading.piece, itemizing]
  | @cut start rest delimiter delimiters before here later ih =>
    have length : start + (before ++ '+' :: '+' :: rest).length = delimiter.offset + 2 + rest.length := by
      simp only [List.length_append, List.length_cons]
      omega
    rw [Reading.cut_cons here, List.getLast?_append, length, List.exists_mem_cons_iff, ← ih]
    cases rest with
    | nil =>
      obtain rfl := later.eq_nil
      simp [Reading.cut, Reading.piece, itemizing]
    | cons first rest =>
      obtain ⟨item, last⟩ := Option.ne_none_iff_exists'.mp
        (List.getLast?_eq_none_iff.not.mpr (later.cut_ne_nil (List.cons_ne_nil first rest)))
      rw [last, Option.some_or, or_iff_right]
      rintro ⟨_, same⟩
      rw [List.length_cons] at same
      omega

private theorem Cuts.isChain_cut : (itemizing.cut offset letters delimiters).IsChain Item.Parted ↔
    ∀ first ∈ delimiters, ∀ second ∈ delimiters, first.opens = true → second.opens = false →
      second.offset ≠ first.offset + 2 := by
  induction cuts with
  | done start letters => cases letters <;> simp [Reading.cut, Reading.piece, itemizing]
  | @cut start rest delimiter delimiters before here later ih =>
    have apart : ∀ other ∈ delimiters, delimiter.offset ≠ other.offset + 2 := fun other member => by
      have bounds := later.bounds member
      omega
    have piece : (itemizing.piece before ++ (.mark delimiter.opens ::
        itemizing.cut (delimiter.offset + 2) rest delimiters)).IsChain Item.Parted ↔
        (.mark delimiter.opens :: itemizing.cut (delimiter.offset + 2) rest delimiters).IsChain Item.Parted := by
      cases before with
      | nil => rfl
      | cons =>
        refine List.isChain_cons_cons.trans (and_iff_right ?_)
        rintro ⟨same, _⟩
        cases same
    have behind : (∀ item ∈ (itemizing.cut (delimiter.offset + 2) rest delimiters).head?,
        Item.Parted (.mark delimiter.opens) item) ↔ ∀ second ∈ delimiters, delimiter.opens = true →
          second.opens = false → second.offset ≠ delimiter.offset + 2 := by
      constructor
      · intro parted second member opens closes start
        exact parted _ (later.head?_cut.mpr ⟨second, member, closes, start⟩) ⟨congrArg Item.mark opens, rfl⟩
      · rintro clear item leading ⟨same, rfl⟩
        obtain ⟨second, member, closes, start⟩ := later.head?_cut.mp leading
        exact clear second member (Item.mark.inj same) closes start
    rw [Reading.cut_cons here, List.append_assoc]
    refine piece.trans ?_
    rw [List.isChain_cons, ih, behind]
    simp only [List.forall_mem_cons]
    constructor
    · rintro ⟨first, others⟩
      refine ⟨⟨fun _ _ => by omega, first⟩, fun other member => ⟨fun _ _ => apart other member, others other member⟩⟩
    · rintro ⟨⟨_, first⟩, others⟩
      exact ⟨first, fun other member => (others other member).2⟩

end

private theorem Linked.marks_child (linked : doc.Linked) {child : NodeId} (member : child ∈ doc.childIds container)
    {row : List Item} {delimiters : List Delimiter}
    (same : itemizing.child doc doc (fun _ => []) (doc.matchDelimiters container) child = row)
    (splits : delimitersOf (doc.matchDelimiters container) child = delimiters) :
    row ≠ [] ∧
      (row.head? = some (.mark false) ↔ ∃ delimiter ∈ delimiters, delimiter.opens = false ∧ delimiter.offset = 0) ∧
      (row.getLast? = some (.mark true) ↔ ∃ delimiter ∈ delimiters, delimiter.opens = true ∧
        ∃ literal, doc.kind? child = some (.text literal) ∧ delimiter.offset + 2 = literal.toList.length) ∧
      (row.IsChain Item.Parted ↔ ∀ first ∈ delimiters, ∀ second ∈ delimiters, first.opens = true → second.opens = false →
        second.offset ≠ first.offset + 2) := by
  subst same splits
  rcases linked.child_cases member with ⟨none_, same⟩ | ⟨literal, found, some_, cuts, same⟩
  · rw [same, none_]
    rcases itemizing_cases (linked.holds_of_mem_childIds member) with ⟨_, _, adds⟩ | ⟨_, new, _⟩ | ⟨_, adds⟩
    · rw [adds]
      simp
    · exact absurd (linked.holds_of_mem_childIds member) new
    · rw [adds]
      simp
  · rw [same]
    have letters : literal.toList ≠ [] := by
      intro none_
      rw [none_] at cuts
      exact some_ cuts.eq_nil
    refine ⟨cuts.cut_ne_nil letters, cuts.head?_cut, cuts.getLast?_cut.trans ?_, cuts.isChain_cut⟩
    simp [found]

private theorem Linked.isChain_markedRow (linked : doc.Linked) (container : NodeId) :
    (doc.markedRow container).IsChain Item.Parted ↔ ∀ first ∈ doc.matchDelimiters container,
      ∀ second ∈ doc.matchDelimiters container, first.opens = true → second.opens = false → ¬ doc.Touches first second := by
  have marks := fun child (member : child ∈ doc.childIds container) => linked.marks_child member rfl rfl
  obtain ⟨perm, _, _⟩ := linked.matched container
  have inRow : ∀ delimiter ∈ doc.matchDelimiters container, delimiter.text ∈ doc.childIds container := by
    intro delimiter member
    obtain ⟨child, inside, here⟩ := List.mem_flatMap.mp (perm.mem_iff.mpr member)
    exact (mem_delimitersOf.mp here).2 ▸ inside
  have filled : [] ∉ (doc.childIds container).map
      (itemizing.child doc doc (fun _ => []) (doc.matchDelimiters container)) := by
    intro member
    obtain ⟨child, inside, none_⟩ := List.mem_map.mp member
    exact (marks child inside).1 none_
  rw [markedRow, List.flatMap_def, List.isChain_flatten filled, List.forall_mem_map, List.isChain_map]
  constructor
  · rintro ⟨inside, between⟩ first left second right opens closes (⟨text, offset⟩ | ⟨next, offset, literal, found, length⟩)
    · refine ((marks _ (inRow first left)).2.2.2.mp (inside _ (inRow first left))) first ?_ second ?_ opens closes offset
      · exact mem_delimitersOf.mpr ⟨left, rfl⟩
      · exact mem_delimitersOf.mpr ⟨right, text.symm⟩
    · obtain ⟨front, rest, split⟩ := List.append_of_mem (inRow first left)
      have behind := (linked.neighbours split).2.symm.trans next
      obtain ⟨rest, rfl⟩ := List.head?_eq_some_iff.mp behind
      rw [split] at between
      have parted := (List.isChain_append_cons_cons.mp between).2.1
      refine parted _ ?_ _ ?_ ⟨rfl, rfl⟩
      · exact (marks _ (inRow first left)).2.2.1.mpr ⟨first, mem_delimitersOf.mpr ⟨left, rfl⟩, opens, literal, found, length⟩
      · exact (marks _ (inRow second right)).2.1.mpr ⟨second, mem_delimitersOf.mpr ⟨right, rfl⟩, closes, offset⟩
  · intro clear
    refine ⟨fun child member => (marks child member).2.2.2.mpr ?_, ?_⟩
    · intro first left second right opens closes offset
      obtain ⟨left, here⟩ := mem_delimitersOf.mp left
      obtain ⟨right, text⟩ := mem_delimitersOf.mp right
      exact clear first left second right opens closes (.inl ⟨here.trans text.symm, offset⟩)
    · refine (linked.row_childIds container).linked.imp_of_mem_imp fun child next inside behind follows => ?_
      rintro item trailing other leading ⟨rfl, rfl⟩
      obtain ⟨first, left, opens, literal, found, length⟩ := (marks child inside).2.2.1.mp trailing
      obtain ⟨second, right, closes, offset⟩ := (marks next behind).2.1.mp leading
      obtain ⟨left, here⟩ := mem_delimitersOf.mp left
      obtain ⟨right, text⟩ := mem_delimitersOf.mp right
      refine clear first left second right opens closes (.inr ⟨?_, offset, literal, here.symm ▸ found, length⟩)
      rw [here, text]
      exact follows

private theorem adds_ends (start : Document) (held : doc.Holds id) (content : NodeId → List Item) :
    itemizing.adds start doc content id ≠ [] ∧ (itemizing.adds start doc content id).head? ≠ some (.mark false) ∧
      (itemizing.adds start doc content id).getLast? ≠ some (.mark true) := by
  rcases itemizing_cases held with ⟨_, _, adds⟩ | ⟨_, _, adds⟩ | ⟨_, adds⟩
  · rw [adds]
    simp
  · rw [adds, List.getLast?_cons, List.getLast?_concat]
    simp
  · rw [adds]
    simp

private theorem WellFormed.items_ends (after : doc.WellFormed) (start : Document) (held : doc.Holds id) :
    (doc.childIds id ≠ [] → start.items doc id ≠ []) ∧ (start.items doc id).head? ≠ some (.mark false) ∧
      (start.items doc id).getLast? ≠ some (.mark true) := by
  have items := after.accounts_items start id held
  have ends := fun child (member : child ∈ doc.childIds id) =>
    adds_ends start (after.linked.holds_of_mem_childIds member) (start.items doc)
  rw [items, List.append_nil]
  refine ⟨fun some_ none_ => ?_, ?_, ?_⟩
  · obtain ⟨child, member⟩ := List.exists_mem_of_ne_nil _ some_
    exact (ends child member).1 (List.flatMap_eq_nil_iff.mp none_ child member)
  · cases row : doc.childIds id with
    | nil => exact nofun
    | cons child rest =>
      obtain ⟨some_, first, _⟩ := ends child (row ▸ List.mem_cons_self ..)
      rw [List.flatMap_cons, List.head?_append_of_ne_nil _ some_]
      exact first
  · rcases List.eq_nil_or_concat (doc.childIds id) with row | ⟨front, child, row⟩
    · rw [row]
      exact nofun
    · rw [List.concat_eq_append] at row
      obtain ⟨some_, _, last⟩ := ends child (row ▸ List.mem_append_right front (List.mem_singleton_self child))
      rw [row, List.flatMap_append, List.flatMap_singleton, List.getLast?_append_of_ne_nil _ some_]
      exact last

/-- Where every new inserted node has a child, marks have something between them. -/
theorem WellFormed.isChain_items (after : doc.WellFormed)
    (filled : ∀ id, doc.kind? id = some .ins → ¬ start.Holds id → doc.childIds id ≠ []) (held : doc.Holds id) :
    (start.items doc id).IsChain Item.Parted := by
  suffices each : ∀ id, doc.Holds id → (start.items doc id).IsChain Item.Parted from each id held
  refine after.child_induction fun id ih held => ?_
  have items := after.accounts_items start id held
  have blocks : [] ∉ (doc.childIds id).map (itemizing.adds start doc (start.items doc)) := by
    intro member
    obtain ⟨child, inside, none_⟩ := List.mem_map.mp member
    exact (adds_ends start (after.linked.holds_of_mem_childIds inside) _).1 none_
  rw [items, List.append_nil, List.flatMap_def, List.isChain_flatten blocks, List.forall_mem_map, List.isChain_map]
  refine ⟨fun child member => ?_, ?_⟩
  · have inside := after.linked.holds_of_mem_childIds member
    rcases itemizing_cases inside with ⟨_, _, adds⟩ | ⟨isInserted, new, adds⟩ | ⟨_, adds⟩
    · exact adds ▸ .singleton _
    · obtain ⟨some_, first, last⟩ := after.items_ends start inside
      rw [adds, List.isChain_cons, List.isChain_append, List.head?_append_of_ne_nil _ (some_ (filled child isInserted new))]
      refine ⟨?_, ih child member inside, .singleton _, ?_⟩
      · rintro item leading ⟨_, rfl⟩
        exact first leading
      · rintro item trailing _ _ ⟨rfl, _⟩
        exact last trailing
    · exact adds ▸ .singleton _
  · refine (after.linked.row_childIds id).linked.imp_of_mem_imp fun child _ member _ _ => ?_
    rintro item trailing _ _ ⟨rfl, _⟩
    exact (adds_ends start (after.linked.holds_of_mem_childIds member) _).2.2 trailing

private theorem InsertedFilled.isChain (filled : doc.InsertedFilled) (wellFormed : doc.WellFormed)
    (held : doc.Holds root) (leaves : doc.LeafTexts) (member : container ∈ doc.descendants root) :
    (doc.markedRow container).IsChain Item.Parted := by
  obtain ⟨marking, _⟩ := markInserted_accounts wellFormed held leaves
  have inside := (wellFormed.mem_descendants held).mp member
  rw [← marking.items_eq (List.mem_reverse.mpr member)]
  exact marking.linked.wellFormed.isChain_items filled (marking.holds container (inside.holds held))

/-- Every inserted node that the marking makes has a child, if and only if no run that opens one is touched by a run that
closes one. -/
theorem insertedFilled_iff (wellFormed : doc.WellFormed) (held : doc.Holds root) (leaves : doc.LeafTexts) :
    doc.InsertedFilled ↔ ∀ container ∈ doc.descendants root, ∀ first ∈ doc.matchDelimiters container,
      ∀ second ∈ doc.matchDelimiters container, first.opens = true → second.opens = false → ¬ doc.Touches first second := by
  constructor
  · intro filled container member
    exact (wellFormed.linked.isChain_markedRow container).mp (filled.isChain wellFormed held leaves member)
  · intro apart id isInserted new bare
    obtain ⟨marking, _⟩ := markInserted_accounts wellFormed held leaves
    have present : doc.markInserted.1.Holds id := holds_iff_kind.mpr ⟨_, isInserted⟩
    rcases marking.new_cases wellFormed present new with ⟨literal, isText⟩ | ⟨_, container, member, between⟩
    · cases isInserted.symm.trans isText
    · have items := marking.linked.wellFormed.accounts_items doc id present
      rw [bare] at items
      rw [items] at between
      have parted := (wellFormed.linked.isChain_markedRow container).mpr (apart container (List.mem_reverse.mp member))
      have inside := List.IsChain.infix parted between
      exact (List.isChain_cons_cons.mp inside).1 ⟨rfl, rfl⟩

/-- Runs that touch from the other side leave nothing empty: the first one closes and the second one opens. -/
theorem insertedFilled_iff_neighbours : ∃ doc : Document, doc.WellFormed ∧ doc.Holds root ∧ doc.LeafTexts ∧
    (doc.matchDelimiters ⟨1⟩).length = 4 ∧ doc.InsertedFilled := by
  let doc := ((Document.empty.appendNew root .paragraph).2.appendNew ⟨1⟩ (.text "++a++++b++")).2
  obtain ⟨wellFormed, leaves⟩ : doc.WellFormed ∧ doc.LeafTexts := leafTexts_paragraph _
  have apart : ∀ container ∈ doc.descendants root, ∀ first ∈ doc.matchDelimiters container,
      ∀ second ∈ doc.matchDelimiters container, first.opens = true → second.opens = false →
        second.offset ≠ first.offset + 2 ∧ doc.next? first.text = none := by decide
  refine ⟨doc, wellFormed, by decide, leaves, by decide, (insertedFilled_iff wellFormed (by decide) leaves).mpr ?_⟩
  rintro container member first left second right opens closes (⟨_, offset⟩ | ⟨next, _⟩)
  · exact (apart container member first left second right opens closes).1 offset
  · cases (apart container member first left second right opens closes).2.symm.trans next

/-- Four plus signs between two letters: an inserted node with nothing in it. -/
theorem not_insertedFilled_between :
    let doc := ((Document.empty.appendNew root .paragraph).2.appendNew ⟨1⟩ (.text "a++++b")).2
    doc.WellFormed ∧ doc.Holds root ∧ doc.LeafTexts ∧ ¬ doc.InsertedFilled := by
  intro doc
  obtain ⟨wellFormed, leaves⟩ : doc.WellFormed ∧ doc.LeafTexts := leafTexts_paragraph _
  have matched : doc.matchDelimiters ⟨1⟩ = [⟨⟨2⟩, 3, false⟩, ⟨⟨2⟩, 1, true⟩] := by decide
  refine ⟨wellFormed, by decide, leaves, fun filled => ?_⟩
  have parted := filled.isChain wellFormed (by decide) leaves (show ⟨1⟩ ∈ doc.descendants root by decide)
  rw [wellFormed.linked.isChain_markedRow, matched] at parted
  exact parted ⟨⟨2⟩, 1, true⟩ (by decide) ⟨⟨2⟩, 3, false⟩ (by decide) rfl rfl (.inl ⟨rfl, rfl⟩)

end MarkdownHtml.Document
