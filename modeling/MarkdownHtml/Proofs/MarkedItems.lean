import MarkdownHtml.Proofs.CutTexts
import MarkdownHtml.Proofs.NodeTrees

/-! Task items and the boxes in their first paragraphs. An item finds its own box whatever has been done for other
items, and a second pass over the items finds no box: the first child of an item that had one is its marker. -/

namespace MarkdownHtml.Document

variable {doc now : Document} {item paragraph text id : NodeId} {cut : Cut} {seen : List NodeId}

/-- What is cut for an item. -/
def taskCut? (doc : Document) (item : NodeId) : Option Cut :=
  match doc.kind? item, doc.firstChild? item with
  | some .listItem, some paragraph =>
    match doc.kind? paragraph, doc.firstChild? paragraph with
    | some .paragraph, some text =>
      match doc.kind? text with
      | some (.text literal) =>
        (readTaskBox literal.toList).map fun (checked, rest) => ⟨text, rest, .taskListMarker checked⟩
      | _ => none
    | _, _ => none
  | _, _ => none

private theorem markItem_eq (doc : Document) (item : NodeId) : doc.markItem item = match doc.taskCut? item with
    | some cut => doc.cutText .front item cut
    | none => doc := by
  unfold markItem taskCut?
  cases doc.kind? item with
  | none => rfl
  | some kind =>
    cases kind with
    | listItem =>
      cases doc.firstChild? item with
      | none => rfl
      | some paragraph =>
        dsimp only
        cases doc.kind? paragraph with
        | none => rfl
        | some kind =>
          cases kind with
          | paragraph =>
            cases doc.firstChild? paragraph with
            | none => rfl
            | some text =>
              dsimp only
              cases doc.kind? text with
              | none => rfl
              | some kind =>
                cases kind with
                | text literal =>
                  dsimp only
                  cases readTaskBox literal.toList <;> rfl
                | _ => rfl
          | _ => rfl
    | _ => rfl

/-- A box that stands in an item: it begins the first text of its first paragraph. -/
structure BoxBelow (doc : Document) (item : NodeId) (cut : Cut) : Prop where
  isItem : doc.kind? item = some .listItem
  text : ∃ paragraph, doc.firstChild? item = some paragraph ∧ doc.kind? paragraph = some .paragraph ∧
    doc.firstChild? paragraph = some cut.text
  begins : ∃ literal checked, doc.kind? cut.text = some (.text literal) ∧
    readTaskBox literal.toList = some (checked, cut.rest) ∧ cut.leaf = .taskListMarker checked

theorem taskCut?_iff : doc.taskCut? item = some cut ↔ doc.BoxBelow item cut := by
  constructor
  · intro found
    unfold taskCut? at found
    split at found
    next paragraph isItem first =>
      split at found
      next text isParagraph leading =>
        split at found
        next literal isText =>
          obtain ⟨⟨checked, rest⟩, read, same⟩ := Option.map_eq_some_iff.mp found
          cases same
          exact ⟨isItem, ⟨paragraph, first, isParagraph, leading⟩, literal, checked, isText, read, rfl⟩
        · cases found
      · cases found
    · cases found
  · obtain ⟨text, rest, leaf⟩ := cut
    rintro ⟨isItem, ⟨paragraph, first, isParagraph, leading⟩, literal, checked, isText, read, rfl⟩
    simp only [taskCut?, isItem, first, isParagraph, leading, isText, read, Option.map_some]

theorem BoxBelow.parents (box : doc.BoxBelow item cut) (linked : doc.Linked) :
    ∃ paragraph, doc.kind? paragraph = some .paragraph ∧ doc.parent? cut.text = some paragraph ∧
      doc.parent? paragraph = some item ∧ doc.previous? cut.text = none := by
  obtain ⟨paragraph, first, isParagraph, leading⟩ := box.text
  obtain ⟨under, start⟩ := (linked.first paragraph cut.text).mp leading
  exact ⟨paragraph, isParagraph, under, ((linked.first item paragraph).mp first).1, start⟩

theorem Linked.planned_taskCut? (linked : doc.Linked) : doc.Planned doc.taskCut? where
  linked := linked
  text item cut found := by
    obtain ⟨literal, _, isText, _⟩ := (taskCut?_iff.mp found).begins
    exact ⟨literal, isText⟩
  owner item cut found := by
    have isItem := (taskCut?_iff.mp found).isItem
    exact ⟨holds_iff_kind.mpr ⟨_, isItem⟩, fun literal isText => nomatch isItem.symm.trans isText⟩
  distinct item other cut cut' found found' same := by
    obtain ⟨paragraph, _, under, above, _⟩ := (taskCut?_iff.mp found).parents linked
    obtain ⟨paragraph', _, under', above', _⟩ := (taskCut?_iff.mp found').parents linked
    rw [same] at under
    cases under.symm.trans under'
    exact Option.some.inj (above.symm.trans above')
  ahead item cut previous literal found following := by
    obtain ⟨_, _, _, _, start⟩ := (taskCut?_iff.mp found).parents linked
    cases start.symm.trans ((linked.inverse _ _).mp following)

section
variable (linked : doc.Linked) (cutting : Cutting .front doc.taskCut? doc seen now)
include linked

private theorem Linked.notCut_paragraph (quiet : item ∈ seen → doc.taskCut? item = none)
    (under : doc.parent? paragraph = some item) (below : doc.parent? text = some paragraph) :
    ∀ other ∈ seen, ∀ cut ∈ doc.taskCut? other, cut.text ≠ text := by
  rintro other member cut planned rfl
  obtain ⟨paragraph', _, inside, above, _⟩ := (taskCut?_iff.mp planned).parents linked
  cases inside.symm.trans below
  cases above.symm.trans under
  cases (quiet member).symm.trans planned

include cutting

private theorem Linked.childIds_item (isItem : doc.kind? item = some .listItem)
    (quiet : item ∈ seen → doc.taskCut? item = none) : now.childIds item = doc.childIds item := by
  rw [cutting.childIds_quiet (holds_iff_kind.mpr ⟨_, isItem⟩) quiet]
  refine linked.filter_emptied fun other _ cut planned below => ?_
  obtain ⟨paragraph, isParagraph, under, _⟩ := (taskCut?_iff.mp planned).parents linked
  cases under.symm.trans below
  cases isItem.symm.trans isParagraph

private theorem Linked.childIds_paragraph (isParagraph : doc.kind? paragraph = some .paragraph)
    (quiet : item ∈ seen → doc.taskCut? item = none) (under : doc.parent? paragraph = some item) :
    now.childIds paragraph = doc.childIds paragraph := by
  have owed : doc.taskCut? paragraph = none := by
    refine Option.eq_none_iff_forall_ne_some.mpr fun cut planned => ?_
    cases isParagraph.symm.trans (taskCut?_iff.mp planned).isItem
  rw [cutting.childIds_quiet (holds_of_parent under) fun _ => owed]
  exact linked.filter_emptied fun other seen cut planned below =>
    linked.notCut_paragraph quiet under below other seen cut planned rfl

private theorem Linked.boxBelow_iff (held : doc.Holds item) (quiet : item ∈ seen → doc.taskCut? item = none) :
    now.BoxBelow item cut ↔ doc.BoxBelow item cut := by
  have plans := linked.planned_taskCut?
  have firsts : ∀ {id}, now.childIds id = doc.childIds id → now.firstChild? id = doc.firstChild? id := fun same => by
    rw [← linked.head?_childIds, ← cutting.linked.head?_childIds, same]
  have items : now.kind? item = some .listItem ↔ doc.kind? item = some .listItem :=
    cutting.kind?_eq_iff plans held (by decide)
  have paragraphs : ∀ {paragraph}, doc.parent? paragraph = some item →
      (now.kind? paragraph = some .paragraph ↔ doc.kind? paragraph = some .paragraph) :=
    fun under => cutting.kind?_eq_iff plans (holds_of_parent under) (by decide)
  have texts : ∀ {paragraph text}, doc.parent? paragraph = some item → doc.parent? text = some paragraph →
      now.kind? text = doc.kind? text := fun under below =>
    cutting.kept _ (holds_of_parent below) (linked.notCut_paragraph quiet under below)
  constructor
  · rintro ⟨isItem, ⟨paragraph, first, isParagraph, leading⟩, literal, checked, isText, read, leaf⟩
    rw [items] at isItem
    rw [firsts (linked.childIds_item cutting isItem quiet)] at first
    have under := ((linked.first item paragraph).mp first).1
    rw [paragraphs under] at isParagraph
    rw [firsts (linked.childIds_paragraph cutting isParagraph quiet under)] at leading
    rw [texts under ((linked.first paragraph cut.text).mp leading).1] at isText
    exact ⟨isItem, ⟨paragraph, first, isParagraph, leading⟩, literal, checked, isText, read, leaf⟩
  · rintro ⟨isItem, ⟨paragraph, first, isParagraph, leading⟩, literal, checked, isText, read, leaf⟩
    have under := ((linked.first item paragraph).mp first).1
    rw [← firsts (linked.childIds_item cutting isItem quiet)] at first
    rw [← texts under ((linked.first paragraph cut.text).mp leading).1] at isText
    rw [← firsts (linked.childIds_paragraph cutting isParagraph quiet under)] at leading
    exact ⟨items.mpr isItem, ⟨paragraph, first, (paragraphs under).mpr isParagraph, leading⟩, literal, checked, isText,
      read, leaf⟩

private theorem Linked.taskCut?_stable (held : doc.Holds item) (quiet : item ∈ seen → doc.taskCut? item = none) :
    now.taskCut? item = doc.taskCut? item := by
  refine Option.ext fun cut => ?_
  rw [taskCut?_iff, taskCut?_iff]
  exact linked.boxBelow_iff cutting held quiet

private theorem Linked.taskCut?_marked (member : item ∈ seen) (planned : doc.taskCut? item = some cut) :
    now.taskCut? item = none := by
  have held := (linked.planned_taskCut?.owner item cut planned).1
  obtain ⟨_, _, _, checked, _, _, marks⟩ := taskCut?_iff.mp planned
  obtain ⟨leaf, row, _, kind, _⟩ := cutting.childIds_owner held member planned
  have first : now.firstChild? item = some leaf := by
    rw [← cutting.linked.head?_childIds, row]
    rfl
  refine Option.eq_none_iff_forall_ne_some.mpr fun other found => ?_
  obtain ⟨paragraph, leading, isParagraph, _⟩ := (taskCut?_iff.mp found).text
  cases first.symm.trans leading
  cases (kind.trans (congrArg some marks)).symm.trans isParagraph

end

theorem WellFormed.marked (wellFormed : doc.WellFormed) (held : doc.Holds root) :
    Cutting .front doc.taskCut? doc (doc.descendants root) doc.markTaskItems := by
  have distinct := wellFormed.nodup_descendants held
  refine wellFormed.linked.planned_taskCut?.run markItem_eq (fun seen item later now whole _ cutting => ?_) distinct
  have member : item ∈ doc.descendants root := whole ▸ List.mem_append_right _ (List.mem_cons_self ..)
  refine wellFormed.linked.taskCut?_stable cutting (((wellFormed.mem_descendants held).mp member).holds held) fun inside => ?_
  rw [whole] at distinct
  exact absurd (List.mem_append_left _ inside) (List.nodup_cons.mp (List.nodup_middle.mp distinct)).1

/-- In a document whose items have been marked no item has a box. -/
theorem WellFormed.taskCut?_markTaskItems (wellFormed : doc.WellFormed) (held : doc.Holds root)
    (member : item ∈ doc.markTaskItems.descendants root) : doc.markTaskItems.taskCut? item = none := by
  have linked := wellFormed.linked
  have marked := wellFormed.marked held
  have within := (marked.linked.wellFormed.mem_descendants (marked.holds root held)).mp member
  by_cases old : doc.Holds item
  · have seen := (wellFormed.mem_descendants held).mpr (marked.within linked within old)
    cases planned : doc.taskCut? item with
    | none => rw [linked.taskCut?_stable marked old fun _ => planned, planned]
    | some cut => exact linked.taskCut?_marked marked seen planned
  · obtain ⟨owner, _, cut, planned, _, kind, _⟩ :=
      marked.exists_owner linked (within.holds (marked.holds root held)) old
    obtain ⟨_, _, _, checked, _, _, marks⟩ := taskCut?_iff.mp planned
    refine Option.eq_none_iff_forall_ne_some.mpr fun other found => ?_
    cases (kind.trans (congrArg some marks)).symm.trans (taskCut?_iff.mp found).isItem

private theorem foldl_markItem {items : List NodeId} (none_ : ∀ item ∈ items, doc.taskCut? item = none) :
    items.foldl markItem doc = doc := by
  induction items with
  | nil => rfl
  | cons item items ih =>
    obtain ⟨here, later⟩ := List.forall_mem_cons.mp none_
    rw [List.foldl_cons, markItem_eq, here]
    exact ih later

theorem WellFormed.markTaskItems_twice (wellFormed : doc.WellFormed) (held : doc.Holds root) :
    doc.markTaskItems.markTaskItems = doc.markTaskItems :=
  foldl_markItem fun _ member => wellFormed.taskCut?_markTaskItems held member

end MarkdownHtml.Document
