import MarkdownHtml.Proofs.ExtendedDocuments

/-! Passes that cut the beginnings of texts. Each step of such a pass shortens one text and puts one new node below
another node, its owner. The owners are listed before the first step, so a step has to find for its owner what was to be
found there at the start. -/

namespace MarkdownHtml.Document

/-- What a step does for its owner: which text it shortens, what is left of the text, and what the new node is. -/
structure Cut where
  text : NodeId
  rest : List Char
  leaf : NodeKind

/-- The text, if nothing is left of it. -/
def Cut.emptied (cut : Cut) : List NodeId := if cut.rest.isEmpty then [cut.text] else []

/-- Where the new node comes among the children of its owner. -/
inductive Side
  | front | back

def Side.join : Side → List α → List α → List α
  | front, added, row => added ++ row
  | back, added, row => row ++ added

def addLeaf (doc : Document) (side : Side) (owner : NodeId) (kind : NodeKind) : Document :=
  match side with
  | .front => (doc.alloc kind).2.prependChild owner ⟨doc.size⟩
  | .back => (doc.appendNew owner kind).2

def cutText (doc : Document) (side : Side) (owner : NodeId) (cut : Cut) : Document :=
  (doc.shortened cut.text cut.rest).addLeaf side owner cut.leaf

variable {doc after start : Document} {side : Side} {id owner text : NodeId} {kind : NodeKind} {rest : List Char} {cut : Cut}

private theorem Side.filter_join (side : Side) (keep : α → Bool) (added row : List α) :
    (side.join added row).filter keep = side.join (added.filter keep) (row.filter keep) := by
  cases side <;> exact List.filter_append ..

private theorem Side.mem_join {side : Side} {x : α} {added row : List α} :
    x ∈ side.join added row ↔ x ∈ added ∨ x ∈ row := by
  cases side with
  | front => exact List.mem_append
  | back => exact List.mem_append.trans or_comm

private theorem Cut.mem_emptied : id ∈ cut.emptied ↔ cut.rest = [] ∧ id = cut.text := by
  unfold emptied
  split
  next blank => simp [List.isEmpty_iff.mp blank]
  next some_ => simp [List.isEmpty_iff.not.mp some_]

/-! A text that is shortened. -/

section
variable (linked : doc.Linked)
include linked

private theorem Linked.shortened (text : NodeId) (rest : List Char) : (doc.shortened text rest).Linked := by
  have links : SameLinks doc (doc.setKind text (.text (String.ofList rest))) := sameLinks_setKind ..
  unfold Document.shortened
  dsimp only
  split
  · exact (links.linked linked).detach text
  · exact links.linked linked

omit linked in
private theorem holds_shortened (text : NodeId) (rest : List Char) :
    (doc.shortened text rest).Holds id ↔ doc.Holds id := by
  have size : (doc.shortened text rest).size = doc.size := by
    unfold shortened
    dsimp only
    split
    · rw [size_detach, setKind, size_modify]
    · rw [setKind, size_modify]
  rw [Holds, Holds, size]

private theorem Linked.kind?_shortened_self {literal : String} (found : doc.kind? text = some (.text literal))
    (rest : List Char) : (doc.shortened text rest).kind? text = some (.text (String.ofList rest)) := by
  have links : SameLinks doc (doc.setKind text (.text (String.ofList rest))) := sameLinks_setKind ..
  have kind : (doc.setKind text (.text (String.ofList rest))).kind? text = some (.text (String.ofList rest)) := by
    rw [kind?_setKind, if_pos rfl, found]
    rfl
  unfold Document.shortened
  dsimp only
  split
  · rw [((links.linked linked).removed_detach text).kind, kind]
  · exact kind

private theorem Linked.childIds_shortened (cut : Cut) (id : NodeId) :
    (doc.shortened cut.text cut.rest).childIds id = (doc.childIds id).filter (· ∉ cut.emptied) := by
  have links : SameLinks doc (doc.setKind cut.text (.text (String.ofList cut.rest))) := sameLinks_setKind ..
  unfold Document.shortened Cut.emptied
  dsimp only
  split
  next blank =>
    rw [(links.linked linked).childIds_detach, childIds_of_sameLinks links linked,
      (linked.nodup_childIds id).erase_eq_filter]
    refine List.filter_congr fun child _ => ?_
    rw [Bool.eq_iff_iff, bne_iff_ne, decide_eq_true_eq, List.mem_singleton]
  next some_ =>
    rw [childIds_of_sameLinks links linked, List.filter_eq_self.mpr fun child _ => by simp]

private theorem Linked.next?_shortened (cut : Cut) (stays : id ∉ cut.emptied) :
    (doc.shortened cut.text cut.rest).next? id =
      if cut.rest = [] ∧ doc.next? id = some cut.text then doc.next? cut.text else doc.next? id := by
  have links : SameLinks doc (doc.setKind cut.text (.text (String.ofList cut.rest))) := sameLinks_setKind ..
  unfold Document.shortened
  dsimp only
  split
  next blank =>
    have other : id ≠ cut.text := fun same => stays (Cut.mem_emptied.mpr ⟨List.isEmpty_iff.mp blank, same⟩)
    rw [((links.linked linked).removed_detach cut.text).next, if_neg other, links.previous, links.next, links.next]
    simp only [linked.inverse, List.isEmpty_iff.mp blank, true_and]
  next some_ =>
    rw [links.next, if_neg fun both => some_ (List.isEmpty_iff.mpr both.1)]

private theorem Linked.alone_detach (alone : doc.Alone id) (text : NodeId) : (doc.detach text).Alone id := by
  have removed := linked.removed_detach text
  by_cases here : id = text
  · exact here ▸ removed.alone
  · obtain ⟨before, behind, _⟩ := alone.unseen linked text
    refine ⟨?_, ?_, ?_⟩
    · rw [removed.parent, if_neg here, alone.parent]
    · rw [removed.previous, if_neg here, if_neg behind, alone.previous]
    · rw [removed.next, if_neg here, if_neg before, alone.next]

private theorem Linked.alone_emptied (member : id ∈ cut.emptied) : (doc.shortened cut.text cut.rest).Alone id := by
  have links : SameLinks doc (doc.setKind cut.text (.text (String.ofList cut.rest))) := sameLinks_setKind ..
  obtain ⟨blank, rfl⟩ := Cut.mem_emptied.mp member
  rw [Document.shortened, if_pos (List.isEmpty_iff.mpr blank)]
  exact ((links.linked linked).removed_detach cut.text).alone

private theorem Linked.alone_shortened (alone : doc.Alone id) (text : NodeId) (rest : List Char) :
    (doc.shortened text rest).Alone id := by
  have links : SameLinks doc (doc.setKind text (.text (String.ofList rest))) := sameLinks_setKind ..
  have still : (doc.setKind text (.text (String.ofList rest))).Alone id :=
    ⟨(links.parent id).trans alone.parent, (links.previous id).trans alone.previous, (links.next id).trans alone.next⟩
  unfold Document.shortened
  dsimp only
  split
  · exact (links.linked linked).alone_detach still text
  · exact still

end

/-! A new node below its owner. -/

structure Leafed (doc after : Document) (side : Side) (owner : NodeId) (kind : NodeKind) : Prop where
  linked : after.Linked
  holds : ∀ id, after.Holds id ↔ doc.Holds id ∨ id = ⟨doc.size⟩
  kind : ∀ id, after.kind? id = if id = ⟨doc.size⟩ then some kind else doc.kind? id
  rows : ∀ id, after.childIds id = if id = owner then side.join [⟨doc.size⟩] (doc.childIds owner) else doc.childIds id
  elsewhere : ∀ id, doc.Holds id → doc.parent? id ≠ some owner → after.next? id = doc.next? id
  alone : ∀ id, doc.Holds id → doc.Alone id → after.Alone id

private theorem Linked.placed_leaf (linked : doc.Linked) (held : doc.Holds owner)
    (noText : ∀ literal, doc.kind? owner ≠ some (.text literal)) (side : Side) (kind : NodeKind) :
    ∃ left right, Placed (doc.alloc kind).2 (doc.addLeaf side owner kind) (some owner) left right ⟨doc.size⟩ ∧
      (doc.alloc kind).2.Gap (some owner) left right ∧ (doc.addLeaf side owner kind).Linked ∧
      match side with
      | .front => left = none
      | .back => right = none := by
  have fits : (doc.alloc kind).2.Fits owner ⟨doc.size⟩ :=
    { held := holds_alloc held
      noText := fun literal => by
        rw [kind?_alloc, if_neg held.ne_new]
        exact noText literal
      present := holds_alloc_new kind
      alone := alone_new kind
      movable := linked.movable_new held kind
      notRoot := fun same => by
        have none_ : doc.size = 0 := congrArg NodeId.index same
        rw [Holds, none_] at held
        exact Nat.not_lt_zero _ held }
  have alloced := linked.alloc kind
  cases side with
  | front =>
    exact ⟨none, _, fits.placed_first alloced, alloced.gap_start owner,
      alloced.prependChild fits.held fits.present fits.movable (fits.notFirst alloced), rfl⟩
  | back =>
    exact ⟨_, none, fits.placed_last alloced, alloced.gap_end owner,
      alloced.appendChild fits.held fits.present fits.movable, rfl⟩

private theorem Linked.leafed (linked : doc.Linked) (held : doc.Holds owner)
    (noText : ∀ literal, doc.kind? owner ≠ some (.text literal)) (side : Side) (kind : NodeKind) :
    Leafed doc (doc.addLeaf side owner kind) side owner kind := by
  have links : SameLinks doc (doc.alloc kind).2 := sameLinks_alloc kind
  obtain ⟨left, right, placed, gap, linkedAfter, ends⟩ := linked.placed_leaf held noText side kind
  have kinds : ∀ id, (doc.addLeaf side owner kind).kind? id = if id = ⟨doc.size⟩ then some kind else doc.kind? id :=
    fun id => (placed.kind id).trans (kind?_alloc kind id)
  refine ⟨linkedAfter, fun id => ?_, kinds, fun id => ?_, fun id present apart => ?_, fun id present alone => ?_⟩
  · rw [holds_iff_kind, holds_iff_kind, kinds]
    split <;> simp_all
  · split
    next same =>
      subst same
      obtain ⟨front, back, row, joined, first, last⟩ := placed.exists_row gap (alone_new kind) linkedAfter rfl
      rw [childIds_of_sameLinks links linked] at row
      rw [joined, row]
      cases side with
      | front =>
        rw [ends, List.getLast?_eq_none_iff] at first
        rw [first]
        rfl
      | back =>
        rw [ends, List.head?_eq_none_iff] at last
        rw [last, List.append_nil]
        rfl
    next other =>
      rw [placed.childIds_elsewhere gap (alone_new kind) linkedAfter fun same => other (Option.some.inj same).symm,
        childIds_of_sameLinks links linked]
  · rw [placed.next, if_neg present.ne_new, links.next, if_neg]
    exact fun before => apart ((links.parent id).symm.trans (gap.behind id before).2)
  · have orphan : (doc.alloc kind).2.parent? id = none := (links.parent id).trans alone.parent
    have apart : (doc.alloc kind).2.parent? id ≠ some owner := fun under => nomatch orphan.symm.trans under
    refine ⟨?_, ?_, ?_⟩
    · rw [placed.parent, if_neg present.ne_new, orphan]
    · rw [placed.previous, if_neg present.ne_new, if_neg fun behind => apart (gap.before id behind).2, links.previous,
        alone.previous]
    · rw [placed.next, if_neg present.ne_new, if_neg fun before => apart (gap.behind id before).2, links.next, alone.next]

/-! A whole pass. -/

/-- The texts of which nothing is left when the owners have been seen. -/
def emptied (plan : NodeId → Option Cut) (seen : List NodeId) : List NodeId := (seen.filterMap plan).flatMap Cut.emptied

/-- What a plan has to be at the start: the texts are texts with no text in front of them, and every text has one owner,
which is no text itself. -/
structure Planned (start : Document) (plan : NodeId → Option Cut) : Prop where
  linked : start.Linked
  text : ∀ owner cut, plan owner = some cut → ∃ literal, start.kind? cut.text = some (.text literal)
  owner : ∀ owner cut, plan owner = some cut → start.Holds owner ∧ ∀ literal, start.kind? owner ≠ some (.text literal)
  distinct : ∀ owner other cut cut', plan owner = some cut → plan other = some cut' → cut.text = cut'.text → owner = other
  ahead : ∀ owner cut previous literal, plan owner = some cut → start.next? previous = some cut.text →
    start.kind? previous ≠ some (.text literal)

/-- What has become of a document when the owners in a list have had their texts cut. Nothing else has changed: each row
has lost the texts of which nothing is left, and has the new node of its owner. -/
structure Cutting (side : Side) (plan : NodeId → Option Cut) (start : Document) (seen : List NodeId) (doc : Document) :
    Prop where
  linked : doc.Linked
  holds : ∀ id, start.Holds id → doc.Holds id
  kept : ∀ id, start.Holds id → (∀ owner ∈ seen, ∀ cut ∈ plan owner, cut.text ≠ id) → doc.kind? id = start.kind? id
  cut : ∀ owner ∈ seen, ∀ cut ∈ plan owner, doc.kind? cut.text = some (.text (String.ofList cut.rest))
  rows : ∀ id, start.Holds id → ∃ added,
    doc.childIds id = side.join added ((start.childIds id).filter (· ∉ emptied plan seen)) ∧
      (∀ leaf ∈ added, ¬ start.Holds leaf ∧ doc.childIds leaf = []) ∧
      added.map doc.kind? = if id ∈ seen then (plan id).toList.map fun cut => some cut.leaf else []
  fresh : ∀ id, doc.Holds id → ¬ start.Holds id → ∃ owner ∈ seen, start.Holds owner ∧ doc.parent? id = some owner
  loose : ∀ id, start.Holds id → start.parent? id = none → id ∉ emptied plan seen →
    doc.next? id = (start.next? id).bind fun next => if next ∈ emptied plan seen then start.next? next else some next
  gone : ∀ id ∈ emptied plan seen, doc.Alone id

variable {plan : NodeId → Option Cut} {seen : List NodeId}

private theorem mem_emptied : id ∈ emptied plan seen ↔
    ∃ owner ∈ seen, ∃ cut ∈ plan owner, cut.rest = [] ∧ id = cut.text := by
  simp only [emptied, List.mem_flatMap, List.mem_filterMap, Cut.mem_emptied]
  exact ⟨fun ⟨cut, ⟨owner, member, planned⟩, blank⟩ => ⟨owner, member, cut, planned, blank⟩,
    fun ⟨owner, member, cut, planned, blank⟩ => ⟨cut, ⟨owner, member, planned⟩, blank⟩⟩

theorem notMem_emptied (notCut : ∀ owner ∈ seen, ∀ cut ∈ plan owner, cut.text ≠ id) : id ∉ emptied plan seen := by
  intro gone
  obtain ⟨owner, member, cut, planned, _, same⟩ := mem_emptied.mp gone
  exact notCut owner member cut planned same.symm

private theorem Planned.holds_text (plans : Planned start plan) (planned : plan owner = some cut) :
    start.Holds cut.text := by
  obtain ⟨literal, found⟩ := plans.text owner cut planned
  exact holds_iff_kind.mpr ⟨_, found⟩

private theorem Planned.notMem_cut (plans : Planned start plan) (planned : plan owner = some cut)
    (young : ¬ start.Holds id) :
    id ∉ cut.emptied := fun inside => young ((Cut.mem_emptied.mp inside).2 ▸ plans.holds_text planned)

private theorem Planned.notMem_emptied (plans : Planned start plan) {next : NodeId} {literal : String}
    (isText : start.kind? id = some (.text literal)) (following : start.next? id = some next) : next ∉ emptied plan seen := by
  intro member
  obtain ⟨owner, _, cut, planned, _, rfl⟩ := mem_emptied.mp member
  exact plans.ahead owner cut id literal planned following isText

private theorem emptied_concat (planned : plan owner = some cut) :
    emptied plan (seen ++ [owner]) = emptied plan seen ++ cut.emptied := by
  simp [emptied, planned]

private theorem emptied_skipped (none_ : plan owner = none) : emptied plan (seen ++ [owner]) = emptied plan seen := by
  simp [emptied, none_]

private theorem Cutting.begin (linked : start.Linked) (side : Side) (plan : NodeId → Option Cut) :
    Cutting side plan start [] start where
  linked := linked
  holds _ := id
  kept _ _ _ := rfl
  cut := nofun
  rows id _ := ⟨[], by cases side <;> simp [Side.join, emptied], nofun, rfl⟩
  fresh id held new := absurd held new
  loose id _ _ _ := by simp [emptied]
  gone := nofun

theorem Planned.isText_of_mem_emptied (plans : Planned start plan) (member : id ∈ emptied plan seen) :
    ∃ literal, start.kind? id = some (.text literal) := by
  obtain ⟨owner, _, cut, planned, _, rfl⟩ := mem_emptied.mp member
  exact plans.text owner cut planned

theorem Planned.notCut (plans : Planned start plan) (found : start.kind? id = some kind) (noText : kind.type ≠ .text) :
    ∀ owner ∈ seen, ∀ cut ∈ plan owner, cut.text ≠ id := by
  rintro owner _ cut planned rfl
  obtain ⟨literal, isText⟩ := plans.text owner cut planned
  cases found.symm.trans isText
  exact noText rfl

theorem Planned.text_mem_emptied (plans : Planned start plan) (member : owner ∈ seen) (planned : plan owner = some cut) :
    cut.text ∈ emptied plan seen ↔ cut.rest = [] := by
  rw [mem_emptied]
  refine ⟨fun ⟨other, _, cut', planned', blank, same⟩ => ?_, fun blank => ⟨owner, member, cut, planned, blank, rfl⟩⟩
  cases plans.distinct owner other cut cut' planned planned' same
  cases planned.symm.trans planned'
  exact blank

theorem Linked.filter_emptied (linked : start.Linked)
    (apart : ∀ owner ∈ seen, ∀ cut ∈ plan owner, start.parent? cut.text ≠ some id) :
    (start.childIds id).filter (· ∉ emptied plan seen) = start.childIds id := by
  rw [List.filter_eq_self]
  refine fun child member => decide_eq_true (notMem_emptied fun owner among cut planned same => ?_)
  exact apart owner among cut planned (same ▸ linked.mem_childIds.mp member)

namespace Cutting

variable (cutting : Cutting side plan start seen doc)
include cutting

private theorem kind?_of_noText (plans : Planned start plan) (held : start.Holds id)
    (noText : ∀ literal, start.kind? id ≠ some (.text literal)) : doc.kind? id = start.kind? id := by
  refine cutting.kept id held fun other member cut planned same => ?_
  obtain ⟨literal, found⟩ := plans.text other cut planned
  exact noText literal (same ▸ found)

theorem kind?_eq_iff (plans : Planned start plan) (held : start.Holds id) (noText : kind.type ≠ .text) :
    doc.kind? id = some kind ↔ start.kind? id = some kind := by
  by_cases others : ∀ owner ∈ seen, ∀ cut ∈ plan owner, cut.text ≠ id
  · rw [cutting.kept id held others]
  · push Not at others
    obtain ⟨owner, member, cut, planned, rfl⟩ := others
    obtain ⟨literal, found⟩ := plans.text owner cut planned
    rw [cutting.cut owner member cut planned, found]
    refine iff_of_false ?_ ?_ <;> rintro ⟨⟩ <;> exact noText rfl

theorem type?_eq (plans : Planned start plan) (held : start.Holds id) : doc.type? id = start.type? id := by
  by_cases others : ∀ owner ∈ seen, ∀ cut ∈ plan owner, cut.text ≠ id
  · rw [type?, cutting.kept id held others, type?]
  · push Not at others
    obtain ⟨owner, member, cut, planned, rfl⟩ := others
    obtain ⟨literal, found⟩ := plans.text owner cut planned
    rw [type?, cutting.cut owner member cut planned, type?, found]
    rfl

/-- A node that is owed nothing, or has not been come to, has lost children at most. -/
theorem childIds_quiet (held : start.Holds id) (quiet : id ∈ seen → plan id = none) :
    doc.childIds id = (start.childIds id).filter (· ∉ emptied plan seen) := by
  obtain ⟨added, row, _, kinds⟩ := cutting.rows id held
  have none_ : added = [] := by
    rw [← List.map_eq_nil_iff (f := doc.kind?), kinds]
    split
    next member =>
      rw [quiet member]
      rfl
    · rfl
  rw [row, none_]
  cases side <;> simp [Side.join]

theorem childIds_owner (held : start.Holds owner) (member : owner ∈ seen) (planned : plan owner = some cut) :
    ∃ leaf, doc.childIds owner = side.join [leaf] ((start.childIds owner).filter (· ∉ emptied plan seen)) ∧
      ¬ start.Holds leaf ∧ doc.kind? leaf = some cut.leaf ∧ doc.childIds leaf = [] := by
  obtain ⟨added, row, leaves, kinds⟩ := cutting.rows owner held
  rw [if_pos member, planned] at kinds
  obtain ⟨leaf, rest, rfl, kind, none_⟩ := List.map_eq_cons_iff.mp kinds
  obtain rfl := List.map_eq_nil_iff.mp none_
  obtain ⟨new, childless⟩ := leaves leaf (List.mem_singleton_self _)
  exact ⟨leaf, row, new, kind, childless⟩

/-- All that is new has been put below an owner. -/
theorem exists_owner (linked : start.Linked) (present : doc.Holds id) (new : ¬ start.Holds id) : ∃ owner ∈ seen, ∃ cut,
    plan owner = some cut ∧ doc.parent? id = some owner ∧ doc.kind? id = some cut.leaf ∧ doc.childIds id = [] := by
  obtain ⟨owner, member, held, under⟩ := cutting.fresh id present new
  have inside := cutting.linked.mem_childIds.mpr under
  have older : ∀ {keep : NodeId → Bool}, id ∉ (start.childIds owner).filter keep := fun kept =>
    new (linked.holds_of_mem_childIds (List.mem_of_mem_filter kept))
  cases planned : plan owner with
  | none =>
    rw [cutting.childIds_quiet held fun _ => planned] at inside
    exact absurd inside older
  | some cut =>
    obtain ⟨leaf, row, _, kind, childless⟩ := cutting.childIds_owner held member planned
    rw [row] at inside
    rcases Side.mem_join.mp inside with same | old
    · cases List.mem_singleton.mp same
      exact ⟨owner, member, cut, planned, under, kind, childless⟩
    · exact absurd old older

theorem leafTexts (plans : Planned start plan) (leaves : start.LeafTexts) : doc.LeafTexts := by
  intro id parent literal under isText
  have inside := cutting.linked.mem_childIds.mpr under
  by_cases old : start.Holds parent
  · have type := cutting.type?_eq plans old
    rw [type?, isText] at type
    obtain ⟨kind, found, same⟩ := Option.map_eq_some_iff.mp type.symm
    obtain ⟨literal, rfl⟩ := NodeKind.type_eq_text_iff.mp same
    have unowed : plan parent = none :=
      Option.eq_none_iff_forall_ne_some.mpr fun cut planned => (plans.owner parent cut planned).2 literal found
    rw [cutting.childIds_quiet old fun _ => unowed, leaves.childIds_eq plans.linked found] at inside
    cases inside
  · obtain ⟨_, _, _, _, _, _, childless⟩ := cutting.exists_owner plans.linked (holds_iff_kind.mpr ⟨_, isText⟩) old
    rw [childless] at inside
    cases inside

theorem tree_kept (held : start.Holds id) (notCut : ∀ owner ∈ seen, ∀ cut ∈ plan owner, cut.text ≠ id) :
    doc.tree id = .node (start.kindOf id) ((doc.childIds id).map doc.tree) := by
  rw [cutting.linked.wellFormed.tree_eq (cutting.holds id held), kindOf, cutting.kept id held notCut, ← kindOf]

theorem tree_cut (plans : Planned start plan) (leaves : start.LeafTexts) (member : owner ∈ seen)
    (planned : plan owner = some cut) : doc.tree cut.text = .node (.text (String.ofList cut.rest)) [] := by
  have isText := cutting.cut owner member cut planned
  have bare := (cutting.leafTexts plans leaves).childIds_eq cutting.linked isText
  rw [cutting.linked.wellFormed.tree_eq (cutting.holds _ (plans.holds_text planned)), kindOf_eq isText, bare]
  rfl

private theorem isParent (linked : start.Linked) {parent : NodeId} (held : start.Holds id)
    (under : doc.parent? id = some parent) : start.parent? id = some parent := by
  have inside := cutting.linked.mem_childIds.mpr under
  by_cases old : start.Holds parent
  · obtain ⟨added, row, leaves, _⟩ := cutting.rows parent old
    rw [row] at inside
    rcases Side.mem_join.mp inside with new | kept
    · exact absurd held (leaves id new).1
    · exact linked.mem_childIds.mp (List.mem_of_mem_filter kept)
  · obtain ⟨_, _, _, _, _, _, childless⟩ := cutting.exists_owner linked (cutting.linked.wellFormed.holds_parent under) old
    rw [childless] at inside
    cases inside

theorem within (linked : start.Linked) {top : NodeId} (within : doc.Within top id) (held : start.Holds id) :
    start.Within top id := by
  induction within with
  | refl => exact .refl
  | tail _ under ih =>
    have under := cutting.isParent linked held under
    exact (ih (linked.wellFormed.holds_parent under)).tail under

theorem skip (unseen : owner ∉ seen) (none_ : plan owner = none) : Cutting side plan start (seen ++ [owner]) doc where
  linked := cutting.linked
  holds := cutting.holds
  kept id held others := cutting.kept id held fun other member => others other (List.mem_append_left _ member)
  cut other member cut planned := by
    rcases List.mem_append.mp member with member | same
    · exact cutting.cut other member cut planned
    · cases List.mem_singleton.mp same
      cases none_.symm.trans planned
  rows id held := by
    obtain ⟨added, row, new, leaves⟩ := cutting.rows id held
    refine ⟨added, by rw [emptied_skipped none_, row], new, leaves.trans ?_⟩
    by_cases same : id = owner
    · subst same
      simp [none_, unseen]
    · simp [same]
  fresh id held new := by
    obtain ⟨other, member, rest⟩ := cutting.fresh id held new
    exact ⟨other, List.mem_append_left _ member, rest⟩
  loose id held := by
    rw [emptied_skipped none_]
    exact cutting.loose id held
  gone := by
    rw [emptied_skipped none_]
    exact cutting.gone

variable (plans : Planned start plan) (planned : plan owner = some cut)
include plans planned

private theorem kind?_text (unseen : owner ∉ seen) : doc.kind? cut.text = start.kind? cut.text := by
  -- No text has been cut that belongs to an owner to come, and no owner is a text.
  refine cutting.kept cut.text (plans.holds_text planned) fun other member cut' planned' same => unseen ?_
  exact plans.distinct other owner cut' cut planned' planned same ▸ member

private theorem kind?_owner : doc.kind? owner = start.kind? owner := by
  obtain ⟨held, noText⟩ := plans.owner owner cut planned
  exact cutting.kind?_of_noText plans held noText

private theorem next?_shortened_loose (unseen : owner ∉ seen) (held : start.Holds id) (orphan : start.parent? id = none)
    (stays : id ∉ emptied plan seen ++ cut.emptied) : (doc.shortened cut.text cut.rest).next? id =
      (start.next? id).bind fun next => if next ∈ emptied plan seen ++ cut.emptied then start.next? next else some next := by
  obtain ⟨before, here⟩ := not_or.mp (mt List.mem_append.mpr stays)
  obtain ⟨literal, isText⟩ := plans.text owner cut planned
  have textStays : cut.text ∉ emptied plan seen := notMem_emptied fun other inside cut' planned' same =>
    unseen (plans.distinct owner other cut cut' planned planned' same.symm ▸ inside)
  rw [cutting.linked.next?_shortened cut here, cutting.loose id held orphan before]
  cases following : start.next? id with
  | none => simp
  | some next =>
    simp only [Option.bind_some, List.mem_append, Cut.mem_emptied]
    by_cases gone : next ∈ emptied plan seen
    · have apart : start.next? next ≠ some cut.text := by
        obtain ⟨other, _, cut', planned', _, rfl⟩ := mem_emptied.mp gone
        obtain ⟨literal, found⟩ := plans.text other cut' planned'
        exact fun following => plans.ahead owner cut cut'.text literal planned following found
      rw [if_pos gone, if_neg fun both => apart both.2, if_pos (.inl gone)]
    · rw [if_neg gone]
      by_cases both : cut.rest = [] ∧ next = cut.text
      · obtain ⟨blank, rfl⟩ := both
        have orphanText := (plans.linked.sameParent id cut.text following).symm.trans orphan
        rw [if_pos ⟨blank, rfl⟩, if_pos (.inr ⟨blank, rfl⟩),
          cutting.loose cut.text (plans.holds_text planned) orphanText textStays]
        cases behind : start.next? cut.text with
        | none => rfl
        | some after => exact if_neg (plans.notMem_emptied isText behind)
      · rw [if_neg fun other => both ⟨other.1, Option.some.inj other.2⟩, if_neg fun other => other.elim gone both]

private theorem leafed : Leafed (doc.shortened cut.text cut.rest) (doc.cutText side owner cut) side owner cut.leaf := by
  obtain ⟨held, noText⟩ := plans.owner owner cut planned
  obtain ⟨literal, isText⟩ := plans.text owner cut planned
  have kind : (doc.shortened cut.text cut.rest).kind? owner = start.kind? owner :=
    (kind?_shortened cut.rest cutting.linked fun same : owner = cut.text => noText literal (same ▸ isText)).trans
      (cutting.kind?_owner plans planned)
  exact (cutting.linked.shortened cut.text cut.rest).leafed ((holds_shortened ..).mpr (cutting.holds owner held))
    (fun other => kind ▸ noText other) side cut.leaf

private theorem kind?_cutText (present : doc.Holds id) (different : id ≠ cut.text) :
    (doc.cutText side owner cut).kind? id = doc.kind? id := by
  have mid := (holds_shortened cut.text cut.rest).mpr present
  rw [(cutting.leafed plans planned).kind, if_neg mid.ne_new, kind?_shortened cut.rest cutting.linked different]

private theorem cut_step (unseen : owner ∉ seen) : ∀ other ∈ seen ++ [owner], ∀ cut' ∈ plan other,
    (doc.cutText side owner cut).kind? cut'.text = some (.text (String.ofList cut'.rest)) := by
  intro other member cut' planned'
  have present := cutting.holds _ (plans.holds_text planned')
  rcases List.mem_append.mp member with before | here
  · rw [cutting.kind?_cutText plans planned present fun same =>
      unseen (plans.distinct other owner cut' cut planned' planned same ▸ before)]
    exact cutting.cut other before cut' planned'
  · cases List.mem_singleton.mp here
    cases planned.symm.trans planned'
    obtain ⟨literal, isText⟩ := plans.text owner cut planned
    have mid := (holds_shortened cut.text cut.rest).mpr present
    rw [(cutting.leafed plans planned).kind, if_neg mid.ne_new]
    exact cutting.linked.kind?_shortened_self ((cutting.kind?_text plans planned unseen).trans isText) cut.rest

private theorem rows_step (unseen : owner ∉ seen) (held : start.Holds id) : ∃ added,
    (doc.cutText side owner cut).childIds id =
      side.join added ((start.childIds id).filter (· ∉ emptied plan (seen ++ [owner]))) ∧
    (∀ leaf ∈ added, ¬ start.Holds leaf ∧ (doc.cutText side owner cut).childIds leaf = []) ∧
    added.map (doc.cutText side owner cut).kind? =
      if id ∈ seen ++ [owner] then (plan id).toList.map fun cut => some cut.leaf else [] := by
  have leafed := cutting.leafed plans planned
  have shortened := cutting.linked.shortened cut.text cut.rest
  have ownerHeld := (plans.owner owner cut planned).1
  have mid : ∀ {id}, start.Holds id → (doc.shortened cut.text cut.rest).Holds id :=
    fun held => (holds_shortened ..).mpr (cutting.holds _ held)
  obtain ⟨added, row, leaves, kinds⟩ := cutting.rows id held
  have stay : added.filter (· ∉ cut.emptied) = added := List.filter_eq_self.mpr fun leaf member =>
    decide_eq_true (plans.notMem_cut planned (leaves leaf member).1)
  have rowMid : (doc.shortened cut.text cut.rest).childIds id =
      side.join added ((start.childIds id).filter (· ∉ emptied plan (seen ++ [owner]))) := by
    rw [cutting.linked.childIds_shortened, row, side.filter_join, stay, List.filter_filter, emptied_concat planned]
    simp only [List.mem_append, not_or, Bool.decide_and, Bool.and_comm]
  rw [leafed.rows]
  split
  next same =>
    subst same
    obtain rfl : added = [] := List.map_eq_nil_iff.mp (kinds.trans (if_neg unseen))
    refine ⟨[⟨(doc.shortened cut.text cut.rest).size⟩], ?_, ?_, ?_⟩
    · rw [rowMid]
      cases side <;> simp [Side.join]
    · refine List.forall_mem_singleton.mpr ⟨fun old => not_holds_new (mid old), ?_⟩
      rw [leafed.rows, if_neg (mid ownerHeld).ne_new.symm, shortened.childIds_new]
    · rw [if_pos (List.mem_concat_self ..), planned, List.map_singleton, leafed.kind, if_pos rfl]
      rfl
  next other =>
    refine ⟨added, rowMid, fun leaf member => ⟨(leaves leaf member).1, ?_⟩, ?_⟩
    · have different : leaf ≠ owner := fun same => (leaves leaf member).1 (same ▸ ownerHeld)
      rw [leafed.rows, if_neg different, cutting.linked.childIds_shortened, (leaves leaf member).2, List.filter_nil]
    · have still : ∀ leaf ∈ added, (doc.cutText side owner cut).kind? leaf = doc.kind? leaf := by
        intro leaf member
        have inside : leaf ∈ doc.childIds id := row ▸ Side.mem_join.mpr (.inl member)
        exact cutting.kind?_cutText plans planned (cutting.linked.holds_of_mem_childIds inside) fun same =>
          (leaves leaf member).1 (same ▸ plans.holds_text planned)
      rw [List.map_congr_left still, kinds]
      simp [other]

private theorem fresh_step (unseen : owner ∉ seen) (held : (doc.cutText side owner cut).Holds id)
    (young : ¬ start.Holds id) :
    ∃ other ∈ seen ++ [owner], start.Holds other ∧ (doc.cutText side owner cut).parent? id = some other := by
  have leafed := cutting.leafed plans planned
  rcases (leafed.holds id).mp held with present | rfl
  · obtain ⟨other, member, otherHeld, under⟩ := cutting.fresh id ((holds_shortened ..).mp present) young
    refine ⟨other, List.mem_append_left _ member, otherHeld, ?_⟩
    have apart : other ≠ owner := fun same => unseen (same ▸ member)
    rw [← leafed.linked.mem_childIds, leafed.rows, if_neg apart, cutting.linked.childIds_shortened, List.mem_filter,
      decide_eq_true_eq]
    exact ⟨cutting.linked.mem_childIds.mpr under, plans.notMem_cut planned young⟩
  · refine ⟨owner, List.mem_concat_self .., (plans.owner owner cut planned).1, ?_⟩
    rw [← leafed.linked.mem_childIds, leafed.rows, if_pos rfl]
    exact Side.mem_join.mpr (.inl (List.mem_singleton_self _))

private theorem loose_step (unseen : owner ∉ seen) (held : start.Holds id) (orphan : start.parent? id = none)
    (stays : id ∉ emptied plan seen ++ cut.emptied) : (doc.cutText side owner cut).next? id =
      (start.next? id).bind fun next => if next ∈ emptied plan seen ++ cut.emptied then start.next? next else some next := by
  have shortened := cutting.linked.shortened cut.text cut.rest
  have apart : (doc.shortened cut.text cut.rest).parent? id ≠ some owner := by
    intro under
    obtain ⟨added, row, leaves, _⟩ := cutting.rows owner (plans.owner owner cut planned).1
    have member := shortened.mem_childIds.mpr under
    rw [cutting.linked.childIds_shortened, row] at member
    rcases Side.mem_join.mp (List.mem_of_mem_filter member) with young | inside
    · exact (leaves id young).1 held
    · cases orphan.symm.trans (plans.linked.mem_childIds.mp (List.mem_of_mem_filter inside))
  rw [(cutting.leafed plans planned).elsewhere id ((holds_shortened ..).mpr (cutting.holds id held)) apart]
  exact cutting.next?_shortened_loose plans planned unseen held orphan stays

/-- One step of the pass. -/
theorem step (unseen : owner ∉ seen) : Cutting side plan start (seen ++ [owner]) (doc.cutText side owner cut) where
  linked := (cutting.leafed plans planned).linked
  holds id held := ((cutting.leafed plans planned).holds id).mpr (.inl ((holds_shortened ..).mpr (cutting.holds id held)))
  kept id held others := by
    have different : id ≠ cut.text := fun same => others owner (List.mem_concat_self ..) cut planned same.symm
    rw [cutting.kind?_cutText plans planned (cutting.holds id held) different]
    exact cutting.kept id held fun other member => others other (List.mem_append_left _ member)
  cut := cutting.cut_step plans planned unseen
  rows _ held := cutting.rows_step plans planned unseen held
  fresh _ held young := cutting.fresh_step plans planned unseen held young
  loose id held orphan stays := by
    rw [emptied_concat planned] at stays ⊢
    exact cutting.loose_step plans planned unseen held orphan stays
  gone id member := by
    obtain ⟨_, _, cut', planned', _, same⟩ := mem_emptied.mp member
    have mid := (holds_shortened cut.text cut.rest).mpr (cutting.holds _ (plans.holds_text planned'))
    refine (cutting.leafed plans planned).alone id (same ▸ mid) ?_
    rcases List.mem_append.mp (emptied_concat planned ▸ member) with before | here
    · exact cutting.linked.alone_shortened (cutting.gone id before) cut.text cut.rest
    · exact cutting.linked.alone_emptied here

end Cutting

section
variable {step : Document → NodeId → Document} {now : Document → NodeId → Option Cut} {ids : List NodeId}

/-- A pass that looks for the text of each owner when it comes to it, and finds what was to be found at the start. -/
theorem Planned.run (plans : Planned start (now start))
    (steps : ∀ doc owner, step doc owner = match now doc owner with
      | some cut => doc.cutText side owner cut
      | none => doc)
    (stable : ∀ seen owner later doc, ids = seen ++ owner :: later → seen ≠ [] → Cutting side (now start) start seen doc →
      now doc owner = now start owner)
    (distinct : ids.Nodup) : Cutting side (now start) start ids (ids.foldl step start) := by
  suffices rest : ∀ later seen doc, seen ++ later = ids → Cutting side (now start) start seen doc →
      (seen = [] → doc = start) → Cutting side (now start) start ids (later.foldl step doc) from
    rest ids [] start rfl (.begin plans.linked side _) fun _ => rfl
  intro later
  induction later with
  | nil =>
    rintro seen doc rfl cutting _
    rwa [List.append_nil]
  | cons owner later ih =>
    intro seen doc whole cutting begun
    have unseen : owner ∉ seen := fun member =>
      (List.nodup_cons.mp (List.nodup_middle.mp (whole ▸ distinct))).1 (List.mem_append_left _ member)
    have found : now doc owner = now start owner := by
      by_cases first : seen = []
      · rw [begun first]
      · exact stable seen owner later doc whole.symm first cutting
    refine ih (seen ++ [owner]) (step doc owner) (by rw [← whole, List.append_assoc]; rfl) ?_ (by simp)
    rw [steps, found]
    split
    next cut planned => exact cutting.step plans planned unseen
    next none_ => exact cutting.skip unseen none_

end

end MarkdownHtml.Document
