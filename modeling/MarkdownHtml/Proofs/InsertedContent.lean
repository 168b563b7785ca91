import MarkdownHtml.Proofs.InsertedItems

/-! Marking inserted text only moves what is there. Where the new nodes are written out with the plus signs that they
were made of, the tree is the one from before, however its texts were cut. -/

namespace MarkdownHtml.Document
open NodeTree

variable {start doc after : Document}

private theorem spelling_cut {offset : Nat} {rest : List Char} {delimiters : List Delimiter}
    (cuts : Cuts offset rest delimiters) : spelling.cut offset rest delimiters = rest.map .char := by
  have piece : ∀ letters, spelling.piece letters = letters.map .char := by
    intro letters
    cases letters with
    | nil => rfl
    | cons first rest => exact congrArg (List.map Letter.char) String.toList_ofList
  induction cuts with
  | done offset rest => exact piece rest
  | cut before here _ ih =>
    rw [Reading.cut_cons here, piece, ih, List.map_append, List.append_assoc]
    rfl

private theorem Site.Rebuilt.accounts_spelling {site : Site} (rebuilt : site.Rebuilt after)
    {content : NodeId → List Letter} (accounts : Accounts spelling site.start after content fun _ => []) :
    Accounts spelling site.start site.doc content fun _ => [] := by
  intro id held
  obtain ⟨_, _, cuts⟩ := site.linked.matched site.container
  rw [rebuilt.accounts _ content accounts id held, List.append_nil]
  split
  next here =>
    subst here
    refine List.flatMap_congr fun child member => ?_
    unfold Reading.child
    cases splits : delimitersOf site.delimiters child with
    | nil => rfl
    | cons first rest =>
      obtain ⟨literal, found, cut⟩ := cuts child member (splits.trans_ne (List.cons_ne_nil first rest))
      simp only [found]
      rw [Reading.adds_text found, ← splits]
      exact spelling_cut cut
  next => rfl

/-- A document on its way from an earlier one. In some containers inserted text has been marked already. -/
structure Marking (start : Document) (seen : List NodeId) (doc : Document) : Prop where
  linked : doc.Linked
  leaves : doc.LeafTexts
  holds : ∀ id, start.Holds id → doc.Holds id
  top : doc.parent? root = start.parent? root
  kind : doc.kind? root = start.kind? root
  untouched : ∀ id, start.Holds id → id ∉ seen →
    doc.childIds id = start.childIds id ∧ ∀ child ∈ start.childIds id, doc.kind? child = start.kind? child
  wrapped : ∀ id ∈ seen, start.matchDelimiters id ≠ [] →
    ∃ child ∈ doc.childIds id, doc.kind? child = some .ins ∧ ¬ start.Holds child
  attached : ∀ id, doc.Holds id → ¬ start.Holds id →
    ∃ parent, doc.parent? id = some parent ∧ (parent ∈ seen ∨ ¬ start.Holds parent)
  rows : ∀ content, Accounts itemizing start doc content (fun _ => []) → ∀ id ∈ seen, content id = start.markedRow id

namespace Marking

variable {seen : List NodeId} {container : NodeId}

theorem refl (wellFormed : doc.WellFormed) (leaves : doc.LeafTexts) : Marking doc [] doc where
  linked := wellFormed.linked
  leaves := leaves
  holds _ old := old
  top := rfl
  kind := rfl
  untouched _ _ _ := ⟨rfl, fun _ _ => rfl⟩
  wrapped := nofun
  attached _ held new := absurd held new
  rows := nofun

private theorem flatMap_child (marking : Marking start seen doc) (wellFormed : start.WellFormed)
    (old : start.Holds container) (fresh : container ∉ seen) (content : NodeId → List Item) :
    (doc.childIds container).flatMap (itemizing.child start doc content (doc.matchDelimiters container)) =
      start.markedRow container := by
  obtain ⟨same, kinds⟩ := marking.untouched container old fresh
  exact wellFormed.linked.flatMap_child marking.linked same kinds

theorem skip (marking : Marking start seen doc) (wellFormed : start.WellFormed) (old : start.Holds container)
    (fresh : container ∉ seen) (none_ : doc.matchDelimiters container = []) : Marking start (container :: seen) doc := by
  obtain ⟨children, kinds⟩ := marking.untouched container old fresh
  have same := wellFormed.linked.matchDelimiters_congr marking.linked children kinds
  refine { marking with
           untouched := fun id old unseen => marking.untouched id old fun member => unseen (List.mem_cons_of_mem _ member)
           wrapped := List.forall_mem_cons.mpr ⟨fun some_ => absurd (same.symm.trans none_) some_, marking.wrapped⟩
           attached := fun id held new => ?attached
           rows := fun content accounts => List.forall_mem_cons.mpr ⟨?rows, marking.rows content accounts⟩ }
  case attached =>
    obtain ⟨parent, under, above⟩ := marking.attached id held new
    exact ⟨parent, under, above.imp_left (List.mem_cons_of_mem _)⟩
  case rows =>
    rw [accounts container (marking.holds container old), List.append_nil,
      ← marking.flatMap_child wellFormed old fresh content, none_, Reading.child_nil]

private theorem root_notMem (marking : Marking start seen doc) (wellFormed : start.WellFormed)
    (within : start.Within root container) : root ∉ doc.childIds container := by
  intro member
  have under : start.IsParent container root := marking.top.symm.trans (marking.linked.parent_of_mem_childIds member)
  refine wellFormed.noOwnAncestor root ?_
  rcases within_iff.mp within with here | above
  · exact .single (here ▸ under)
  · exact above.tail under

private theorem accounts_before {site : Site} (rebuilt : site.Rebuilt after) (old : site.start.Holds site.container)
    {content : NodeId → List Item} (accounts : Accounts itemizing site.start after content fun _ => []) :
    Accounts itemizing site.start site.doc (Function.update content site.container
      (site.row.flatMap (itemizing.adds site.start site.doc content))) fun _ => [] := by
  intro id held
  have same : itemizing.adds site.start site.doc (Function.update content site.container
      (site.row.flatMap (itemizing.adds site.start site.doc content))) = itemizing.adds site.start site.doc content := by
    funext child
    refine itemizing_congr rfl fun new => Function.update_of_ne ?_ _ _
    rintro rfl
    exact new old
  rw [same, List.append_nil]
  by_cases here : id = site.container
  · subst here
    exact Function.update_self ..
  · rw [Function.update_of_ne here, rebuilt.accounts _ content accounts id held, if_neg here]

private theorem rebuilt {site : Site} (marking : Marking site.start seen site.doc) (wellFormed : site.start.WellFormed)
    (old : site.start.Holds site.container) (fresh : site.container ∉ seen) (notRoot : root ∉ site.row)
    (held : site.start.Holds root) (some_ : site.delimiters ≠ []) (rebuilt : site.Rebuilt after) : Marking site.start (site.container :: seen) after := by
  -- The children of other containers are children of none but these.
  have elsewhere : ∀ {parent child}, parent ≠ site.container → child ∈ site.doc.childIds parent →
      after.parent? child = some parent ∧ after.kind? child = site.doc.kind? child := by
    intro parent child other member
    have under := site.linked.parent_of_mem_childIds member
    have outside : child ∉ site.row := fun inside => other (site.linked.eq_of_mem_childIds member inside)
    have kept := rebuilt.elsewhere child (holds_of_parent under) outside
    exact ⟨kept.1.trans under, kept.2⟩
  refine { linked := rebuilt.linked, leaves := rebuilt.leaves, holds := ?holds, top := ?top, kind := ?kind
           untouched := ?untouched, wrapped := ?wrapped, attached := ?attached, rows := ?rows }
  case holds => exact fun id old => rebuilt.holds id (marking.holds id old)
  case top => exact (rebuilt.elsewhere root (marking.holds root held) notRoot).1.trans marking.top
  case kind => exact (rebuilt.elsewhere root (marking.holds root held) notRoot).2.trans marking.kind
  case untouched =>
    intro id old unseen
    obtain ⟨other, unseen⟩ := List.ne_and_not_mem_of_not_mem_cons unseen
    obtain ⟨children, kinds⟩ := marking.untouched id old unseen
    refine ⟨(rebuilt.rows id (marking.holds id old) other).trans children, fun child member => ?_⟩
    exact (elsewhere other (children ▸ member)).2.trans (kinds child member)
  case wrapped =>
    refine List.forall_mem_cons.mpr ⟨fun _ => ?_, fun id member matched => ?_⟩
    · obtain ⟨child, under, kind, new⟩ := rebuilt.inserted some_
      exact ⟨child, rebuilt.linked.mem_childIds.mpr under, kind, fun old => new (marking.holds child old)⟩
    · obtain ⟨child, inside, kind, new⟩ := marking.wrapped id member matched
      obtain ⟨under, same⟩ := elsewhere (fun here : id = site.container => fresh (here ▸ member)) inside
      exact ⟨child, rebuilt.linked.mem_childIds.mpr under, same.trans kind, new⟩
  case attached =>
    intro id present new
    by_cases earlier : site.doc.Holds id
    · obtain ⟨parent, under, above⟩ := marking.attached id earlier new
      have outside : id ∉ site.row := by
        rw [Site.row, (marking.untouched site.container old fresh).1]
        exact fun inside => new (wellFormed.linked.holds_of_mem_childIds inside)
      exact ⟨parent, (rebuilt.elsewhere id earlier outside).1.trans under, above.imp_left (List.mem_cons_of_mem _)⟩
    · obtain ⟨parent, under, above⟩ := rebuilt.attached id present earlier
      refine ⟨parent, under, above.imp (fun here => ?_) fun later held => later (marking.holds parent held)⟩
      rw [here]
      exact List.mem_cons_self ..
  case rows =>
    intro content accounts
    refine List.forall_mem_cons.mpr ⟨?_, fun id member => ?_⟩
    · rw [rebuilt.accounts _ content accounts _ site.held, if_pos rfl]
      exact marking.flatMap_child wellFormed old fresh content
    · rw [← marking.rows _ (accounts_before rebuilt old accounts) id member, Function.update_of_ne]
      rintro rfl
      exact fresh member

/-- One step of the pass over all containers. What it leaves behind accounts for what was there. -/
theorem insertInto (marking : Marking start seen doc) (wellFormed : start.WellFormed) (held : start.Holds root)
    (within : start.Within root container) (fresh : container ∉ seen) (events : List Event) :
    Marking start (container :: seen) (Document.insertInto (doc, events) container).1 ∧ ∀ content,
      Accounts spelling start (Document.insertInto (doc, events) container).1 content (fun _ => []) →
        Accounts spelling start doc content fun _ => [] := by
  have old := within.holds held
  cases found : doc.matchDelimiters container with
  | nil =>
    simp only [Document.insertInto, found]
    exact ⟨marking.skip wellFormed old fresh found, fun _ accounts => accounts⟩
  | cons first rest =>
    have noText : ∀ literal, doc.kind? container ≠ some (.text literal) := by
      intro literal isText
      rw [matchDelimiters, marking.leaves.childIds_eq marking.linked isText] at found
      cases found
    let site : Site := ⟨start, doc, container, marking.linked, marking.leaves, marking.holds _ old, noText, marking.holds⟩
    have step : (Document.insertInto (doc, events) container).1 =
        site.doc.rebuildWithInserted site.container site.delimiters := by
      simp only [Document.insertInto, found, site, Site.delimiters]
    have matched : site.delimiters ≠ [] := fun none_ => List.cons_ne_nil first rest (found.symm.trans none_)
    have notRoot : root ∉ site.row := marking.root_notMem wellFormed within
    rw [step]
    exact ⟨marking.rebuilt wellFormed old fresh notRoot held matched site.rebuilt, fun content => site.rebuilt.accounts_spelling⟩

private theorem foldl_insertInto (wellFormed : start.WellFormed) (held : start.Holds root) {containers : List NodeId}
    (within : ∀ container ∈ containers, start.Within root container) (distinct : containers.Nodup)
    (fresh : ∀ container ∈ containers, container ∉ seen) (marking : Marking start seen doc) (events : List Event) :
    Marking start (containers.reverse ++ seen) (containers.foldl Document.insertInto (doc, events)).1 ∧ ∀ content,
      Accounts spelling start (containers.foldl Document.insertInto (doc, events)).1 content (fun _ => []) →
        Accounts spelling start doc content fun _ => [] := by
  induction containers generalizing doc seen events with
  | nil => exact ⟨marking, fun _ accounts => accounts⟩
  | cons container containers ih =>
    obtain ⟨here, others⟩ := List.forall_mem_cons.mp within
    obtain ⟨apart, distinct⟩ := List.nodup_cons.mp distinct
    obtain ⟨unseen, fresh⟩ := List.forall_mem_cons.mp fresh
    obtain ⟨next, back⟩ := marking.insertInto wellFormed held here unseen events
    have later : ∀ other ∈ containers, other ∉ container :: seen := fun other member inside =>
      (List.mem_cons.mp inside).elim (fun same => apart (same ▸ member)) (fresh other member)
    obtain ⟨last, before⟩ := ih others distinct later next (Document.insertInto (doc, events) container).2
    rw [List.reverse_cons, List.append_assoc]
    exact ⟨last, fun content accounts => back content (before content accounts)⟩

end Marking

theorem markInserted_accounts (wellFormed : start.WellFormed) (held : start.Holds root) (leaves : start.LeafTexts) :
    Marking start (start.descendants root).reverse start.markInserted.1 ∧ ∀ content,
      Accounts spelling start start.markInserted.1 content (fun _ => []) → Accounts spelling start start content fun _ => [] := by
  have pass := Marking.foldl_insertInto wellFormed held (fun _ member => (wellFormed.mem_descendants held).mp member)
    (wellFormed.nodup_descendants held) (fun _ _ => List.not_mem_nil) (Marking.refl wellFormed leaves) []
  rwa [List.append_nil] at pass

/-- The trees that a node stands for. An inserted node that is new stands for its children between plus signs. -/
def spelled (start doc : Document) : NodeId → List NodeTree :=
  doc.value fun below id =>
    let children := (doc.childIds id).flatMap below
    if doc.kind? id = some .ins ∧ ¬ start.Holds id then text "++" :: (children ++ [text "++"])
    else [.node (doc.kindOf id) children]

private theorem WellFormed.spelled_eq (wellFormed : doc.WellFormed) {id : NodeId} (held : doc.Holds id) :
    start.spelled doc id =
      if doc.kind? id = some .ins ∧ ¬ start.Holds id then
        text "++" :: ((doc.childIds id).flatMap (start.spelled doc) ++ [text "++"])
      else [.node (doc.kindOf id) ((doc.childIds id).flatMap (start.spelled doc))] := by
  refine wellFormed.value_eq (fun first second id same => ?_) held
  simp only [List.flatMap_congr same]

def spelledLetters (start doc : Document) (id : NodeId) : List Letter :=
  (((doc.childIds id).flatMap (start.spelled doc)).map tidy).flatMap letters

section
variable (wellFormed : doc.WellFormed) (leaves : doc.LeafTexts)
include wellFormed leaves

private theorem plain_spelled {id : NodeId} (held : doc.Holds id) : Plain (start.spelled doc id) := by
  suffices each : ∀ id, doc.Holds id → Plain (start.spelled doc id) from each id held
  refine wellFormed.child_induction fun id ih held => ?_
  have below : Plain ((doc.childIds id).flatMap (start.spelled doc)) := by
    intro literal children member
    obtain ⟨child, inside, here⟩ := List.mem_flatMap.mp member
    exact ih child inside (wellFormed.linked.holds_of_mem_childIds inside) literal children here
  intro literal children member
  rw [wellFormed.spelled_eq held] at member
  split at member
  · rcases List.mem_cons.mp member with same | member
    · cases same
      rfl
    · rcases List.mem_append.mp member with inside | ends
      · exact below literal children inside
      · cases List.mem_singleton.mp ends
        rfl
  · obtain ⟨isText, rfl⟩ := NodeTree.node.inj (List.mem_singleton.mp member)
    have found : doc.kind? id = some (.text literal) := (kind?_eq_kindOf held).trans (congrArg some isText.symm)
    rw [leaves.childIds_eq wellFormed.linked found]
    rfl

private theorem tidied_spelled (id : NodeId) :
    tidied (tidyAll ((doc.childIds id).flatMap (start.spelled doc))) = grouped (start.spelledLetters doc id) := by
  have plain : Plain ((doc.childIds id).flatMap (start.spelled doc)) := by
    intro literal children member
    obtain ⟨child, inside, here⟩ := List.mem_flatMap.mp member
    exact plain_spelled wellFormed leaves (wellFormed.linked.holds_of_mem_childIds inside) literal children here
  rw [tidyAll_eq_map, tidied_eq_grouped plain.map_tidy, spelledLetters]

private theorem letters_spelled {id : NodeId} (held : doc.Holds id) :
    ((start.spelled doc id).map tidy).flatMap letters = spelling.adds start doc (start.spelledLetters doc) id := by
  rw [wellFormed.spelled_eq held]
  split
  next both =>
    rw [Reading.adds_new both.1 both.2, List.map_cons, List.map_append, List.flatMap_cons, List.flatMap_append,
      List.append_assoc]
    rfl
  next old =>
    rw [List.map_singleton, List.flatMap_singleton, tidy, tidied_spelled wellFormed leaves]
    have found := kind?_eq_kindOf held
    cases kind : doc.kindOf id with
    | text literal =>
      rw [Reading.adds_text (found.trans (congrArg some kind))]
      rfl
    | _ =>
      rw [Reading.adds_whole held (fun literal isText => nomatch kind.symm.trans (kindOf_eq isText)) old, kind]
      rfl

theorem accounts_spelled : Accounts spelling start doc (start.spelledLetters doc) fun _ => [] := by
  intro id _
  rw [List.append_nil, spelledLetters, List.map_flatMap, List.flatMap_assoc]
  exact List.flatMap_congr fun child member =>
    letters_spelled wellFormed leaves (wellFormed.linked.holds_of_mem_childIds member)

private theorem map_tidy_spelled {id : NodeId} (held : doc.Holds id) (old : start.Holds id) :
    (start.spelled doc id).map tidy = [node (doc.kindOf id) (grouped (start.spelledLetters doc id))] := by
  rw [wellFormed.spelled_eq held, if_neg fun both => both.2 old, List.map_singleton, tidy,
    tidied_spelled wellFormed leaves]

end

private theorem WellFormed.spelled_self (wellFormed : doc.WellFormed) {id : NodeId} (held : doc.Holds id) :
    doc.spelled doc id = [doc.tree id] := by
  suffices each : ∀ id, doc.Holds id → doc.spelled doc id = [doc.tree id] from each id held
  refine wellFormed.child_induction fun id ih held => ?_
  have below : (doc.childIds id).flatMap (doc.spelled doc) = (doc.childIds id).map doc.tree := by
    rw [List.map_eq_flatMap]
    exact List.flatMap_congr fun child member => ih child member (wellFormed.linked.holds_of_mem_childIds member)
  rw [wellFormed.spelled_eq held, if_neg fun both => both.2 held, below, wellFormed.tree_eq held]

/-- Nothing is lost, doubled or moved when inserted text is marked, and where runs match, a node is made for it. -/
theorem spelled_markInserted (wellFormed : doc.WellFormed) (held : doc.Holds root) (leaves : doc.LeafTexts) :
    (doc.spelled doc.markInserted.1 root).map tidy = [(doc.tree root).tidy] ∧
      ∀ container ∈ doc.descendants root, doc.matchDelimiters container ≠ [] →
        ∃ id ∈ doc.markInserted.1.childIds container, doc.markInserted.1.kind? id = some .ins ∧ ¬ doc.Holds id := by
  obtain ⟨marking, back⟩ := markInserted_accounts wellFormed held leaves
  refine ⟨?_, fun container member => marking.wrapped container (List.mem_reverse.mpr member)⟩
  have accounts := back _ (accounts_spelled marking.linked.wellFormed marking.leaves)
  have same := accounts.unique wellFormed (accounts_spelled wellFormed leaves) held
  have kind : doc.markInserted.1.kindOf root = doc.kindOf root := by rw [kindOf, marking.kind, kindOf]
  calc (doc.spelled doc.markInserted.1 root).map tidy
      = [node (doc.kindOf root) (grouped (doc.spelledLetters doc.markInserted.1 root))] := by
        rw [map_tidy_spelled marking.linked.wellFormed marking.leaves (marking.holds root held) held, kind]
    _ = (doc.spelled doc root).map tidy := by rw [same, map_tidy_spelled wellFormed leaves held held]
    _ = [(doc.tree root).tidy] := by rw [wellFormed.spelled_self held, List.map_singleton]

/-- A paragraph in which two runs of plus signs match and a third one stays text. -/
theorem spelled_markInserted_paragraph :
    ∃ doc : Document, doc.WellFormed ∧ doc.Holds root ∧ doc.LeafTexts ∧ doc.matchDelimiters ⟨1⟩ ≠ [] ∧
      (doc.spelled doc.markInserted.1 root).map tidy = [(doc.tree root).tidy] ∧
      ∃ id ∈ doc.markInserted.1.childIds ⟨1⟩, doc.markInserted.1.kind? id = some .ins ∧ ¬ doc.Holds id := by
  let paragraph := (Document.empty.appendNew root .paragraph).2
  let doc := (paragraph.appendNew ⟨1⟩ (.text "a ++b++ c++")).2
  have linked : paragraph.Linked := Linked.empty.appendNew (by decide) _
  have wellFormed : doc.WellFormed := (linked.appendNew (by decide) _).wellFormed
  have top : ∀ literal, Document.empty.kind? root ≠ some (.text literal) := fun _ => nofun
  have inner : ∀ literal, paragraph.kind? ⟨1⟩ ≠ some (.text literal) := fun _ => nofun
  have leaves : doc.LeafTexts := (leafTexts_empty.appendNew .empty (by decide) top _).appendNew linked (by decide) inner _
  have matched : doc.matchDelimiters ⟨1⟩ ≠ [] := by decide
  obtain ⟨same, wrapped⟩ := spelled_markInserted wellFormed (by decide) leaves
  exact ⟨doc, wellFormed, by decide, leaves, matched, same, wrapped ⟨1⟩ (by decide) matched⟩

end MarkdownHtml.Document
