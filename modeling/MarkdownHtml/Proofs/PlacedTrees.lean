import MarkdownHtml.Proofs.PlacedTables

/-! The stack of trees that wait for their places builds what the grammar tree stands for. Before each step, the
document and the stack together foretell the tree that is there in the end. -/

namespace MarkdownHtml.Document
open NodeTree

variable {doc after : Document} {waiting : NodeId → List NodeTree} {future : NodeId → NodeTree}

private theorem Grown.type_kindOf (grown : Grown doc after) (linked : doc.Linked) {id : NodeId} (held : doc.Holds id) :
    (after.kindOf id).type = (doc.kindOf id).type := by
  induction grown with
  | refl => rfl
  | @append mid parent grown present kind ih =>
    rw [kindOf, (grown.linked linked).kind?_appendNew present, if_neg (grown.holds held).ne_new]
    exact ih
  | @extend mid text short grown found long ih =>
    by_cases here : id = text
    · subst here
      rw [← ih, kindOf, kind?_setKind, if_pos rfl, found, kindOf_eq found]
      rfl
    · rw [kindOf, kind?_setKind, if_neg here]
      exact ih

private theorem Foretells.of_entries (linked : doc.Linked) {block : NodeId} (held : doc.Holds block)
    {entries : List FrontMatter.Entry} (quiet : ∀ id, ¬ doc.Holds id → waiting id = [])
    (foretells : Foretells (entries.foldl (fun doc entry =>
      (doc.appendNew block (.frontMatterEntry entry.key entry.values)).2) doc) waiting future) :
    Foretells doc (fun id => if id = block then entries.map entryTree ++ waiting id else waiting id) future := by
  induction entries generalizing doc with
  | nil =>
    intro id present
    rw [foretells id present]
    simp
  | cons entry rest ih =>
    have step : Grown doc _ := .append .refl held (.frontMatterEntry entry.key entry.values)
    have later := ih (linked.appendNew held _) (step.holds held) (fun id unheld => quiet id (unheld ∘ step.holds)) foretells
    refine later.of_appendNew_plain linked held (by simp [NodeKind.type]) fun id present => ?_
    rw [if_neg held.ne_new.symm, quiet ⟨doc.size⟩ not_holds_new]
    split <;> rfl

private theorem Foretells.of_appendFrontMatter (linked : doc.Linked) {parent : NodeId} (held : doc.Holds parent)
    {entries : List FrontMatter.Entry} (quiet : ∀ id, ¬ doc.Holds id → waiting id = [])
    (foretells : Foretells (doc.appendFrontMatter parent entries) waiting future) :
    Foretells doc (fun id => if id = parent then .node .frontMatterBlock (entries.map entryTree) :: waiting id
      else waiting id) future := by
  have step : Grown doc (doc.appendNew parent .frontMatterBlock).2 := .append .refl held .frontMatterBlock
  have block := Foretells.of_entries (linked.appendNew held .frontMatterBlock) (holds_appendNew ..)
    (fun id unheld => quiet id (unheld ∘ step.holds)) foretells
  refine block.of_appendNew_plain linked held (by simp [NodeKind.type]) fun id present => ?_
  have new : (doc.appendNew parent .frontMatterBlock).1 = ⟨doc.size⟩ := rfl
  rw [new, if_pos rfl, if_neg present.ne_new, quiet ⟨doc.size⟩ not_holds_new, List.append_nil, 
    joined_of_hasNoText (hasNoText_entries entries)]

/-- The trees that wait for a place below a node, first one first. -/
def waitingOn (stack : List (GrammarTree × NodeId)) (id : NodeId) : List NodeTree :=
  stack.flatMap fun entry => if entry.2 = id then translate entry.1 else []

private theorem waitingOn_cons (tree : GrammarTree) (parent : NodeId) (rest : List (GrammarTree × NodeId))
    (id : NodeId) :
    waitingOn ((tree, parent) :: rest) id = (if id = parent then translate tree else []) ++ waitingOn rest id := by
  have turned : (if parent = id then translate tree else []) = if id = parent then translate tree else [] := by
    simp only [eq_comm]
  rw [← turned]
  rfl

private theorem waitingOn_append (first second : List (GrammarTree × NodeId)) (id : NodeId) :
    waitingOn (first ++ second) id = waitingOn first id ++ waitingOn second id := List.flatMap_append

theorem waitingOn_under (parent : NodeId) (trees : List GrammarTree) (id : NodeId) :
    waitingOn (under parent trees) id = if id = parent then translateAll trees else [] := by
  induction trees with
  | nil => simp [under, waitingOn, translateAll]
  | cons tree rest ih =>
    rw [under, List.map_cons, waitingOn_cons]
    rw [under] at ih
    rw [ih, translateAll]
    split <;> rfl

private theorem waitingOn_eq_nil {stack : List (GrammarTree × NodeId)} {id : NodeId}
    (outside : ∀ entry ∈ stack, entry.2 ≠ id) : waitingOn stack id = [] :=
  List.flatMap_eq_nil_iff.mpr fun entry member => if_neg (outside entry member)

private theorem map_waitingOn_zip {cells : List NodeId} (distinct : cells.Nodup) {trees : List GrammarTree}
    (length : cells.length = trees.length) : cells.map (waitingOn (trees.zip cells)) = trees.map translate := by
  induction cells generalizing trees with
  | nil =>
    rw [List.eq_nil_of_length_eq_zero length.symm]
    rfl
  | cons cell cells ih =>
    obtain ⟨tree, trees, rfl⟩ := List.exists_cons_of_length_eq_add_one length.symm
    obtain ⟨outside, distinct⟩ := List.nodup_cons.mp distinct
    have here : waitingOn (trees.zip cells) cell = [] := waitingOn_eq_nil fun entry member same =>
      outside (same ▸ (List.of_mem_zip member).2)
    rw [List.zip_cons_cons, List.map_cons, waitingOn_cons, if_pos rfl, here, List.append_nil, List.map_cons,
      ← ih distinct (Nat.succ.inj length)]
    congr 1
    refine List.map_congr_left fun other member => ?_
    rw [waitingOn_cons, if_neg fun same : other = cell => outside (same ▸ member), List.nil_append]

theorem placement_noText {kind : GrammarKind} {kind' : NodeKind} (found : placement kind = .node kind') :
    kind'.type ≠ .text := by
  cases kind <;> simp only [placement, Placement.node.injEq, reduceCtorEq] at found <;> subst found <;>
    simp [NodeKind.type]

/-- The targets of a stack are in the arena. -/
def Targeted (doc : Document) (stack : List (GrammarTree × NodeId)) : Prop := ∀ entry ∈ stack, doc.Holds entry.2

private theorem Targeted.tail {entry : GrammarTree × NodeId} {rest : List (GrammarTree × NodeId)}
    (targeted : Targeted doc (entry :: rest)) (grown : Grown doc after) : Targeted after rest :=
  fun other member => grown.holds (targeted other (.tail _ member))

private theorem Targeted.under {rest : List (GrammarTree × NodeId)} (targeted : Targeted doc rest) {parent : NodeId}
    (held : doc.Holds parent) (trees : List GrammarTree) : Targeted doc (under parent trees ++ rest) := by
  intro entry member
  rcases List.mem_append.mp member with member | member
  · obtain ⟨tree, _, rfl⟩ := List.mem_map.mp member
    exact held
  · exact targeted entry member

private theorem Targeted.quiet {stack : List (GrammarTree × NodeId)} (targeted : Targeted doc stack) {id : NodeId}
    (unheld : ¬ doc.Holds id) : waitingOn stack id = [] :=
  waitingOn_eq_nil fun entry member same => unheld (same ▸ targeted entry member)

private theorem NewTable.foretells_stack {parent : NodeId} {alignments : List (Option Alignment)}
    {rows : List GrammarTree} {cells : List NodeId} {rest : List (GrammarTree × NodeId)}
    (made : NewTable parent alignments rows doc after cells) (targeted : Targeted doc rest)
    (foretells : Foretells after (waitingOn (underCells cells rows ++ rest)) future) :
    Foretells doc (fun id => if id = parent
      then .node .tableBlock (groupsOf (translateRows alignments rows)) :: waitingOn rest id else waitingOn rest id)
      future := by
  have cellsOnly : ∀ id, ¬ doc.Holds id → waitingOn (underCells cells rows ++ rest) id =
      waitingOn (underCells cells rows) id := by
    intro id unheld
    rw [waitingOn_append, targeted.quiet unheld, List.append_nil]
  have notCells : ∀ id, id ∉ cells → waitingOn (underCells cells rows) id = [] := fun id outside =>
    waitingOn_eq_nil fun entry member same => outside (same ▸ (List.of_mem_zip member).2)
  have placed := made.foretells _ future ?_ ?_ foretells
  · intro id present
    have outside : id ∉ cells := fun member => made.new id member present
    simp only [placed id present, waitingOn_append, notCells id outside, List.nil_append]
  · intro id outside unheld
    rw [cellsOnly id unheld, notCells id outside]
  · rw [← map_waitingOn_zip made.distinct made.length]
    exact List.map_congr_left fun cell member => cellsOnly cell (made.new cell member)

/-- What is foretold of a node that is no text is what comes out. -/
def Fulfilled (doc : Document) (future final : NodeId → NodeTree) : Prop :=
  ∀ id, doc.Holds id → (doc.kindOf id).type ≠ .text → future id = final id

private theorem Fulfilled.of_grown {final : NodeId → NodeTree} (fulfilled : Fulfilled after future final)
    (linked : doc.Linked) (grown : Grown doc after) : Fulfilled doc future final := by
  intro id present noText
  rw [← grown.type_kindOf linked present] at noText
  exact fulfilled id (grown.holds present) noText

/-- What is foretold by a document and the trees that wait is what comes out. The tree of a text that is still
growing is another one before, and that of every other node stays. -/
theorem foretells_place (doc : Document) (events : List Event) (stack : List (GrammarTree × NodeId)) :
    doc.Linked → Targeted doc stack → ∃ future, Foretells doc (waitingOn stack) future ∧
      Fulfilled doc future (place doc events stack).1.tree := by
  induction doc, events, stack using place.induct with
  | case1 doc events =>
    intro linked _
    rw [place]
    exact ⟨doc.tree, linked.wellFormed.foretells, fun _ _ _ => rfl⟩
  | case2 doc events kind children parent rest kind' found id after same ih =>
    intro linked targeted
    have held : doc.Holds parent := targeted _ (List.mem_cons_self ..)
    have step : Grown doc (doc.appendNew parent kind').2 := .append .refl held kind'
    obtain ⟨rfl, rfl⟩ := Prod.mk.inj same
    obtain ⟨future, foretells, fulfilled⟩ := ih (step.linked linked)
      ((targeted.tail step).under (holds_appendNew ..) children)
    rw [place]
    simp only [found]
    refine ⟨future, foretells.of_appendNew_plain linked held (placement_noText found) fun id present => ?_,
      fulfilled.of_grown linked step⟩
    have quiet : waitingOn rest ⟨doc.size⟩ = [] := (targeted.tail .refl).quiet not_holds_new
    rw [waitingOn_cons, waitingOn_append, waitingOn_append, waitingOn_under, waitingOn_under, if_pos rfl,
      if_neg present.ne_new, quiet, List.append_nil, translate, found]
    split <;> rfl
  | case3 doc events kind children parent rest literal found ih =>
    intro linked targeted
    have held : doc.Holds parent := targeted _ (List.mem_cons_self ..)
    have step := grown_pushText held literal
    obtain ⟨future, foretells, fulfilled⟩ := ih (step.linked linked) (targeted.tail step)
    have quiet : waitingOn rest ⟨doc.size⟩ = [] := (targeted.tail .refl).quiet not_holds_new
    have same : ∀ id, doc.Holds id → waitingOn ((.node kind children, parent) :: rest) id =
        if id = parent then text literal :: waitingOn rest id else waitingOn rest id := by
      intro id _
      rw [waitingOn_cons, translate, found]
      split <;> rfl
    obtain ⟨before, foretold, unchanged⟩ := foretells.of_pushText linked held quiet same
    rw [place]
    simp only [found]
    refine ⟨before, foretold, fun id present noText => ?_⟩
    rw [unchanged id noText]
    exact fulfilled.of_grown linked step id present noText
  | case4 doc events kind children parent rest alignments found after cells same ih =>
    intro linked targeted
    have held : doc.Holds parent := targeted _ (List.mem_cons_self ..)
    obtain ⟨step, present⟩ := grown_appendTable held alignments children
    have made := newTable linked held alignments children
    rw [same] at step present made
    obtain ⟨future, foretells, fulfilled⟩ := ih (step.linked linked) fun entry member =>
      (List.mem_append.mp member).elim (fun member => present _ (List.of_mem_zip member).2) (targeted.tail step entry)
    have placed := made.foretells_stack (targeted.tail .refl) foretells
    rw [place]
    simp only [found, same]
    refine ⟨future, fun id present => ?_, fulfilled.of_grown linked step⟩
    simp only [placed id present, waitingOn_cons, translate, found]
    split <;> rfl
  | case5 doc events kind children parent rest raw found entries warnings same ih =>
    intro linked targeted
    have held : doc.Holds parent := targeted _ (List.mem_cons_self ..)
    have step := grown_appendFrontMatter held entries
    obtain ⟨future, foretells, fulfilled⟩ := ih (step.linked linked) (targeted.tail step)
    have placed := foretells.of_appendFrontMatter linked held fun id unheld => (targeted.tail .refl).quiet unheld
    rw [place]
    simp only [found, same]
    refine ⟨future, fun id present => ?_, fulfilled.of_grown linked step⟩
    simp only [placed id present, waitingOn_cons, translate, found, same]
    split <;> rfl
  | case6 doc events kind children parent rest found ih =>
    intro linked targeted
    have held : doc.Holds parent := targeted _ (List.mem_cons_self ..)
    obtain ⟨future, foretells, fulfilled⟩ := ih linked ((targeted.tail .refl).under held children)
    rw [place]
    simp only [found]
    refine ⟨future, fun id present => ?_, fulfilled⟩
    rw [foretells id present, waitingOn_append, waitingOn_under, waitingOn_cons, translate, found]

end MarkdownHtml.Document
