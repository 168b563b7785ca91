import MarkdownHtml.Proofs.ForetoldTrees
import MarkdownHtml.Proofs.GrammarTranslation

/-! The rows of a table find their places. Each cell is new, so what waits below it later is all that comes there,
and each row goes to the end of the head or the body, whichever of them it belongs to. -/

namespace MarkdownHtml.Document
open NodeTree

variable {doc : Document} {waiting : NodeId → List NodeTree} {future : NodeId → NodeTree}

/-- The cells of a row, with what waits for a place below them. -/
def cellTrees (header : Bool) (waiting : NodeId → List NodeTree) : List (Option Alignment) → List NodeId → List NodeTree
  | alignment :: columns, cell :: cells =>
    .node (.tableCell header alignment) (joined (waiting cell)) :: cellTrees header waiting columns cells
  | _, _ => []

private theorem hasNoText_cellTrees (header : Bool) (columns : List (Option Alignment)) (cells : List NodeId) :
    HasNoText (cellTrees header waiting columns cells) := by
  intro kind children member
  induction columns generalizing cells with
  | nil => cases member
  | cons alignment columns ih =>
    cases cells with
    | nil => cases member
    | cons cell cells =>
      rcases List.mem_cons.mp member with same | member
      · obtain ⟨rfl, _⟩ := NodeTree.node.inj same
        simp [NodeKind.type]
      · exact ih cells member

private theorem cellTrees_congr {first second : NodeId → List NodeTree} (header : Bool)
    (columns : List (Option Alignment)) {cells : List NodeId} (same : ∀ cell ∈ cells, first cell = second cell) :
    cellTrees header first columns cells = cellTrees header second columns cells := by
  induction columns generalizing cells with
  | nil => rfl
  | cons alignment columns ih =>
    cases cells with
    | nil => rfl
    | cons cell cells =>
      rw [cellTrees, cellTrees, same cell (List.mem_cons_self ..), ih fun cell member => same cell (.tail _ member)]

private theorem cellTrees_eq_translateCells (header : Bool) (alignments : List (Option Alignment))
    {trees : List GrammarTree} {cells : List NodeId} (same : cells.map waiting = trees.map translate) :
    cellTrees header waiting ((List.range trees.length).map fun column => alignments[column]?.join) cells =
      translateCells header alignments trees := by
  induction trees generalizing alignments cells with
  | nil => rfl
  | cons tree trees ih =>
    obtain ⟨cell, cells, rfl, here, same⟩ := List.map_eq_cons_iff.mp same
    have first : alignments[0]?.join = alignments.head?.join := by cases alignments <;> rfl
    have later : ∀ column, alignments[column + 1]?.join = alignments.tail[column]?.join := by
      intro column
      cases alignments <;> rfl
    rw [List.length_cons, List.range_succ_eq_map, List.map_cons, List.map_map, cellTrees, here, first, translateCells,
      ← ih alignments.tail same]
    congr 2
    exact List.map_congr_left fun column _ => later column

namespace TableState

def group (state : TableState) (header : Bool) : Option NodeId := if header then state.head else state.body

/-- What a table has in place: links that agree, and a head and a body that are two nodes below it. -/
structure Ready (table : NodeId) (state : TableState) : Prop where
  linked : state.document.Linked
  held : state.document.Holds table
  groups : ∀ header id, state.group header = some id → state.document.Holds id ∧ id ≠ table
  apart : ∀ id, state.group true = some id → state.group false ≠ some id

structure NewCells (row : NodeId) (header : Bool) (columns : List (Option Alignment)) (state after : TableState)
    (cells : List NodeId) : Prop where
  grown : Grown state.document after.document
  groups : after.group = state.group
  kept : after.cells = state.cells ++ cells
  length : cells.length = columns.length
  distinct : cells.Nodup
  new : ∀ id, id ∈ cells ↔ after.document.Holds id ∧ ¬ state.document.Holds id
  foretells : ∀ waiting future, Foretells after.document waiting future → Foretells state.document
    (fun id => if id = row then cellTrees header waiting columns cells ++ waiting id else waiting id) future

private theorem newCells (row : NodeId) (header : Bool) (columns : List (Option Alignment)) (state : TableState)
    (linked : state.document.Linked) (held : state.document.Holds row) :
    ∃ cells, NewCells row header columns state (columns.foldl (addCell row header) state) cells := by
  induction columns generalizing state with
  | nil =>
    refine ⟨[], .refl, rfl, (List.append_nil _).symm, rfl, .nil, fun id => ?_, fun waiting future foretells => ?_⟩
    · simp
    · intro id present
      rw [foretells id present]
      simp [cellTrees]
  | cons alignment columns ih =>
    have step : Grown state.document (state.addCell row header alignment).document := .append .refl held _
    have unheld : ¬ state.document.Holds ⟨state.document.size⟩ := not_holds_new
    have other : ⟨state.document.size⟩ ≠ row := by
      rintro rfl
      exact unheld held
    have between : ∀ id, (state.addCell row header alignment).document.Holds id ↔
        state.document.Holds id ∨ id = ⟨state.document.size⟩ := fun id => holds_appendNew_iff
    obtain ⟨cells, later⟩ := ih _ (linked.appendNew held (.tableCell header alignment)) (step.holds held)
    refine ⟨⟨state.document.size⟩ :: cells, step.trans later.grown, later.groups, ?_, ?_, ?_, fun id => ?_, ?_⟩
    · rw [List.foldl_cons, later.kept]
      exact List.append_assoc ..
    · rw [List.length_cons, List.length_cons, later.length]
    · refine List.nodup_cons.mpr ⟨fun member => ?_, later.distinct⟩
      exact ((later.new _).mp member).2 ((between _).mpr (.inr rfl))
    · have kept : (state.addCell row header alignment).document.Holds id → _ := later.grown.holds
      rw [List.mem_cons, later.new, List.foldl_cons]
      rw [between] at kept ⊢
      constructor
      · rintro (rfl | ⟨now, before⟩)
        · exact ⟨kept (.inr rfl), unheld⟩
        · exact ⟨now, fun held => before (.inl held)⟩
      · rintro ⟨now, before⟩
        exact (em (id = ⟨state.document.size⟩)).imp_right fun different => ⟨now, fun held => held.elim before different⟩
    · intro waiting future foretells
      refine (later.foretells waiting future foretells).of_appendNew_plain linked held ?_ fun id present => ?_
      · simp [NodeKind.type]
      · simp only [if_neg other]
        split <;> rfl

variable {state : TableState} {table : NodeId}

/-- The groups that a table still gets, where some of them are made. -/
def groupsLeft (made : Bool → Bool) : List (Bool × List NodeTree) → List NodeTree
  | [] => []
  | (header, cells) :: rest => (if made header then [] else groupOf header ((header, cells) :: rest)) ++
      (if made (!header) then [] else groupOf (!header) rest)

private theorem groupsLeft_none (rows : List (Bool × List NodeTree)) :
    groupsLeft (fun _ => false) rows = groupsOf rows := by
  cases rows <;> rfl

private theorem groupsLeft_cons_of_made {made : Bool → Bool} {header : Bool} (found : made header = true)
    (cells : List NodeTree) (rest : List (Bool × List NodeTree)) :
    groupsLeft made ((header, cells) :: rest) = groupsLeft made rest := by
  rw [groupsLeft, if_pos found, List.nil_append]
  match rest with
  | [] => cases made (!header) <;> rfl
  | (other, cells') :: rest =>
    by_cases same : other = header
    · subst same
      rw [groupsLeft, if_pos found, List.nil_append, groupOf_cons_other]
    · obtain rfl : other = !header := by cases other <;> cases header <;> simp_all
      rw [groupsLeft, Bool.not_not, if_pos found, List.append_nil]

private theorem groupsLeft_cons_of_missing {made later : Bool → Bool} {header : Bool} (missing : made header = false)
    (found : later header = true) (same : later (!header) = made (!header)) (cells : List NodeTree)
    (rest : List (Bool × List NodeTree)) : groupsLeft made ((header, cells) :: rest) =
      .node (groupKind header) (rowsOf header ((header, cells) :: rest)) :: groupsLeft later ((header, cells) :: rest) := by
  rw [groupsLeft, groupsLeft, missing, found, same, groupOf_cons]
  rfl

/-- The rows that are still to come, where each of them has its place. -/
def rowsWaiting (table : NodeId) (state : TableState) (rows : List (Bool × List NodeTree)) (id : NodeId) : List NodeTree :=
  if id = table then groupsLeft (fun header => (state.group header).isSome) rows
  else if state.group true = some id then rowsOf true rows
  else if state.group false = some id then rowsOf false rows
  else []

private theorem rowsWaiting_table (rows : List (Bool × List NodeTree)) :
    rowsWaiting table state rows table = groupsLeft (fun header => (state.group header).isSome) rows := if_pos rfl

private theorem Ready.rowsWaiting_group (ready : Ready table state) {header : Bool} {id : NodeId}
    (found : state.group header = some id) (rows : List (Bool × List NodeTree)) :
    rowsWaiting table state rows id = rowsOf header rows := by
  rw [rowsWaiting, if_neg (ready.groups header id found).2]
  cases header with
  | true => rw [if_pos found]
  | false => rw [if_neg fun head => ready.apart id head found, if_pos found]

private theorem rowsWaiting_other {id : NodeId} (notTable : id ≠ table)
    (noGroup : ∀ header, state.group header ≠ some id) (rows : List (Bool × List NodeTree)) :
    rowsWaiting table state rows id = [] := by
  rw [rowsWaiting, if_neg notTable, if_neg (noGroup true), if_neg (noGroup false)]

private theorem rowsWaiting_nil (id : NodeId) : rowsWaiting table state [] id = [] := by
  simp [rowsWaiting, groupsLeft, rowsOf]

private theorem rowGroup_of_some {header : Bool} {id : NodeId} (found : state.group header = some id) :
    state.rowGroup table header = (id, state) := by
  cases header with
  | true =>
    change state.head = some id at found
    simp only [rowGroup, found]
  | false =>
    change state.body = some id at found
    simp only [rowGroup, found]

def withGroup (table : NodeId) (state : TableState) (header : Bool) : TableState where
  document := (state.document.appendNew table (groupKind header)).2
  head := if header then some ⟨state.document.size⟩ else state.head
  body := if header then state.body else some ⟨state.document.size⟩
  cells := state.cells

private theorem rowGroup_of_none {header : Bool} (missing : state.group header = none) :
    state.rowGroup table header = (⟨state.document.size⟩, state.withGroup table header) := by
  cases header with
  | true =>
    change state.head = none at missing
    simp only [rowGroup, missing]
    rfl
  | false =>
    change state.body = none at missing
    simp only [rowGroup, missing]
    rfl

private theorem group_withGroup (header other : Bool) : (state.withGroup table header).group other =
    if other = header then some ⟨state.document.size⟩ else state.group other := by
  cases header <;> cases other <;> rfl

private theorem Ready.withGroup (ready : Ready table state) (header : Bool) :
    Ready table (state.withGroup table header) := by
  have step : Grown state.document (state.withGroup table header).document := .append .refl ready.held _
  have unheld : ¬ state.document.Holds ⟨state.document.size⟩ := not_holds_new
  refine ⟨ready.linked.appendNew ready.held _, step.holds ready.held, fun other id found => ?_, fun id head body => ?_⟩
  · rw [group_withGroup] at found
    split at found
    · cases found
      exact ⟨holds_appendNew .., fun same => unheld (same ▸ ready.held)⟩
    · exact ⟨step.holds (ready.groups other id found).1, (ready.groups other id found).2⟩
  · rw [group_withGroup] at head body
    cases header with
    | true =>
      cases head
      exact unheld (ready.groups false _ body).1
    | false =>
      cases body
      exact unheld (ready.groups true _ head).1

private theorem Ready.foretells_rowGroup (ready : Ready table state) {header : Bool} {cells : List NodeTree}
    {rest : List (Bool × List NodeTree)} (atTable : waiting table = [])
    (atGroup : waiting (state.rowGroup table header).1 = [])
    (foretells : Foretells (state.rowGroup table header).2.document
      (fun id => waiting id ++ rowsWaiting table (state.rowGroup table header).2 ((header, cells) :: rest) id) future) :
    Foretells state.document (fun id => waiting id ++ rowsWaiting table state ((header, cells) :: rest) id) future := by
  cases made : state.group header with
  | some id =>
    rw [rowGroup_of_some made] at foretells
    exact foretells
  | none =>
    rw [rowGroup_of_none made] at foretells atGroup
    have later := ready.withGroup header
    have here : (state.withGroup table header).group header = some ⟨state.document.size⟩ := by
      rw [group_withGroup, if_pos rfl]
    refine foretells.of_appendNew_plain ready.linked ready.held ?_ fun id present => ?_
    · cases header <;> simp [groupKind, NodeKind.type]
    · have older := present.ne_new
      rw [atGroup, later.rowsWaiting_group here, List.nil_append]
      split
      next same =>
        subst same
        have other : header ≠ !header := by cases header <;> decide
        rw [atTable, rowsWaiting_table, rowsWaiting_table, List.nil_append, List.nil_append,
          joined_of_hasNoText (hasNoText_rowsOf header _)]
        refine groupsLeft_cons_of_missing ?_ ?_ ?_ cells rest
        · rw [made]; rfl
        · rw [here]; rfl
        · rw [group_withGroup, if_neg other.symm]
      next different =>
        have same : ∀ other, (state.withGroup table header).group other = some id ↔ state.group other = some id := by
          intro other
          rw [group_withGroup]
          split
          next equal => rw [equal, made]; simp [older.symm]
          · rfl
        simp only [rowsWaiting, if_neg different, same]

private theorem Ready.foretells_row (ready : Ready table state) {group : NodeId} {header : Bool}
    (found : state.group header = some group) {columns : List (Option Alignment)} {cells : List NodeId}
    {after : TableState}
    (filled : NewCells ⟨state.document.size⟩ header columns
      { state with document := (state.document.appendNew group .tableRow).2 } after cells)
    {rest : List (Bool × List NodeTree)} (atGroup : waiting group = [])
    (atRow : waiting ⟨state.document.size⟩ = [])
    (foretells : Foretells after.document (fun id => waiting id ++ rowsWaiting table after rest id) future) :
    Foretells state.document (fun id => waiting id ++ rowsWaiting table state
      ((header, cellTrees header waiting columns cells) :: rest) id) future := by
  obtain ⟨held, notTable⟩ := ready.groups header group found
  have older : ∀ id, state.document.Holds id → id ≠ ⟨state.document.size⟩ := fun _ present => present.ne_new
  have noRows : ∀ id, ¬ state.document.Holds id → rowsWaiting table after rest id = [] := by
    intro id unheld
    refine rowsWaiting_other (fun same : id = table => unheld (same ▸ ready.held)) (fun other here => unheld ?_) rest
    rw [filled.groups] at here
    exact (ready.groups other id here).1
  have unchanged : ∀ id, rowsWaiting table after rest id = rowsWaiting table state rest id := by
    intro id
    rw [rowsWaiting, filled.groups]
    rfl
  have inCells : cellTrees header (fun id => waiting id ++ rowsWaiting table after rest id) columns cells =
      cellTrees header waiting columns cells := by
    refine cellTrees_congr header columns fun cell member => ?_
    have unheld := ((filled.new cell).mp member).2
    rw [noRows cell fun present => unheld (holds_appendNew_iff.mpr (.inl present)), List.append_nil]
  have inRow : joined (cellTrees header waiting columns cells) = cellTrees header waiting columns cells :=
    joined_of_hasNoText (hasNoText_cellTrees header columns cells)
  refine (filled.foretells _ future foretells).of_appendNew_plain ready.linked held ?_ fun id present => ?_
  · simp [NodeKind.type]
  · rw [if_pos rfl, if_neg (older id present), inCells, atRow, noRows ⟨state.document.size⟩ not_holds_new, List.append_nil,
      List.append_nil, inRow, unchanged]
    by_cases here : id = group
    · subst here
      rw [if_pos rfl, atGroup, ready.rowsWaiting_group found, ready.rowsWaiting_group found, rowsOf_cons]
      rfl
    · rw [if_neg here]
      congr 1
      by_cases atTable : id = table
      · subst atTable
        rw [rowsWaiting_table, rowsWaiting_table, groupsLeft_cons_of_made (by rw [found]; rfl)]
      · have otherGroup : ∀ other, state.group other = some id → header ≠ other := by
          rintro other made rfl
          exact here (Option.some.inj (made.symm.trans found))
        rw [rowsWaiting, rowsWaiting, if_neg atTable, if_neg atTable]
        split
        next made => exact rowsOf_cons_other (otherGroup true made) ..
        · split
          next made => exact rowsOf_cons_other (otherGroup false made) ..
          · rfl

structure NewRows (table : NodeId) (alignments : List (Option Alignment)) (rows : List GrammarTree)
    (state after : TableState) (cells : List NodeId) : Prop where
  held : state.document.Holds table
  grown : Grown state.document after.document
  ready : Ready table after
  kept : after.cells = state.cells ++ cells
  length : cells.length = (rows.flatMap GrammarTree.children).length
  distinct : cells.Nodup
  new : ∀ id ∈ cells, after.document.Holds id ∧ ¬ state.document.Holds id
  groups : ∀ header id, after.group header = some id →
    id ∉ cells ∧ (state.document.Holds id → state.group header = some id)
  foretells : ∀ (waiting : NodeId → List NodeTree) future rest,
    (∀ id, after.document.Holds id → id ∉ cells →
      (state.document.Holds id → id = table ∨ ∃ header, state.group header = some id) → waiting id = []) →
    cells.map waiting = (rows.flatMap GrammarTree.children).map translate →
    Foretells after.document (fun id => waiting id ++ rowsWaiting table after rest id) future →
    Foretells state.document
      (fun id => waiting id ++ rowsWaiting table state (translateRows alignments rows ++ rest) id) future

variable {alignments : List (Option Alignment)}

theorem NewRows.refl (ready : Ready table state) : NewRows table alignments [] state state [] where
  held := ready.held
  grown := .refl
  ready := ready
  kept := (List.append_nil _).symm
  length := rfl
  distinct := .nil
  new := nofun
  groups _ _ found := ⟨List.not_mem_nil, fun _ => found⟩
  foretells _ _ _ _ _ foretells := foretells

private theorem translateRows_append (first second : List GrammarTree) :
    translateRows alignments (first ++ second) = translateRows alignments first ++ translateRows alignments second := by
  induction first with
  | nil => rfl
  | cons row rest ih =>
    obtain ⟨kind, cells⟩ := row
    rw [List.cons_append, translateRows, translateRows, ih, List.cons_append]

theorem NewRows.trans {first second : List GrammarTree} {mid after : TableState} {cells more : List NodeId}
    (before : NewRows table alignments first state mid cells) (later : NewRows table alignments second mid after more) :
    NewRows table alignments (first ++ second) state after (cells ++ more) where
  held := before.held
  grown := before.grown.trans later.grown
  ready := later.ready
  kept := by rw [later.kept, before.kept, List.append_assoc]
  length := by rw [List.length_append, List.flatMap_append, List.length_append, before.length, later.length]
  distinct := List.nodup_append.mpr ⟨before.distinct, later.distinct, fun cell inFirst other inSecond same =>
    (later.new other inSecond).2 (same ▸ (before.new cell inFirst).1)⟩
  new id member := by
    rcases List.mem_append.mp member with member | member
    · exact ⟨later.grown.holds (before.new id member).1, (before.new id member).2⟩
    · exact ⟨(later.new id member).1, fun held => (later.new id member).2 (before.grown.holds held)⟩
  groups header id found := by
    obtain ⟨outside, older⟩ := later.groups header id found
    refine ⟨fun member => ?_, fun held => ?_⟩
    · rcases List.mem_append.mp member with member | member
      · exact (before.groups header id (older (before.new id member).1)).1 member
      · exact outside member
    · exact (before.groups header id (older (before.grown.holds held))).2 held
  foretells waiting future rest quiet inCells foretells := by
    rw [List.map_append, List.flatMap_append, List.map_append] at inCells
    obtain ⟨inFirst, inSecond⟩ := List.append_inj inCells (by rw [List.length_map, List.length_map, before.length])
    rw [translateRows_append, List.append_assoc]
    refine before.foretells waiting future _ (fun id held outside old => ?_) inFirst
      (later.foretells waiting future rest (fun id held outside old => ?_) inSecond foretells)
    · refine quiet id (later.grown.holds held) (fun member => ?_) old
      exact (List.mem_append.mp member).elim outside fun member => (later.new id member).2 held
    · refine quiet id held (fun member => ?_) fun present => ?_
      · refine (List.mem_append.mp member).elim (fun member => ?_) outside
        rcases old (before.new id member).1 with rfl | ⟨header, found⟩
        · exact (before.new id member).2 before.held
        · exact (before.groups header id found).1 member
      · exact (old (before.grown.holds present)).imp_right fun ⟨header, found⟩ =>
          ⟨header, (before.groups header id found).2 present⟩

private theorem Ready.rowGroup (ready : Ready table state) (header : Bool) :
    ∃ group mid, state.rowGroup table header = (group, mid) ∧ Grown state.document mid.document ∧ Ready table mid ∧
      mid.group header = some group ∧ mid.cells = state.cells ∧
      ∀ other id, mid.group other = some id → state.document.Holds id → state.group other = some id := by
  cases made : state.group header with
  | some id => exact ⟨id, state, rowGroup_of_some made, .refl, ready, made, rfl, fun _ _ found _ => found⟩
  | none =>
    refine ⟨_, _, rowGroup_of_none made, .append .refl ready.held _, ready.withGroup header, ?_, rfl, ?_⟩
    · rw [group_withGroup, if_pos rfl]
    · intro other id found held
      rw [group_withGroup] at found
      split at found
      · cases found
        exact absurd held not_holds_new
      · exact found

private theorem Ready.newRow (ready : Ready table state) (alignments : List (Option Alignment)) (row : GrammarTree) :
    ∃ cells, NewRows table alignments [row] state (state.addRow table alignments row) cells := by
  obtain ⟨kind, children⟩ := row
  obtain ⟨group, mid, same, step, grouped, found, kept, older⟩ := ready.rowGroup (kind == .tableRow true)
  obtain ⟨held, notTable⟩ := grouped.groups _ group found
  have opened : Grown mid.document (mid.document.appendNew group .tableRow).2 := .append .refl held .tableRow
  obtain ⟨cells, filled⟩ := newCells ⟨mid.document.size⟩ (kind == .tableRow true)
    ((List.range children.length).map fun column => alignments[column]?.join)
    { mid with document := (mid.document.appendNew group .tableRow).2 }
    (grouped.linked.appendNew held .tableRow) (holds_appendNew ..)
  have added : state.addRow table alignments (.node kind children) =
      ((List.range children.length).map fun column => alignments[column]?.join).foldl
        (addCell ⟨mid.document.size⟩ (kind == .tableRow true))
        { mid with document := (mid.document.appendNew group .tableRow).2 } := by
    rw [addRow, GrammarTree.kind, same]
    rfl
  rw [← added] at filled
  generalize state.addRow table alignments (.node kind children) = after at filled
  have grown := (step.trans opened).trans filled.grown
  have outside : ∀ id, mid.document.Holds id → id ∉ cells :=
    fun id present member => ((filled.new id).mp member).2 (opened.holds present)
  have groups : ∀ header, after.group header = mid.group header := fun header => congrFun filled.groups header
  refine ⟨cells, ready.held, grown, ⟨grown.linked ready.linked, grown.holds ready.held, ?_, ?_⟩, ?_, ?_, filled.distinct,
    ?_, ?_, fun waiting future rest quiet inCells foretells => ?_⟩
  · intro header id made
    rw [groups] at made
    obtain ⟨present, different⟩ := grouped.groups header id made
    exact ⟨filled.grown.holds (opened.holds present), different⟩
  · intro id head body
    rw [groups] at head body
    exact grouped.apart id head body
  · rw [filled.kept, kept]
  · rw [filled.length, List.length_map, List.length_range, List.flatMap_singleton, GrammarTree.children]
  · intro id member
    obtain ⟨present, unheld⟩ := (filled.new id).mp member
    exact ⟨present, fun old => unheld (opened.holds (step.holds old))⟩
  · intro header id made
    rw [groups] at made
    exact ⟨outside id (grouped.groups header id made).1, older header id made⟩
  · have atTable : waiting table = [] :=
      quiet table (grown.holds ready.held) (outside table grouped.held) fun _ => .inl rfl
    have atGroup : waiting group = [] := by
      refine quiet group (filled.grown.holds (opened.holds held)) (outside group held) fun old => ?_
      exact .inr ⟨_, older _ group found old⟩
    have atRow : waiting ⟨mid.document.size⟩ = [] := by
      have present : (mid.document.appendNew group .tableRow).2.Holds ⟨mid.document.size⟩ := holds_appendNew ..
      refine quiet _ (filled.grown.holds present) (fun member => ((filled.new _).mp member).2 present) fun old => ?_
      exact absurd (step.holds old) not_holds_new
    rw [List.flatMap_singleton, GrammarTree.children] at inCells
    have placed := grouped.foretells_row found filled atGroup atRow foretells
    rw [cellTrees_eq_translateCells _ _ inCells] at placed
    refine ready.foretells_rowGroup atTable ?_ ?_
    · rw [same]; exact atGroup
    · rw [same]; exact placed

private theorem Ready.newRows (ready : Ready table state) (alignments : List (Option Alignment))
    (rows : List GrammarTree) :
    ∃ cells, NewRows table alignments rows state (rows.foldl (addRow table alignments) state) cells := by
  induction rows generalizing state with
  | nil => exact ⟨[], .refl ready⟩
  | cons row rest ih =>
    obtain ⟨cells, first⟩ := ready.newRow alignments row
    obtain ⟨more, later⟩ := ih first.ready
    exact ⟨cells ++ more, first.trans later⟩

end TableState

/-- What is known of the cells of a new table. -/
structure NewTable (parent : NodeId) (alignments : List (Option Alignment)) (rows : List GrammarTree)
    (doc after : Document) (cells : List NodeId) : Prop where
  length : cells.length = (rows.flatMap GrammarTree.children).length
  distinct : cells.Nodup
  new : ∀ cell ∈ cells, ¬ doc.Holds cell
  foretells : ∀ (waiting : NodeId → List NodeTree) future,
    (∀ id, id ∉ cells → ¬ doc.Holds id → waiting id = []) →
    cells.map waiting = (rows.flatMap GrammarTree.children).map translate →
    Foretells after waiting future →
    Foretells doc (fun id => if id = parent
      then .node .tableBlock (groupsOf (translateRows alignments rows)) :: waiting id else waiting id) future

theorem newTable (linked : doc.Linked) {parent : NodeId} (held : doc.Holds parent)
    (alignments : List (Option Alignment)) (rows : List GrammarTree) :
    NewTable parent alignments rows doc (doc.appendTable parent alignments rows).1
      (doc.appendTable parent alignments rows).2 := by
  have step : Grown doc (doc.appendNew parent .tableBlock).2 := .append .refl held .tableBlock
  have start : TableState.Ready ⟨doc.size⟩ { document := (doc.appendNew parent .tableBlock).2 } :=
    ⟨linked.appendNew held .tableBlock, holds_appendNew .., nofun, nofun⟩
  have unheld : ¬ doc.Holds ⟨doc.size⟩ := not_holds_new
  obtain ⟨cells, made⟩ := start.newRows alignments rows
  have same : (doc.appendTable parent alignments rows).2 = cells := made.kept
  rw [same]
  refine ⟨made.length, made.distinct, fun cell member present => (made.new cell member).2 (step.holds present), ?_⟩
  intro waiting future quiet inCells foretells
  have outside : ⟨doc.size⟩ ∉ cells := fun member => (made.new _ member).2 (holds_appendNew ..)
  have noGroup : ∀ header id, TableState.group { document := (doc.appendNew parent .tableBlock).2 } header ≠ some id := by
    intro header id
    cases header <;> exact nofun
  have filled := made.foretells waiting future [] ?_ inCells ?_
  · refine filled.of_appendNew_plain linked held (by simp [NodeKind.type]) fun id present => ?_
    have older := present.ne_new
    have missing : ∀ header, (TableState.group { document := (doc.appendNew parent .tableBlock).2 } header).isSome = false := by
      intro header
      cases header <;> rfl
    rw [TableState.rowsWaiting_other older (noGroup · id), List.append_nil, List.append_nil, quiet _ outside unheld,
      TableState.rowsWaiting_table]
    simp only [missing]
    rw [TableState.groupsLeft_none, List.nil_append, joined_of_hasNoText (hasNoText_groupsOf _)]
  · intro id _ outside old
    refine quiet id outside fun present => ?_
    rcases old (step.holds present) with rfl | ⟨header, found⟩
    · exact unheld present
    · exact noGroup header id found
  · have same : (fun id => waiting id ++ TableState.rowsWaiting ⟨doc.size⟩
        (rows.foldl (TableState.addRow ⟨doc.size⟩ alignments) { document := (doc.appendNew parent .tableBlock).2 })
        [] id) = waiting := by
      funext id
      rw [TableState.rowsWaiting_nil, List.append_nil]
    rw [same]
    exact foretells

end MarkdownHtml.Document
