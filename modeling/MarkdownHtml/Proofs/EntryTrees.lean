import MarkdownHtml.Proofs.AttachedTrees
import MarkdownHtml.Proofs.GatheredMetadata
import MarkdownHtml.Proofs.TidyTrees
import MarkdownHtml.Proofs.TranslatedRows

/-! The entries of front matter in a tree. Where rows are joined, cut or marked, only texts are put together, shortened
and left out, so the entries stay in their order. And a tree of the grammar stands for no entries but those that its
front matter has. -/

namespace MarkdownHtml

namespace NodeTree
open Document FrontMatter

mutual

/-- The entries in a tree, in pre-order. A text has none below it. -/
def entries : NodeTree → List Entry
  | .node (.text _) _ => []
  | .node kind children => (entryOf kind).toList ++ entriesOfRow children

def entriesOfRow : List NodeTree → List Entry
  | [] => []
  | tree :: rest => tree.entries ++ entriesOfRow rest

end

variable {kind : NodeKind} {row children : List NodeTree}

private theorem entriesOfRow_eq (row : List NodeTree) : entriesOfRow row = row.flatMap entries := by
  induction row with
  | nil => rfl
  | cons tree rest ih => rw [entriesOfRow, ih, List.flatMap_cons]

@[simp] theorem entries_text (literal : String) (below : List NodeTree) : (node (.text literal) below).entries = [] := rfl

theorem entries_node (noText : kind.type ≠ .text) (children : List NodeTree) :
    (node kind children).entries = (entryOf kind).toList ++ children.flatMap entries := by
  rw [← entriesOfRow_eq]
  cases kind with
  | text literal => exact absurd rfl noText
  | _ => rfl

theorem entries_congr (kind : NodeKind) (same : row.flatMap entries = children.flatMap entries) :
    (node kind row).entries = (node kind children).entries := by
  by_cases isText : kind.type = .text
  · obtain ⟨literal, rfl⟩ := NodeKind.type_eq_text_iff.mp isText
    rfl
  · rw [entries_node isText, entries_node isText, same]

theorem entries_node_eq_nil (noEntry : entryOf kind = none) (empty_ : row.flatMap entries = []) :
    (node kind row).entries = [] := by
  by_cases isText : kind.type = .text
  · obtain ⟨literal, rfl⟩ := NodeKind.type_eq_text_iff.mp isText
    rfl
  · rw [entries_node isText, noEntry, empty_]
    rfl

/-! Joined rows. -/

private theorem entries_push (before : List NodeTree) (tree : NodeTree) :
    (push before tree).flatMap entries = before.flatMap entries ++ tree.entries := by
  unfold push
  split
  next first above second below last =>
    obtain ⟨front, rfl⟩ := List.getLast?_eq_some_iff.mp last
    simp
  · rw [List.flatMap_append, List.flatMap_singleton]

private theorem entries_foldl {α : Type} {step : List NodeTree → α → List NodeTree} {added : α → List Entry}
    (adds : ∀ before item, (step before item).flatMap entries = before.flatMap entries ++ added item) (items : List α) :
    (items.foldl step []).flatMap entries = items.flatMap added := by
  suffices each : ∀ before, (items.foldl step before).flatMap entries = before.flatMap entries ++ items.flatMap added from
    each []
  induction items with
  | nil => exact fun before => (List.append_nil _).symm
  | cons item rest ih =>
    intro before
    rw [List.foldl_cons, ih, adds, List.flatMap_cons, List.append_assoc]

theorem entries_joined (trees : List NodeTree) : (joined trees).flatMap entries = trees.flatMap entries :=
  entries_foldl entries_push trees

def letterEntries : Letter → List Entry
  | .char _ => []
  | .tree tree => tree.entries

theorem letterEntries_chars (literal : String) : (chars literal).flatMap letterEntries = [] := by
  rw [chars, List.flatMap_map]
  exact List.flatMap_eq_nil_iff.mpr fun _ _ => rfl

theorem entries_grouped (letters : List Letter) : (grouped letters).flatMap entries = letters.flatMap letterEntries :=
  entries_foldl (fun before letter => by cases letter <;> exact entries_push ..) letters

/-! Rebuilt rows. -/

def KeepsEntries (rebuild : NodeKind → List NodeTree → List NodeTree) : Prop :=
  ∀ kind row, (rebuild kind row).flatMap entries = row.flatMap entries

theorem KeepsEntries.entries_rebuilt {rebuild : NodeKind → List NodeTree → List NodeTree}
    (keeps : KeepsEntries rebuild) (tree : NodeTree) : (tree.rebuilt rebuild).entries = tree.entries := by
  induction tree using child_induction with
  | step kind children ih =>
    rw [rebuilt_node]
    refine entries_congr kind ?_
    rw [keeps, List.flatMap_map]
    exact List.flatMap_congr ih

private theorem entries_shortenedTo (rest : List Char) (below : List NodeTree) :
    (shortenedTo rest below).flatMap entries = [] := by
  unfold shortenedTo
  split <;> rfl

theorem keepsEntries_markRow : KeepsEntries markRow := by
  intro kind row
  by_cases isBoxed : ∃ after, Boxed kind row after
  · obtain ⟨after, boxed⟩ := isBoxed
    rw [boxed.markRow_eq]
    cases boxed with
    | @box literal checked rest below texts blocks read =>
      have paragraph : (node .paragraph (shortenedTo rest below ++ texts)).entries =
          (node .paragraph (node (.text literal) below :: texts)).entries := by
        refine entries_congr _ ?_
        rw [List.flatMap_append, entries_shortenedTo, List.flatMap_cons, entries_text]
      rw [List.flatMap_cons, List.flatMap_cons, List.flatMap_cons, paragraph]
      rfl
  · rw [markRow_of_noBox (not_exists.mp isBoxed)]

private theorem entries_attachStep (previous next : Option NodeKind) (tree : NodeTree) :
    (attachStep previous next tree).flatMap entries = tree.entries := by
  obtain ⟨kind, children⟩ := tree
  rw [attachStep]
  split
  next cut =>
    obtain ⟨image, _, found⟩ := Option.bind_eq_some_iff.mp cut
    obtain ⟨_, _, literal, _, rfl, _⟩ := blockOf_cases found
    rw [entries_shortenedTo, entries_text]
  next =>
    rw [List.flatMap_singleton]
    refine entries_congr kind ?_
    rw [List.flatMap_append, List.flatMap_singleton]
    exact List.append_nil _
  · exact List.flatMap_singleton ..

theorem keepsEntries_attachFrom : KeepsEntries fun _ => attachFrom none := by
  suffices each : ∀ row previous, (attachFrom previous row).flatMap entries = row.flatMap entries from
    fun _ row => each row none
  intro row
  induction row with
  | nil => exact fun _ => rfl
  | cons tree row ih =>
    intro previous
    rw [attachFrom, List.flatMap_append, entries_attachStep, ih, List.flatMap_cons]

end NodeTree

namespace GrammarTree

/-- The text of a block of front matter. -/
def frontMatterOf : GrammarKind → Option String
  | .frontMatter raw => some raw
  | _ => none

/-- The front matter in some trees, in pre-order. -/
def frontMatterAll (trees : List GrammarTree) : List String := (kindsAll trees).filterMap frontMatterOf

private theorem kindsAll_append (first second : List GrammarTree) :
    kindsAll (first ++ second) = kindsAll first ++ kindsAll second := by
  induction first with
  | nil => rfl
  | cons tree rest ih => rw [List.cons_append, kindsAll, kindsAll, ih, List.append_assoc]

private theorem mem_frontMatterAll {trees : List GrammarTree} {raw : String} :
    raw ∈ frontMatterAll trees ↔ .frontMatter raw ∈ kindsAll trees := by
  rw [frontMatterAll, List.mem_filterMap]
  constructor
  · rintro ⟨kind, member, found⟩
    cases kind <;> cases found
    exact member
  · exact fun member => ⟨_, member, rfl⟩

/-- There is one block of front matter, with a given text, and it is a child of the root. -/
structure SoleFrontMatter (blocks : List GrammarTree) (raw : String) : Prop where
  all : frontMatterAll blocks = [raw]
  top : .frontMatter raw ∈ blocks.map kind

instance (blocks : List GrammarTree) (raw : String) : Decidable (SoleFrontMatter blocks raw) :=
  decidable_of_iff (frontMatterAll blocks = [raw] ∧ .frontMatter raw ∈ blocks.map kind)
    ⟨fun both => ⟨both.1, both.2⟩, fun sole => ⟨sole.all, sole.top⟩⟩

private theorem SoleFrontMatter.exists_split {blocks : List GrammarTree} {raw : String}
    (sole : SoleFrontMatter blocks raw) :
    ∃ front children back, blocks = front ++ node (.frontMatter raw) children :: back ∧
      ∀ other, .frontMatter other ∉ kindsAll (front ++ back) := by
  obtain ⟨⟨_, children⟩, member, rfl⟩ := List.mem_map.mp sole.top
  obtain ⟨front, back, rfl⟩ := List.append_of_mem member
  refine ⟨front, children, back, rfl, fun other found => ?_⟩
  -- One more block of front matter would make the list of all front matter too long.
  have all := congrArg List.length sole.all
  have some_ := List.length_pos_of_mem (mem_frontMatterAll.mpr found)
  simp only [frontMatterAll, kindsAll_append, kindsAll, kinds, List.filterMap_append, List.filterMap_cons, frontMatterOf,
    List.cons_append, List.length_append, List.length_cons, List.length_nil] at all some_
  omega

end GrammarTree

namespace Document
open NodeTree FrontMatter

private theorem placement_noEntry {kind : GrammarKind} {kind' : NodeKind} (found : placement kind = .node kind') :
    entryOf kind' = none := by
  cases kind <;> simp only [placement, Placement.node.injEq, reduceCtorEq] at found <;> subst found <;> rfl

private theorem placement_frontMatter {kind : GrammarKind} {raw : String} (found : placement kind = .frontMatter raw) :
    kind = .frontMatter raw := by
  cases kind <;> simp only [placement, Placement.frontMatter.injEq, reduceCtorEq] at found
  rw [found]

private theorem noEntries_groupOf (header : Bool) {rows : List (Bool × List NodeTree)}
    (cells : ∀ row ∈ rows, row.2.flatMap entries = []) : (groupOf header rows).flatMap entries = [] := by
  have none_ : (rowsOf header rows).flatMap entries = [] := by
    refine List.flatMap_eq_nil_iff.mpr fun tree member => ?_
    obtain ⟨row, kept, rfl⟩ := List.mem_map.mp member
    exact entries_node_eq_nil rfl (cells row (List.mem_of_mem_filter kept))
  unfold groupOf
  split
  · rfl
  · rw [List.flatMap_singleton]
    exact entries_node_eq_nil (by cases header <;> rfl) none_

private theorem noEntries_groupsOf {rows : List (Bool × List NodeTree)}
    (cells : ∀ row ∈ rows, row.2.flatMap entries = []) : (groupsOf rows).flatMap entries = [] := by
  match rows with
  | [] => rfl
  | (header, row) :: rest =>
    rw [groupsOf, List.flatMap_append, noEntries_groupOf header cells,
      noEntries_groupOf (!header) fun row member => cells row (List.mem_cons_of_mem _ member)]
    rfl

mutual

private theorem noEntries_translate (tree : GrammarTree) (none_ : ∀ raw, .frontMatter raw ∉ tree.kinds) :
    (translate tree).flatMap entries = [] := by
  match tree with
  | .node kind children =>
    have below : ∀ raw, .frontMatter raw ∉ GrammarTree.kindsAll children := fun raw member =>
      none_ raw (List.mem_cons_of_mem _ member)
    have inner := noEntries_translateAll children below
    have columns := fun alignments => noEntries_translateRows alignments children below
    unfold translate
    split
    next kind' found =>
      rw [List.flatMap_singleton]
      exact entries_node_eq_nil (placement_noEntry found) ((entries_joined _).trans inner)
    · rfl
    next alignments _ =>
      rw [List.flatMap_singleton]
      exact entries_node_eq_nil rfl (noEntries_groupsOf (columns alignments))
    next raw found => exact absurd (placement_frontMatter found ▸ List.mem_cons_self ..) (none_ raw)
    · exact inner
termination_by structural tree

private theorem noEntries_translateAll (trees : List GrammarTree)
    (none_ : ∀ raw, .frontMatter raw ∉ GrammarTree.kindsAll trees) : (translateAll trees).flatMap entries = [] := by
  match trees with
  | [] => rfl
  | tree :: rest =>
    rw [translateAll, List.flatMap_append,
      noEntries_translate tree fun raw member => none_ raw (List.mem_append_left _ member),
      noEntries_translateAll rest fun raw member => none_ raw (List.mem_append_right _ member)]
    rfl
termination_by structural trees

private theorem noEntries_translateRows (alignments : List (Option Alignment)) (rows : List GrammarTree)
    (none_ : ∀ raw, .frontMatter raw ∉ GrammarTree.kindsAll rows) :
    ∀ row ∈ translateRows alignments rows, row.2.flatMap entries = [] := by
  match rows with
  | [] => exact nofun
  | .node kind cells :: rest =>
    have here := noEntries_translateCells (kind == .tableRow true) alignments cells fun raw member =>
      none_ raw (List.mem_append_left _ (List.mem_cons_of_mem _ member))
    exact List.forall_mem_cons.mpr ⟨here, noEntries_translateRows alignments rest fun raw member =>
      none_ raw (List.mem_append_right _ member)⟩
termination_by structural rows

private theorem noEntries_translateCells (header : Bool) (alignments : List (Option Alignment))
    (cells : List GrammarTree) (none_ : ∀ raw, .frontMatter raw ∉ GrammarTree.kindsAll cells) :
    (translateCells header alignments cells).flatMap entries = [] := by
  match cells with
  | [] => rfl
  | cell :: rest =>
    have here := noEntries_translate cell fun raw member => none_ raw (List.mem_append_left _ member)
    rw [translateCells, List.flatMap_cons, entries_node_eq_nil rfl ((entries_joined _).trans here),
      noEntries_translateCells header alignments.tail rest fun raw member => none_ raw (List.mem_append_right _ member)]
    rfl
termination_by structural cells

end

private theorem translateAll_append (first second : List GrammarTree) :
    translateAll (first ++ second) = translateAll first ++ translateAll second := by
  induction first with
  | nil => rfl
  | cons tree rest ih => rw [List.cons_append, translateAll, translateAll, ih, List.append_assoc]

private theorem entries_entryTrees (entries : List Entry) :
    (entries.map entryTree).flatMap NodeTree.entries = entries := by
  rw [List.flatMap_map]
  exact List.flatMap_singleton' entries

/-- The entries of a grammar tree with one block are those that the block is read into. -/
theorem entries_translateAll_sole {blocks : List GrammarTree} {raw : String}
    (sole : GrammarTree.SoleFrontMatter blocks raw) : (translateAll blocks).flatMap entries = (FrontMatter.parse raw).1 := by
  obtain ⟨front, children, back, rfl, none_⟩ := sole.exists_split
  have block : (translate (.node (.frontMatter raw) children)).flatMap entries = (FrontMatter.parse raw).1 := by
    have noText : NodeKind.frontMatterBlock.type ≠ .text := by decide
    refine (List.flatMap_singleton ..).trans ((entries_node noText _).trans ?_)
    exact entries_entryTrees (FrontMatter.parse raw).1
  rw [GrammarTree.kindsAll_append] at none_
  rw [translateAll_append, translateAll, List.flatMap_append, List.flatMap_append, block,
    noEntries_translateAll front fun other member => none_ other (List.mem_append_left _ member),
    noEntries_translateAll back fun other member => none_ other (List.mem_append_right _ member)]
  exact List.append_nil _

def EmptyNote (kind : NodeKind) (row : List NodeTree) : Prop := kind.type = .footnoteDefinition → row.flatMap entries = []

private theorem EmptyNote.of_type {kind : NodeKind} (other : kind.type ≠ .footnoteDefinition) (row : List NodeTree) :
    EmptyNote kind row := fun isNote => absurd isNote other

private theorem everywhere_joined {property : NodeKind → List NodeTree → Prop}
    (texts : ∀ literal row, property (.text literal) row) {trees : List NodeTree}
    (each : ∀ tree ∈ trees, tree.Everywhere property) : ∀ tree ∈ joined trees, tree.Everywhere property := by
  suffices run : ∀ before : List NodeTree, (∀ tree ∈ before, tree.Everywhere property) →
      ∀ tree ∈ trees.foldl push before, tree.Everywhere property from run [] (List.forall_mem_nil _)
  induction trees with
  | nil => exact fun _ before => before
  | cons tree rest ih =>
    obtain ⟨here, later⟩ := List.forall_mem_cons.mp each
    refine fun before above => ih later _ ?_
    unfold push
    split
    next first beneath second below last =>
      obtain ⟨front, rfl⟩ := List.getLast?_eq_some_iff.mp last
      obtain ⟨outer, ends⟩ := List.forall_mem_append.mp above
      have left := (everywhere_iff.mp (List.forall_mem_singleton.mp ends)).2
      have right := (everywhere_iff.mp here).2
      rw [List.dropLast_concat]
      exact List.forall_mem_append.mpr ⟨outer, List.forall_mem_singleton.mpr
        (.node (texts _ _) (List.forall_mem_append.mpr ⟨left, right⟩))⟩
    · exact List.forall_mem_append.mpr ⟨above, List.forall_mem_singleton.mpr here⟩

private theorem everywhere_emptyNote {ok : String → Prop} {tree : NodeTree} (normal : tree.Everywhere (Normal ok))
    (none_ : tree.entries = []) : tree.Everywhere EmptyNote := by
  induction tree using child_induction with
  | step kind children ih =>
    obtain ⟨here, below⟩ := everywhere_iff.mp normal
    by_cases isText : kind.type = .text
    · obtain ⟨literal, rfl⟩ := NodeKind.type_eq_text_iff.mp isText
      rw [(here.text literal rfl).2]
      exact .node (.of_type (by simp [NodeKind.type]) []) (List.forall_mem_nil _)
    · rw [entries_node isText] at none_
      have row := (List.append_eq_nil_iff.mp none_).2
      exact .node (fun _ => row) fun child member =>
        ih child member (below child member) (List.flatMap_eq_nil_iff.mp row child member)

/-- If one block is all the front matter, and it is a child of the root, then no definition has entries in it. -/
theorem emptyNotes_sole {blocks : List GrammarTree} {raw : String} (sole : GrammarTree.SoleFrontMatter blocks raw) :
    (node .document (joined (translateAll blocks))).Everywhere EmptyNote := by
  obtain ⟨front, children, back, rfl, none_⟩ := sole.exists_split
  have outside : ∀ tree ∈ translateAll (front ++ back), tree.Everywhere EmptyNote := by
    have empty_ := noEntries_translateAll (front ++ back) none_
    have normal : ∀ tree ∈ translateAll (front ++ back), tree.Everywhere (Normal fun _ => True) :=
      everywhere_translateAll (fun _ _ _ _ => trivial) (front ++ back) fun _ _ => trivial
    exact fun tree member => everywhere_emptyNote (normal tree member) (List.flatMap_eq_nil_iff.mp empty_ tree member)
  have block : ∀ tree ∈ translate (.node (.frontMatter raw) children), tree.Everywhere EmptyNote := by
    rw [translate]
    refine List.forall_mem_singleton.mpr (.node (.of_type (by decide) _) fun tree member => ?_)
    obtain ⟨entry, _, rfl⟩ := List.mem_map.mp member
    exact .node (.of_type (by simp [NodeKind.type]) []) (List.forall_mem_nil _)
  refine .node (.of_type (by decide) _) (everywhere_joined (fun _ => .of_type (by simp [NodeKind.type])) ?_)
  rw [translateAll_append] at outside ⊢
  rw [translateAll]
  obtain ⟨before, behind⟩ := List.forall_mem_append.mp outside
  exact List.forall_mem_append.mpr ⟨before, List.forall_mem_append.mpr ⟨block, behind⟩⟩

end Document

end MarkdownHtml
