import MarkdownHtml.Proofs.EntryTrees
import MarkdownHtml.Proofs.ExtendedDocuments
import MarkdownHtml.Proofs.InsertedContent
import MarkdownHtml.Proofs.MarkedTrees
import MarkdownHtml.Proofs.ReadingOrder

/-! Metadata from the text of front matter. The entries of a block become nodes in their order, and whatever is done to
the document later leaves them so: footnotes are moved to the end without them, and the extensions only touch texts. -/

namespace MarkdownHtml.Document
open NodeTree FrontMatter

variable {doc after start : Document} {id : NodeId}

private theorem WellFormed.entries_tree (wellFormed : doc.WellFormed) (leaves : doc.LeafTexts) (held : doc.Holds id) :
    (doc.tree id).entries = doc.entriesAmong (doc.subtree id) := by
  induction id using wellFormed.child_induction with
  | step id ih =>
    have here := kind?_eq_kindOf held
    have below : ((doc.childIds id).map doc.tree).flatMap entries =
        (doc.childIds id).flatMap fun child => doc.entriesAmong (doc.subtree child) := by
      rw [List.flatMap_map]
      exact List.flatMap_congr fun child member => ih child member (wellFormed.linked.holds_of_mem_childIds member)
    rw [wellFormed.tree_eq held, wellFormed.subtree_eq held, ← List.singleton_append, entriesAmong_append,
      entriesAmong_singleton, here, Option.bind_some, entriesAmong, List.filterMap_flatMap]
    by_cases isText : (doc.kindOf id).type = .text
    · obtain ⟨literal, isText⟩ := NodeKind.type_eq_text_iff.mp isText
      rw [isText, leaves.childIds_eq wellFormed.linked (here.trans (congrArg some isText))]
      rfl
    · rw [entries_node isText, below]
      rfl

/-! The extensions. -/

private theorem Orderly.entries_congr (before : doc.Orderly) (later : after.Orderly)
    (same : (after.tree root).entries = (doc.tree root).entries) : after.frontMatterEntries = doc.frontMatterEntries := by
  rw [frontMatterEntries, frontMatterEntries, ← before.linked.wellFormed.entries_tree before.leaves before.rooted.held,
    ← later.linked.wellFormed.entries_tree later.leaves later.rooted.held, same]

private theorem Accounts.entries {content : NodeId → List Letter}
    (accounts : Accounts spelling start doc content fun _ => []) (wellFormed : doc.WellFormed) (held : doc.Holds id) :
    (content id).flatMap letterEntries = (doc.childIds id).flatMap fun child => (doc.tree child).entries := by
  induction id using wellFormed.child_induction with
  | step id ih =>
    rw [accounts id held, List.append_nil, List.flatMap_assoc]
    refine List.flatMap_congr fun child member => ?_
    have present := wellFormed.linked.holds_of_mem_childIds member
    have below := ih child member present
    rw [wellFormed.tree_eq present]
    by_cases isText : (doc.kindOf child).type = .text
    · obtain ⟨literal, isText⟩ := NodeKind.type_eq_text_iff.mp isText
      rw [Reading.adds_text ((kind?_eq_kindOf present).trans (congrArg some isText)), isText]
      exact letterEntries_chars literal
    · rw [entries_node isText, List.flatMap_map, ← below]
      by_cases new : doc.kind? child = some .ins ∧ ¬ start.Holds child
      · have marks : ∀ opens, (spelling.mark opens).flatMap letterEntries = [] := fun _ => letterEntries_chars "++"
        rw [Reading.adds_new new.1 new.2, kindOf_eq new.1, List.flatMap_append, List.flatMap_append, marks, marks,
          List.append_nil]
        rfl
      · have noText : ∀ literal, doc.kind? child ≠ some (.text literal) := fun literal found =>
          isText (NodeKind.type_eq_text_iff.mpr ⟨literal, kindOf_eq found⟩)
        rw [Reading.adds_whole present noText new]
        refine (List.flatMap_singleton ..).trans ?_
        rw [letterEntries, entries_node isText, entries_grouped]

/-- Where inserted text is marked, nodes are only put below new ones. -/
theorem Orderly.entries_markInserted (orderly : doc.Orderly) :
    doc.markInserted.1.frontMatterEntries = doc.frontMatterEntries := by
  have wellFormed := orderly.linked.wellFormed
  have held := orderly.rooted.held
  have later := (keeps_markInserted doc).orderly orderly
  have lateFormed := later.linked.wellFormed
  obtain ⟨_, back⟩ := markInserted_accounts wellFormed held orderly.leaves
  have accounts : Accounts spelling doc doc.markInserted.1 (doc.spelledLetters doc.markInserted.1) fun _ => [] :=
    accounts_spelled lateFormed later.leaves
  -- The letters below the root are the same at the end as at the start, and they have the same entries.
  have below := (accounts.entries lateFormed later.rooted.held).symm.trans ((back _ accounts).entries wellFormed held)
  refine orderly.entries_congr later ?_
  rw [wellFormed.tree_eq held, lateFormed.tree_eq later.rooted.held, kindOf_eq orderly.rooted.kind,
    kindOf_eq later.rooted.kind]
  refine NodeTree.entries_congr _ ?_
  rw [List.flatMap_map, List.flatMap_map, below]

private theorem Orderly.entries_applyExtension (orderly : doc.Orderly) (extension : Extension) :
    (doc.applyExtension extension).1.frontMatterEntries = doc.frontMatterEntries := by
  have wellFormed := orderly.linked.wellFormed
  have held := orderly.rooted.held
  have later := (keeps_applyExtension doc extension).orderly orderly
  cases extension with
  | ins => exact orderly.entries_markInserted
  | imageAttributes =>
    have uncut : doc.imageCut? root = none := by
      rw [imageCut?, orderly.rooted.kind]
    refine orderly.entries_congr later ?_
    rw [applyExtension, wellFormed.tree_attachImageAttributes held orderly.leaves, uncut, Option.map_none, withLeaf_none,
      attached, keepsEntries_attachFrom.entries_rebuilt]
  | taskList =>
    refine orderly.entries_congr later ?_
    rw [applyExtension, wellFormed.tree_markTaskItems held orderly.leaves, marked, keepsEntries_markRow.entries_rebuilt]
  | _ => rfl

/-- No extension loses an entry or moves it, whichever are applied and in whatever order. -/
theorem Orderly.entries_applyExtensions (orderly : doc.Orderly) (extensions : List Extension) :
    (doc.applyExtensions extensions).1.frontMatterEntries = doc.frontMatterEntries := by
  induction extensions using List.reverseRecOn with
  | nil => rfl
  | append_singleton extensions extension ih =>
    have before := (keeps_applyExtensions doc extensions).orderly orderly
    rw [← ih, ← before.entries_applyExtension extension, applyExtensions, List.foldl_append]
    rfl

/-! The conversion of a grammar tree. -/

private theorem entryOf_bare (kind : NodeKind) : entryOf (bare kind) = entryOf kind := by cases kind <;> rfl

private theorem entriesAmong_filter (doc : Document) (ids : List NodeId) :
    doc.entriesAmong (ids.filter fun id => ((doc.kind? id).bind entryOf).isSome) = doc.entriesAmong ids := by
  rw [entriesAmong, List.filterMap_filter]
  refine List.filterMap_congr fun id _ => ?_
  cases (doc.kind? id).bind entryOf <;> rfl

private theorem Rooted.entries_numberFootnotes (rooted : doc.Rooted)
    (plain : ∀ note ∈ doc.definitions, doc.entriesAmong (doc.subtree note) = []) :
    doc.numberFootnotes.1.frontMatterEntries = doc.frontMatterEntries := by
  have renumbered := rooted.renumbered
  obtain ⟨kept, numbered⟩ := rooted.exists_footnotesNumbered
  have read := numbered.descendants_eq rooted renumbered
  rw [renumbered.rooted.linked.wellFormed.descendants_eq_subtree renumbered.rooted.held] at read
  have kinds : ∀ ids, doc.numberFootnotes.1.entriesAmong ids = doc.entriesAmong ids := fun ids =>
    List.filterMap_congr fun id _ => renumbered.labels.bind_key entryOf_bare id
  rw [frontMatterEntries, kinds, read, ← entriesAmong_filter, rooted.filter_body, entriesAmong_filter]
  · rfl
  · intro note member id inside isEntry
    rw [List.filterMap_eq_nil_iff.mp (plain note member) id inside] at isEntry
    cases isEntry

section
variable {blocks : List GrammarTree} {raw : String} (sole : GrammarTree.SoleFrontMatter blocks raw)
include sole

private theorem entries_placed : (placed blocks).frontMatterEntries = (FrontMatter.parse raw).1 := by
  have orderly := orderly_placed blocks
  have rooted := orderly.rooted
  have wellFormed := rooted.linked.wellFormed
  rw [frontMatterEntries, ← wellFormed.entries_tree orderly.leaves rooted.held, wellFormed.tree_eq rooted.held,
    kindOf_eq rooted.kind, row_placed, entries_node (by decide), entries_joined, entries_translateAll_sole sole]
  rfl

private theorem entries_extended (extensions : List Extension) :
    (extended blocks extensions).frontMatterEntries = (FrontMatter.parse raw).1 := by
  have orderly := orderly_placed blocks
  have wellFormed := orderly.linked.wellFormed
  have numbered : (ofGrammar blocks).1.frontMatterEntries = (placed blocks).frontMatterEntries := by
    refine orderly.rooted.entries_numberFootnotes fun note member => ?_
    obtain ⟨reached, key, defines⟩ := mem_definitions.mp member
    obtain ⟨label, number, references, isNote⟩ := exists_definition defines
    have held := ((wellFormed.mem_descendants orderly.rooted.held).mp reached).holds orderly.rooted.held
    have empty_ : EmptyNote _ _ := of_everywhere_placed (emptyNotes_sole sole) held
    rw [kindOf_eq isNote] at empty_
    rw [← wellFormed.entries_tree orderly.leaves held, wellFormed.tree_eq held, kindOf_eq isNote]
    exact entries_node_eq_nil rfl (empty_ rfl)
  have converted : (ofGrammar blocks).1.Orderly := orderly.numberFootnotes.1
  rw [extended, converted.entries_applyExtensions, numbered, entries_placed sole]

end

end MarkdownHtml.Document

namespace MarkdownHtml.Metadata
open Document GrammarTree

/-- The metadata of a document is gathered from its entries in pre-order. If the document comes from a grammar tree with
one block of front matter, these are the entries that the block is read into, whatever the extensions have done. -/
theorem gathers_entries :
    (∀ doc : Document, doc.WellFormed → (ofDocument doc).1.Gathers doc.frontMatterEntries) ∧
      ∀ blocks raw extensions, SoleFrontMatter blocks raw →
        (ofDocument (extended blocks extensions)).1.Gathers (FrontMatter.parse raw).1 := by
  refine ⟨fun doc => gathers_of_wellFormed, fun blocks raw extensions sole => ?_⟩
  rw [← entries_extended sole extensions]
  exact gathers_of_wellFormed (orderly_extended blocks extensions).linked.wellFormed

/-- Entries with two keys by turns, one of them in a paragraph of its own, and a block that inserted text is
marked around. -/
theorem gathers_entries_turns :
    let raw := "---\nb: 1\na:\nb:\n  - 2\n  - 3\nc: |\n---\n"
    let blocks : List GrammarTree := [.leaf (.text "a ++b"), .leaf (.frontMatter raw), .leaf (.text "c++ d"),
      .node (.footnoteDefinition "n") [.leaf (.text "e")]]
    (FrontMatter.parse raw).1 = [⟨"b", ["1"]⟩, ⟨"a", []⟩, ⟨"b", ["2", "3"]⟩, ⟨"c", [""]⟩] ∧ SoleFrontMatter blocks raw ∧
      (ofDocument (extended blocks [.ins, .taskList, .ins])).1.Gathers (FrontMatter.parse raw).1 ∧
      ∃ doc : Document, doc.WellFormed ∧ doc.frontMatterEntries = [⟨"b", ["1"]⟩, ⟨"a", []⟩, ⟨"b", ["2", "3"]⟩] ∧
        (ofDocument doc).1.Gathers doc.frontMatterEntries := by
  intro raw blocks
  have sole : SoleFrontMatter blocks raw := by decide
  let block := (empty.appendNew root .frontMatterBlock).2
  let first := (block.appendNew ⟨1⟩ (.frontMatterEntry "b" ["1"])).2
  let paragraph := (first.appendNew root .paragraph).2
  let second := (paragraph.appendNew ⟨3⟩ (.frontMatterEntry "b" ["2", "3"])).2
  let doc := (second.appendNew ⟨1⟩ (.frontMatterEntry "a" [])).2
  have opened : first.Rooted := (rooted_empty.appendNew (by decide) _).appendNew (by decide) _
  have rooted : doc.Rooted := ((opened.appendNew (by decide) _).appendNew (by decide) _).appendNew (by decide) _
  have wellFormed := rooted.linked.wellFormed
  refine ⟨by decide +kernel, sole, gathers_entries.2 blocks raw [.ins, .taskList, .ins] sole, doc, wellFormed,
    by decide +kernel, gathers_entries.1 doc wellFormed⟩

end MarkdownHtml.Metadata
