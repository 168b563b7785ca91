import MarkdownHtml.Document.OfGrammar
import MarkdownHtml.Proofs.EditRuns

/-! The document that a grammar tree is placed in. It grows by new last children and by texts that get
longer, so its links agree and its root stays what it is. -/

namespace MarkdownHtml.Document

variable {doc after : Document}

/-- A document whose links agree, with its root at the top. -/
structure Rooted (doc : Document) : Prop where
  linked : doc.Linked
  held : doc.Holds root
  top : doc.parent? root = none
  kind : doc.kind? root = some .document

/-- What a document becomes while trees are placed in it. -/
inductive Grown (doc : Document) : Document → Prop
  | refl : Grown doc doc
  | append {mid : Document} {parent : NodeId} (grown : Grown doc mid) (held : mid.Holds parent) (kind : NodeKind) :
    Grown doc (mid.appendNew parent kind).2
  | extend {mid : Document} {id : NodeId} {short : String} (grown : Grown doc mid)
    (found : mid.kind? id = some (.text short)) (long : String) : Grown doc (mid.setKind id (.text long))

theorem size_modify (id : NodeId) (f : Node → Node) : (doc.modify id f).size = doc.size := by
  simp [modify, size]

private theorem size_linkForward (parent previous target : Option NodeId) :
    (doc.linkForward parent previous target).size = doc.size := by
  cases previous <;> cases parent <;> simp [linkForward, size_modify]

private theorem size_linkBackward (parent next target : Option NodeId) :
    (doc.linkBackward parent next target).size = doc.size := by
  cases next <;> cases parent <;> simp [linkBackward, size_modify]

theorem size_detach (id : NodeId) : (doc.detach id).size = doc.size := by
  unfold detach
  split
  · rfl
  · rw [size_modify, size_linkBackward, size_linkForward]

theorem size_appendChild (parent child : NodeId) : (doc.appendChild parent child).size = doc.size := by
  simp only [appendChild, size_modify, size_linkForward, size_detach]

theorem size_appendNew (parent : NodeId) (kind : NodeKind) : (doc.appendNew parent kind).2.size = doc.size + 1 := by
  simp only [appendNew, size_appendChild]
  simp [alloc, size]

theorem holds_appendNew (doc : Document) (parent : NodeId) (kind : NodeKind) :
    (doc.appendNew parent kind).2.Holds (doc.appendNew parent kind).1 := by
  rw [Holds, size_appendNew]
  exact Nat.lt_succ_self _

private theorem Grown.size_le (grown : Grown doc after) : doc.size ≤ after.size := by
  induction grown with
  | refl => exact Nat.le_refl _
  | append _ _ _ ih => rw [size_appendNew]; omega
  | extend _ _ _ ih => rw [setKind, size_modify]; exact ih

theorem Grown.holds (grown : Grown doc after) {id : NodeId} (held : doc.Holds id) : after.Holds id :=
  Nat.lt_of_lt_of_le held grown.size_le

theorem Grown.trans {last : Document} (first : Grown doc after) (second : Grown after last) : Grown doc last := by
  induction second with
  | refl => exact first
  | append _ held kind ih => exact .append ih held kind
  | extend _ found long ih => exact .extend ih found long

theorem Grown.linked (grown : Grown doc after) (linked : doc.Linked) : after.Linked := by
  induction grown with
  | refl => exact linked
  | append _ held kind ih => exact ih.appendNew held kind
  | extend _ _ long ih => exact (sameLinks_setKind _ (.text long)).linked ih

theorem Rooted.appendNew (rooted : doc.Rooted) {parent : NodeId} (held : doc.Holds parent) (kind : NodeKind) :
    (doc.appendNew parent kind).2.Rooted := by
  refine ⟨rooted.linked.appendNew held kind, (Grown.append .refl held kind).holds rooted.held, ?_, ?_⟩
  · rw [rooted.linked.parent?_appendNew held, if_neg rooted.held.ne_new, rooted.top]
  · rw [rooted.linked.kind?_appendNew held, if_neg rooted.held.ne_new, rooted.kind]

private theorem Grown.rooted (grown : Grown doc after) (rooted : doc.Rooted) : after.Rooted := by
  induction grown with
  | refl => exact rooted
  | append _ held kind ih => exact ih.appendNew held kind
  | @extend mid id short grown found long ih =>
    have same : SameLinks mid _ := sameLinks_setKind id (.text long)
    have notRoot : root ≠ id := by
      rintro rfl
      rw [ih.kind] at found
      cases found
    exact ⟨same.linked ih.linked, (Grown.extend .refl found long).holds ih.held, (same.parent root).trans ih.top,
      by rw [kind?_setKind, if_neg notRoot]; exact ih.kind⟩

theorem rooted_empty : Document.empty.Rooted := ⟨.empty, by decide, rfl, rfl⟩

theorem grown_pushText {parent : NodeId} (held : doc.Holds parent) (literal : String) :
    Grown doc (doc.pushText parent literal) := by
  unfold pushText
  split
  · exact .append .refl held _
  · split
    next found => exact .extend .refl found _
    · exact .append .refl held _

theorem grown_appendFrontMatter {parent : NodeId} (held : doc.Holds parent) (entries : List FrontMatter.Entry) :
    Grown doc (doc.appendFrontMatter parent entries) := by
  have block := holds_appendNew doc parent .frontMatterBlock
  unfold appendFrontMatter
  suffices each : ∀ mid : Document, Grown doc mid → mid.Holds (doc.appendNew parent .frontMatterBlock).1 →
      Grown doc (entries.foldl (fun mid entry => (mid.appendNew (doc.appendNew parent .frontMatterBlock).1
        (.frontMatterEntry entry.key entry.values)).2) mid) from each _ (.append .refl held _) block
  induction entries with
  | nil => exact fun _ grown _ => grown
  | cons entry rest ih =>
    intro mid grown present
    have step := Grown.append .refl present (.frontMatterEntry entry.key entry.values)
    exact ih _ (grown.trans step) (step.holds present)

structure TableState.Sound (doc : Document) (table : NodeId) (state : TableState) : Prop where
  grown : Grown doc state.document
  table : state.document.Holds table
  head : ∀ id, state.head = some id → state.document.Holds id
  body : ∀ id, state.body = some id → state.document.Holds id
  cells : ∀ id ∈ state.cells, state.document.Holds id

namespace TableState.Sound

variable {table : NodeId} {state : TableState}

private theorem grow (sound : Sound doc table state) (step : Grown state.document after) :
    Sound doc table { state with document := after } where
  grown := sound.grown.trans step
  table := step.holds sound.table
  head id found := step.holds (sound.head id found)
  body id found := step.holds (sound.body id found)
  cells id member := step.holds (sound.cells id member)

private theorem rowGroup (sound : Sound doc table state) (header : Bool) :
    Sound doc table (state.rowGroup table header).2 ∧
      (state.rowGroup table header).2.document.Holds (state.rowGroup table header).1 := by
  have appended := fun kind => sound.grow (.append .refl sound.table kind)
  have present := fun kind => holds_appendNew state.document table kind
  unfold TableState.rowGroup
  split
  next found => exact ⟨sound, sound.head _ found⟩
  · refine ⟨{ appended .tableHead with head := ?_ }, present .tableHead⟩
    rintro id ⟨⟩
    exact present .tableHead
  next found => exact ⟨sound, sound.body _ found⟩
  · refine ⟨{ appended .tableBody with body := ?_ }, present .tableBody⟩
    rintro id ⟨⟩
    exact present .tableBody

private theorem addCell (sound : Sound doc table state) {row : NodeId} (held : state.document.Holds row) (header : Bool)
    (alignment : Option Alignment) :
    Sound doc table (state.addCell row header alignment) ∧ (state.addCell row header alignment).document.Holds row := by
  have step : Grown state.document _ := .append .refl held (.tableCell header alignment)
  refine ⟨{ sound.grow step with cells := ?_ }, step.holds held⟩
  intro id member
  rcases List.mem_append.mp member with member | member
  · exact (sound.grow step).cells id member
  · rw [List.mem_singleton.mp member]
    exact holds_appendNew _ row _

private theorem addCells {row : NodeId} (header : Bool) (columns : List (Option Alignment)) :
    ∀ {state : TableState}, Sound doc table state → state.document.Holds row →
      Sound doc table (columns.foldl (TableState.addCell row header) state) := by
  induction columns with
  | nil => exact fun sound _ => sound
  | cons alignment rest ih =>
    intro state sound held
    obtain ⟨sound, held⟩ := sound.addCell held header alignment
    exact ih sound held

private theorem addRow (sound : Sound doc table state) (alignments : List (Option Alignment)) (row : GrammarTree) :
    Sound doc table (state.addRow table alignments row) := by
  obtain ⟨grouped, held⟩ := sound.rowGroup (row.kind == .tableRow true)
  exact addCells _ _ (grouped.grow (.append .refl held .tableRow)) (holds_appendNew _ _ _)

private theorem addRows (alignments : List (Option Alignment)) (rows : List GrammarTree) :
    ∀ {state : TableState}, Sound doc table state →
      Sound doc table (rows.foldl (TableState.addRow table alignments) state) := by
  induction rows with
  | nil => exact fun sound => sound
  | cons row rest ih => exact fun sound => ih (sound.addRow alignments row)

end TableState.Sound

theorem grown_appendTable {parent : NodeId} (held : doc.Holds parent) (alignments : List (Option Alignment))
    (rows : List GrammarTree) :
    Grown doc (doc.appendTable parent alignments rows).1 ∧
      ∀ cell ∈ (doc.appendTable parent alignments rows).2,
        (doc.appendTable parent alignments rows).1.Holds cell := by
  have start : TableState.Sound doc (doc.appendNew parent .tableBlock).1
      { document := (doc.appendNew parent .tableBlock).2 } :=
    ⟨.append .refl held _, holds_appendNew _ _ _, nofun, nofun, nofun⟩
  have sound := TableState.Sound.addRows alignments rows start
  exact ⟨sound.grown, sound.cells⟩

theorem grown_place (doc : Document) (events : List Event) (stack : List (GrammarTree × NodeId)) :
    (∀ entry ∈ stack, doc.Holds entry.2) → Grown doc (place doc events stack).1 := by
  have under_ : ∀ {doc : Document} {id : NodeId} {trees : List GrammarTree} {rest : List (GrammarTree × NodeId)},
      doc.Holds id → (∀ entry ∈ rest, doc.Holds entry.2) → ∀ entry ∈ under id trees ++ rest, doc.Holds entry.2 := by
    intro doc id trees rest held others entry member
    rcases List.mem_append.mp member with member | member
    · obtain ⟨tree, _, rfl⟩ := List.mem_map.mp member
      exact held
    · exact others entry member
  induction doc, events, stack using place.induct with
  | case1 doc events =>
    rw [place]
    exact fun _ => .refl
  | case2 doc events kind children parent rest kind' found id after same ih =>
    intro held
    have step : Grown doc after := by
      have appended := Grown.append .refl (held _ (List.mem_cons_self ..)) kind'
      rwa [same] at appended
    have present : after.Holds id := by
      have present := holds_appendNew doc parent kind'
      rwa [same] at present
    rw [place]
    simp only [found, same]
    exact step.trans (ih (under_ present fun entry member => step.holds (held entry (List.mem_cons_of_mem _ member))))
  | case3 doc events kind children parent rest literal found ih =>
    intro held
    have step := grown_pushText (held _ (List.mem_cons_self ..)) literal
    rw [place]
    simp only [found]
    exact step.trans (ih fun entry member => step.holds (held entry (List.mem_cons_of_mem _ member)))
  | case4 doc events kind children parent rest alignments found after cells same ih =>
    intro held
    obtain ⟨step, present⟩ := grown_appendTable (held _ (List.mem_cons_self ..)) alignments children
    rw [same] at step present
    rw [place]
    simp only [found, same]
    refine step.trans (ih fun entry member => ?_)
    rcases List.mem_append.mp member with member | member
    · exact present _ (List.of_mem_zip member).2
    · exact step.holds (held entry (List.mem_cons_of_mem _ member))
  | case5 doc events kind children parent rest raw found entries warnings same ih =>
    intro held
    have step := grown_appendFrontMatter (held _ (List.mem_cons_self ..)) entries
    rw [place]
    simp only [found, same]
    exact step.trans (ih fun entry member => step.holds (held entry (List.mem_cons_of_mem _ member)))
  | case6 doc events kind children parent rest found ih =>
    intro held
    rw [place]
    simp only [found]
    exact ih (under_ (held _ (List.mem_cons_self ..)) fun entry member => held entry (List.mem_cons_of_mem _ member))

/-- The document of the blocks of a text, before its footnotes are numbered. -/
def placed (blocks : List GrammarTree) : Document := (place empty [] (under root blocks)).1

theorem holds_under_root (blocks : List GrammarTree) : ∀ entry ∈ under root blocks, empty.Holds entry.2 := by
  intro entry member
  obtain ⟨tree, _, rfl⟩ := List.mem_map.mp member
  exact rooted_empty.held

theorem rooted_placed (blocks : List GrammarTree) : (placed blocks).Rooted :=
  (grown_place empty [] (under root blocks) (holds_under_root blocks)).rooted rooted_empty

end MarkdownHtml.Document
