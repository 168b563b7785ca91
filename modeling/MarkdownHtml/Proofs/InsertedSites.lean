import MarkdownHtml.Proofs.InsertedRows
import MarkdownHtml.Proofs.PlusMatching
import MarkdownHtml.Proofs.Preorder

/-! A container whose children are taken out and put back, in part below inserted nodes. Each child goes to the end of
the innermost node that is open. So the rows of the open nodes, from the innermost one outwards and with the plus signs
that close each of them, are what is still to come. -/

namespace MarkdownHtml.Document
open NodeTree

/-- No text has a child. -/
def LeafTexts (doc : Document) : Prop :=
  ∀ id parent literal, doc.parent? id = some parent → doc.kind? parent ≠ some (.text literal)

theorem leafTexts_empty : Document.empty.LeafTexts := by
  intro id parent literal under found
  have held : Document.empty.Holds parent := holds_iff_kind.mpr ⟨_, found⟩
  obtain ⟨index⟩ := parent
  obtain rfl : index = 0 := Nat.lt_one_iff.mp held
  cases found

theorem LeafTexts.childIds_eq {doc : Document} (leaves : doc.LeafTexts) (linked : doc.Linked) {id : NodeId}
    {literal : String} (found : doc.kind? id = some (.text literal)) : doc.childIds id = [] :=
  List.eq_nil_iff_forall_not_mem.mpr fun child member =>
    leaves child id literal (linked.parent_of_mem_childIds member) found

theorem LeafTexts.appendNew {doc : Document} (leaves : doc.LeafTexts) (linked : doc.Linked) {above : NodeId}
    (held : doc.Holds above) (noText : ∀ literal, doc.kind? above ≠ some (.text literal)) (kind : NodeKind) :
    (doc.appendNew above kind).2.LeafTexts := by
  intro id parent literal under
  rw [linked.parent?_appendNew held] at under
  split at under
  · cases under
    rw [linked.kind?_appendNew held, if_neg held.ne_new]
    exact noText literal
  · rw [linked.kind?_appendNew held, if_neg (linked.wellFormed.holds_parent under).ne_new]
    exact leaves id parent literal under

theorem leafTexts_paragraph (literal : String) :
    let doc := ((Document.empty.appendNew root .paragraph).2.appendNew ⟨1⟩ (.text literal)).2
    doc.WellFormed ∧ doc.LeafTexts := by
  let paragraph := (Document.empty.appendNew root .paragraph).2
  have linked : paragraph.Linked := Linked.empty.appendNew (by decide) _
  have top : ∀ literal, Document.empty.kind? root ≠ some (.text literal) := fun _ => nofun
  have inner : ∀ literal, paragraph.kind? ⟨1⟩ ≠ some (.text literal) := fun _ => nofun
  have bare : paragraph.LeafTexts := leafTexts_empty.appendNew .empty (by decide) top _
  exact ⟨(linked.appendNew (by decide) _).wellFormed, bare.appendNew linked (by decide) inner _⟩

/-- A container in a document that has come from an earlier one. -/
structure Site where
  start : Document
  doc : Document
  container : NodeId
  linked : doc.Linked
  leaves : doc.LeafTexts
  held : doc.Holds container
  noText : ∀ literal, doc.kind? container ≠ some (.text literal)
  older : ∀ id, start.Holds id → doc.Holds id

namespace Site

variable {site : Site}

def row (site : Site) : List NodeId := site.doc.childIds site.container

/-- A node on the way up from the container, or a new one. -/
def Upper (site : Site) (id : NodeId) : Prop := site.doc.Within id site.container ∨ ¬ site.doc.Holds id

private theorem not_upper {child : NodeId} (member : child ∈ site.row) : ¬ site.Upper child := by
  have under : site.doc.IsParent site.container child := site.linked.parent_of_mem_childIds member
  rintro (within | new)
  · rcases within_iff.mp within with same | above
    · rw [same] at under
      exact site.linked.noOwnAncestor child (.single under)
    · exact site.linked.noOwnAncestor child (above.tail under)
  · exact new (holds_of_parent under)

private theorem container_notMem : site.container ∉ site.row := fun member => not_upper member (.inl .refl)

def Inserted (site : Site) (document : Document) (id : NodeId) : Prop :=
  document.parent? id = some site.container ∧ document.kind? id = some .ins ∧ ¬ site.doc.Holds id

private theorem Inserted.holds {document : Document} {id : NodeId} (inserted : site.Inserted document id) :
    document.Holds id :=
  holds_of_parent inserted.1

/-- Some children are still to be put back, the others are in their places. -/
structure Ready (site : Site) (rest : List NodeId) (state : Rebuilding) : Prop where
  among : rest.Sublist site.row
  linked : state.document.Linked
  leaves : state.document.LeafTexts
  holds : ∀ id, site.doc.Holds id → state.document.Holds id
  opened : ∀ id ∈ state.opened, state.document.kind? id = some .ins ∧ ¬ site.doc.Holds id
  distinct : state.opened.Nodup
  upward : ∀ id parent, state.document.parent? id = some parent → site.Upper id → site.Upper parent
  waiting : ∀ child ∈ rest, state.document.parent? child = none ∧ state.document.kind? child = site.doc.kind? child
  elsewhere : ∀ id, site.doc.Holds id → id ∉ site.row →
    state.document.parent? id = site.doc.parent? id ∧ state.document.kind? id = site.doc.kind? id
  rows : ∀ id, site.doc.Holds id → id ≠ site.container → state.document.childIds id = site.doc.childIds id
  attached : ∀ id, state.document.Holds id → ¬ site.doc.Holds id → state.document.parent? id ≠ none
  made : state.opened ≠ [] → ∃ id, site.Inserted state.document id

def target (site : Site) (state : Rebuilding) : NodeId := state.parent site.container

theorem target_eq (site : Site) (state : Rebuilding) : site.target state = site.container ∨ site.target state ∈ state.opened := by
  unfold target Rebuilding.parent
  cases state.opened with
  | nil => exact .inl rfl
  | cons id opened => exact .inr (List.mem_cons_self ..)

namespace Ready

variable {rest : List NodeId} {state : Rebuilding}

theorem start (site : Site) : site.Ready site.row { document := site.row.foldl Document.detach site.doc } := by
  have taken := site.linked.takenOut site.row
  have still : ∀ {id parent}, (site.row.foldl Document.detach site.doc).parent? id = some parent →
      site.doc.parent? id = some parent := by
    intro id parent under
    rw [taken.parent] at under
    split at under
    · cases under
    · exact under
  refine { among := .refl _, linked := taken.linked, leaves := ?leaves, holds := ?holds, opened := nofun,
           distinct := .nil, upward := ?upward, waiting := ?waiting, elsewhere := ?elsewhere, rows := ?rows
           attached := ?attached, made := fun some_ => absurd rfl some_ }
  case leaves =>
    intro id parent literal under
    rw [taken.kind]
    exact site.leaves id parent literal (still under)
  case holds =>
    intro id held
    rw [Holds, taken.size]
    exact held
  case upward =>
    rintro id parent under (within | new)
    · exact .inl (within.head (still under))
    · exact absurd (holds_of_parent (still under)) new
  case waiting =>
    intro child member
    rw [taken.parent, if_pos member]
    exact ⟨rfl, taken.kind child⟩
  case elsewhere =>
    intro id held outside
    rw [taken.parent, if_neg outside]
    exact ⟨rfl, taken.kind id⟩
  case rows =>
    intro id _ other
    exact (taken.childIds_eq site.linked id).trans (if_neg other)
  case attached =>
    intro id held new
    rw [Holds, taken.size] at held
    exact absurd held new

theorem holds_waiting (ready : site.Ready rest state) {child : NodeId} (member : child ∈ rest) :
    state.document.Holds child :=
  ready.holds child (site.linked.holds_of_mem_childIds (ready.among.subset member))

private theorem kind_container (ready : site.Ready rest state) :
    state.document.kind? site.container = site.doc.kind? site.container :=
  (ready.elsewhere site.container site.held container_notMem).2

theorem held_target (ready : site.Ready rest state) : state.document.Holds (site.target state) := by
  rcases site.target_eq state with same | member
  · rw [same]
    exact ready.holds _ site.held
  · exact holds_iff_kind.mpr ⟨_, (ready.opened _ member).1⟩

private theorem upper_target (ready : site.Ready rest state) : site.Upper (site.target state) := by
  rcases site.target_eq state with same | member
  · rw [same]
    exact .inl .refl
  · exact .inr (ready.opened _ member).2

private theorem ne_target (ready : site.Ready rest state) {id : NodeId} (held : site.doc.Holds id)
    (other : id ≠ site.container) : id ≠ site.target state := by
  rintro rfl
  rcases site.target_eq state with same | member
  · exact other same
  · exact (ready.opened _ member).2 held

theorem noText_target (ready : site.Ready rest state) (literal : String) :
    state.document.kind? (site.target state) ≠ some (.text literal) := by
  rcases site.target_eq state with same | member
  · rw [same, ready.kind_container]
    exact site.noText literal
  · rw [(ready.opened _ member).1]
    exact nofun

theorem inserted_appendNew (ready : site.Ready rest state) (kind : NodeKind) {id : NodeId}
    (inserted : site.Inserted state.document id) :
    site.Inserted (state.document.appendNew (site.target state) kind).2 id := by
  have held := ready.held_target
  rw [Inserted, ready.linked.parent?_appendNew held, ready.linked.kind?_appendNew held, if_neg inserted.holds.ne_new,
    if_neg inserted.holds.ne_new]
  exact inserted

theorem appendNew (ready : site.Ready rest state) (kind : NodeKind) :
    site.Ready rest { state with document := (state.document.appendNew (site.target state) kind).2 } := by
  have held := ready.held_target
  have parents := ready.linked.parent?_appendNew held kind
  have kinds := ready.linked.kind?_appendNew held kind
  refine { among := ready.among, linked := ready.linked.appendNew held kind
           leaves := ready.leaves.appendNew ready.linked held ready.noText_target kind
           holds := ?holds, opened := ?opened, distinct := ready.distinct, upward := ?upward, waiting := ?waiting,
           elsewhere := ?elsewhere, rows := ?rows, attached := ?attached
           made := fun some_ => (ready.made some_).imp fun _ => ready.inserted_appendNew kind }
  case holds =>
    exact fun id inside => holds_appendNew_iff.mpr (.inl (ready.holds id inside))
  case opened =>
    intro id member
    rw [kinds, if_neg (holds_iff_kind.mpr ⟨_, (ready.opened id member).1⟩).ne_new]
    exact ready.opened id member
  case upward =>
    intro id parent under upper
    rw [parents] at under
    split at under
    · cases under
      exact ready.upper_target
    · exact ready.upward id parent under upper
  case waiting =>
    intro child member
    have older := (ready.holds_waiting member).ne_new
    rw [parents, kinds, if_neg older, if_neg older]
    exact ready.waiting child member
  case elsewhere =>
    intro id inside outside
    have older := (ready.holds id inside).ne_new
    rw [parents, kinds, if_neg older, if_neg older]
    exact ready.elsewhere id inside outside
  case rows =>
    intro id inside other
    rw [ready.linked.childIds_appendNew held, if_neg (ready.ne_target inside other)]
    exact ready.rows id inside other
  case attached =>
    intro id inside new
    rw [parents]
    rcases holds_appendNew_iff.mp inside with present | rfl
    · rw [if_neg present.ne_new]
      exact ready.attached id present new
    · rw [if_pos rfl]
      exact Option.some_ne_none _

private theorem new_notMem (ready : site.Ready rest state) : (⟨state.document.size⟩ : NodeId) ∉ state.opened :=
  fun member => not_holds_new (holds_iff_kind.mpr ⟨_, (ready.opened _ member).1⟩)

theorem opening (ready : site.Ready rest state) :
    site.Ready rest ⟨(state.document.appendNew (site.target state) .ins).2, ⟨state.document.size⟩ :: state.opened⟩ := by
  have later := ready.appendNew .ins
  have held := ready.held_target
  have found := (ready.linked.kind?_appendNew held .ins ⟨state.document.size⟩).trans (if_pos rfl)
  have new : ¬ site.doc.Holds ⟨state.document.size⟩ := fun old => not_holds_new (ready.holds _ old)
  refine { later with
           opened := List.forall_mem_cons.mpr ⟨⟨found, new⟩, later.opened⟩
           distinct := ready.distinct.cons ready.new_notMem
           made := fun _ => ?_ }
  by_cases first : state.opened = []
  · have target : site.target state = site.container := by rw [target, Rebuilding.parent, first, List.headD_nil]
    have under := (ready.linked.parent?_appendNew held .ins ⟨state.document.size⟩).trans (if_pos rfl)
    exact ⟨_, under.trans (congrArg some target), found, new⟩
  · exact later.made first

theorem closing {document : Document} {id : NodeId} {opened : List NodeId}
    (ready : site.Ready rest ⟨document, id :: opened⟩) : site.Ready rest ⟨document, opened⟩ :=
  { ready with
    opened := fun other member => ready.opened other (List.mem_cons_of_mem _ member)
    distinct := (List.nodup_cons.mp ready.distinct).2
    made := fun _ => ready.made (List.cons_ne_nil id opened) }

section
variable {child : NodeId} (ready : site.Ready (child :: rest) state)
include ready

theorem orphan : state.document.parent? child = none := (ready.waiting child (List.mem_cons_self ..)).1

theorem kind_eq : state.document.kind? child = site.doc.kind? child := (ready.waiting child (List.mem_cons_self ..)).2

theorem member : child ∈ site.row := ready.among.subset (List.mem_cons_self ..)

private theorem other {id : NodeId} (member : id ∈ rest) : id ≠ child := by
  rintro rfl
  exact (List.nodup_cons.mp ((site.linked.nodup_childIds _).sublist ready.among)).1 member

theorem movable : state.document.Movable child (site.target state) := by
  have lower := not_upper ready.member
  have upward : ∀ id, site.Upper id → ¬ state.document.Ancestor child id := by
    intro id upper above
    induction above with
    | single under => exact lower (ready.upward _ _ under upper)
    | tail _ under ih => exact ih (ready.upward _ _ under upper)
  refine ⟨?_, upward _ ready.upper_target⟩
  rintro same
  exact lower (same ▸ ready.upper_target)

private theorem inserted_ne {document : Document} {id : NodeId} (inserted : site.Inserted document id) :
    id ≠ child := by
  rintro rfl
  exact inserted.2.2 (site.linked.holds_of_mem_childIds ready.member)

theorem inserted_appendChild {id : NodeId} (inserted : site.Inserted state.document id) :
    site.Inserted (state.document.appendChild (site.target state) child) id := by
  have held := ready.held_target
  have present := ready.holds_waiting (List.mem_cons_self ..)
  have different := ready.movable.1.symm
  rw [Inserted, ready.linked.parent?_appendChild held present different, if_neg (ready.inserted_ne inserted),
    ready.linked.kind?_appendChild held present different]
  exact inserted

theorem inserted_setKind (kind : NodeKind) {id : NodeId} (inserted : site.Inserted state.document id) :
    site.Inserted (state.document.setKind child kind) id := by
  rw [Inserted, (sameLinks_setKind child kind).parent, kind?_setKind, if_neg (ready.inserted_ne inserted)]
  exact inserted

theorem appendChild :
    site.Ready rest { state with document := state.document.appendChild (site.target state) child } := by
  have held := ready.held_target
  have present := ready.holds_waiting (List.mem_cons_self ..)
  have movable := ready.movable
  have parents := ready.linked.parent?_appendChild held present movable.1.symm
  have kinds := ready.linked.kind?_appendChild held present movable.1.symm
  refine { among := (List.sublist_cons_self _ _).trans ready.among
           linked := ready.linked.appendChild held present movable
           leaves := ?leaves, holds := ?holds, opened := ?opened, distinct := ready.distinct, upward := ?upward,
           waiting := ?waiting, elsewhere := ?elsewhere, rows := ?rows, attached := ?attached
           made := fun some_ => (ready.made some_).imp fun _ => ready.inserted_appendChild }
  case leaves =>
    intro id parent literal under
    rw [parents] at under
    rw [kinds]
    split at under
    · cases under
      exact ready.noText_target literal
    · exact ready.leaves id parent literal under
  case holds =>
    intro id inside
    rw [Holds, size_appendChild]
    exact ready.holds id inside
  case opened =>
    intro id member
    rw [kinds]
    exact ready.opened id member
  case upward =>
    intro id parent under upper
    rw [parents, if_neg fun same : id = child => not_upper ready.member (same ▸ upper)] at under
    exact ready.upward id parent under upper
  case waiting =>
    intro id member
    rw [parents, kinds, if_neg (ready.other member)]
    exact ready.waiting id (List.mem_cons_of_mem _ member)
  case elsewhere =>
    intro id inside outside
    rw [parents, kinds, if_neg fun same : id = child => outside (same ▸ ready.member)]
    exact ready.elsewhere id inside outside
  case rows =>
    intro id inside other
    rw [ready.linked.childIds_appendChild held present movable, if_neg (ready.ne_target inside other),
      List.erase_of_not_mem (ready.linked.notMem_childIds ready.orphan id)]
    exact ready.rows id inside other
  case attached =>
    intro id inside new
    rw [Holds, size_appendChild] at inside
    rw [parents]
    split
    · exact Option.some_ne_none _
    · exact ready.attached id inside new

theorem emptied {literal : String} (found : site.doc.kind? child = some (.text literal)) :
    site.Ready rest { state with document := state.document.setKind child (.text "") } := by
  have links : SameLinks state.document (state.document.setKind child (.text "")) := sameLinks_setKind ..
  have kinds : ∀ id, id ≠ child → (state.document.setKind child (.text "")).kind? id = state.document.kind? id :=
    fun id different => (kind?_setKind ..).trans (if_neg different)
  have isText : state.document.kind? child = some (.text literal) := ready.kind_eq.trans found
  refine { among := (List.sublist_cons_self _ _).trans ready.among, linked := links.linked ready.linked,
           leaves := ?leaves, holds := ?holds, opened := ?opened, distinct := ready.distinct, upward := ?upward,
           waiting := ?waiting, elsewhere := ?elsewhere, rows := ?rows, attached := ?attached
           made := fun some_ => (ready.made some_).imp fun _ => ready.inserted_setKind _ }
  case leaves =>
    intro id parent other under
    rw [links.parent] at under
    rw [kinds]
    · exact ready.leaves id parent other under
    · rintro rfl
      exact ready.leaves id parent literal under isText
  case holds =>
    intro id inside
    rw [Holds, setKind, size_modify]
    exact ready.holds id inside
  case opened =>
    intro id member
    rw [kinds]
    · exact ready.opened id member
    · rintro rfl
      exact (ready.opened id member).2 (site.linked.holds_of_mem_childIds ready.member)
  case upward =>
    intro id parent under
    rw [links.parent] at under
    exact ready.upward id parent under
  case waiting =>
    intro id member
    rw [links.parent, kinds id (ready.other member)]
    exact ready.waiting id (List.mem_cons_of_mem _ member)
  case elsewhere =>
    intro id inside outside
    rw [links.parent, kinds id fun same : id = child => outside (same ▸ ready.member)]
    exact ready.elsewhere id inside outside
  case rows =>
    intro id inside other
    rw [childIds_of_sameLinks links ready.linked]
    exact ready.rows id inside other
  case attached =>
    intro id inside new
    rw [Holds, setKind, size_modify] at inside
    rw [links.parent]
    exact ready.attached id inside new

end

end Ready

end Site

end MarkdownHtml.Document
