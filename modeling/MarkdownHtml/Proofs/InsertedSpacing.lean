import MarkdownHtml.Proofs.InsertedPieces
import MarkdownHtml.Proofs.OrderlyEdits

/-! Marking inserted text keeps texts apart. Each node that is open is the last child of the next one outwards, so what
is closed stands between the text before it and the text behind it, and a text that is cut has no text beside it. -/

namespace MarkdownHtml.Document

namespace Site

variable {site : Site} {rest : List NodeId} {state after : Rebuilding} {child : NodeId}

/-- What has been put back is tidy, and the open nodes are the last ones in their rows. -/
structure Tight (site : Site) (state : Rebuilding) : Prop where
  tidy : state.document.Tidy [.text]
  spine : (state.opened ++ [site.container]).IsChain fun inner outer => state.document.lastChild? outer = some inner

def OpenEnd (site : Site) (state : Rebuilding) : Prop :=
  ∀ last, state.document.lastChild? (site.target state) = some last → (state.document.kindOf last).type ≠ .text

private theorem head?_outward (site : Site) (state : Rebuilding) :
    (state.opened ++ [site.container]).head? = some (site.target state) := by
  unfold target Rebuilding.parent
  cases state.opened <;> rfl

namespace Ready

private theorem spine (ready : site.Ready rest state) (tight : site.Tight state) {document : Document}
    (same : ∀ id, id ≠ site.target state → document.lastChild? id = state.document.lastChild? id) :
    (state.opened ++ [site.container]).IsChain fun inner outer => document.lastChild? outer = some inner := by
  have distinct : (state.opened ++ [site.container]).Nodup :=
    List.nodup_append.mpr ⟨ready.distinct, List.nodup_singleton _, fun id member other isContainer same =>
      ready.container_notMem (List.mem_singleton.mp isContainer ▸ same ▸ member)⟩
  have spine := tight.spine
  obtain ⟨document, opened⟩ := state
  cases opened with
  | nil => exact .singleton _
  | cons inner opened =>
    obtain ⟨outside, _⟩ := List.nodup_cons.mp distinct
    rw [List.cons_append, List.isChain_cons] at spine ⊢
    have outer : ∀ {id}, id ∈ opened ++ [site.container] → id ≠ site.target ⟨document, inner :: opened⟩ := by
      rintro _ member rfl
      exact outside member
    refine ⟨fun next leading => ?_, spine.2.imp_of_mem_imp fun below above _ member linked => ?_⟩
    · exact (same next (outer (List.mem_of_mem_head? leading))).trans (spine.1 next leading)
    · exact (same above (outer member)).trans linked

section
variable (ready : site.Ready rest state) (orderly : state.document.Orderly)
include ready orderly

omit orderly in
private theorem lastChild?_appendNew (kind : NodeKind) (id : NodeId) :
    (state.document.appendNew (site.target state) kind).2.lastChild? id =
      if id = site.target state then some ⟨state.document.size⟩ else state.document.lastChild? id := by
  have placed := ready.linked.placed_new ready.held_target kind
  rw [placed.last, (sameLinks_alloc kind).last]
  simp only [true_and, Option.some.injEq, eq_comm]

private theorem orderly_appendNew (kind : NodeKind) : (state.document.appendNew (site.target state) kind).2.Orderly :=
  orderly.appendNew ready.held_target ready.noText_target kind

private theorem tight_appendNew (tight : site.Tight state) (kind : NodeKind) (filled : kind ≠ .text "")
    (apart : kind.type ≠ .text ∨ site.OpenEnd state) :
    site.Tight { state with document := (state.document.appendNew (site.target state) kind).2 } where
  tidy := by
    refine tight.tidy.appendNew orderly ready.held_target ready.noText_target filled fun last trailing => ?_
    refine NodeType.spaced_text_iff.mpr fun both => ?_
    exact apart.elim (fun noText => noText both.2) fun openEnd => openEnd last trailing both.1
  spine := ready.spine tight fun id other => (ready.lastChild?_appendNew kind id).trans (if_neg other)

private theorem pushPiece_tight (piece : List Char) :
    (state.pushPiece site.container piece).document.Orderly ∧
      (site.Tight state → site.OpenEnd state → site.Tight (state.pushPiece site.container piece)) := by
  unfold Rebuilding.pushPiece
  split
  · exact ⟨orderly, fun tight _ => tight⟩
  next some_ =>
    have filled : NodeKind.text (String.ofList piece) ≠ .text "" := by
      intro same
      have empty_ : String.ofList piece = "" := NodeKind.text.inj same
      exact some_ (List.isEmpty_iff.mpr (by simpa using congrArg String.toList empty_))
    exact ⟨ready.orderly_appendNew orderly _, fun tight openEnd => ready.tight_appendNew orderly tight _ filled (.inr openEnd)⟩

private theorem pushDelimiter_tight {delimiter : Delimiter} {depth : Nat}
    (shift : delimiter.shift state.opened.length = some depth) :
    (state.pushDelimiter site.container delimiter).document.Orderly ∧
      (site.Tight state → site.Tight (state.pushDelimiter site.container delimiter) ∧
        site.OpenEnd (state.pushDelimiter site.container delimiter)) := by
  obtain ⟨text, offset, opens⟩ := delimiter
  cases opens with
  | true =>
    have last := ready.lastChild?_appendNew .ins
    refine ⟨ready.orderly_appendNew orderly .ins, fun tight => ⟨⟨?_, ?_⟩, fun below trailing => ?_⟩⟩
    · exact (ready.tight_appendNew orderly tight .ins nofun (.inl (by decide))).tidy
    · refine List.isChain_cons.mpr ⟨fun next leading => ?_,
        ready.spine tight fun id other => (last id).trans (if_neg other)⟩
      have first : site.target state = next := Option.some.inj ((head?_outward site state).symm.trans leading)
      exact (last next).trans (if_pos first.symm)
    · have unheld : state.document.lastChild? ⟨state.document.size⟩ = none :=
        Option.eq_none_iff_forall_ne_some.mpr fun _ found =>
          not_holds_new (ready.linked.wellFormed.holds_parent ((ready.linked.last _ _).mp found).1)
      have bare := (last ⟨state.document.size⟩).trans (if_neg ready.held_target.ne_new.symm)
      cases trailing.symm.trans (bare.trans unheld)
  | false =>
    obtain ⟨document, opened⟩ := state
    cases opened with
    | nil => cases shift
    | cons id opened =>
      refine ⟨orderly, fun tight => ⟨⟨tight.tidy, (List.isChain_cons.mp tight.spine).2⟩, fun last trailing => ?_⟩⟩
      have here := (List.isChain_cons.mp tight.spine).1 _ (head?_outward site ⟨document, opened⟩)
      obtain rfl : last = id := Option.some.inj (trailing.symm.trans here)
      have isInserted : document.kindOf last = .ins := kindOf_eq (ready.opened last (List.mem_cons_self ..)).1
      change (document.kindOf last).type ≠ .text
      rw [isInserted]
      decide

private theorem pushPieces_tight {start : Nat} {letters : List Char} {delimiters : List Delimiter}
    (cuts : Cuts start letters delimiters) {depth : Nat}
    (shift : delimiters.foldlM Delimiter.shift state.opened.length = some depth) :
    (state.pushPieces site.container start letters delimiters).document.Orderly ∧
      (site.Tight state → site.OpenEnd state →
        site.Tight (state.pushPieces site.container start letters delimiters)) := by
  induction cuts generalizing state with
  | done start letters => exact ready.pushPiece_tight orderly letters
  | @cut start letters delimiter delimiters before here _ ih =>
    obtain ⟨mid, first, later⟩ := Option.bind_eq_some_iff.mp shift
    have piece := ready.pushPiece spelling (fun _ => []) before
    rw [Option.some.inj piece.depth] at first
    have plus := piece.ready.pushDelimiter spelling (fun _ => []) first
    have opened := plus.depth
    rw [List.foldlM_cons, first] at opened
    rw [Option.some.inj opened] at later
    obtain ⟨afterPiece, tightPiece⟩ := ready.pushPiece_tight orderly before
    obtain ⟨afterPlus, tightPlus⟩ := piece.ready.pushDelimiter_tight afterPiece first
    obtain ⟨last, tightLast⟩ := ih plus.ready afterPlus later
    rw [pushPieces_cut state site.container here]
    refine ⟨last, fun tight openEnd => ?_⟩
    obtain ⟨tight, openEnd⟩ := tightPlus (tightPiece tight openEnd)
    exact tightLast tight openEnd

end

section
variable (ready : site.Ready (child :: rest) state) (orderly : state.document.Orderly) (whole : site.doc.Orderly)
include ready orderly whole

private theorem fits : state.document.Fits (site.target state) child where
  held := ready.held_target
  noText := ready.noText_target
  present := ready.holds_waiting (List.mem_cons_self ..)
  alone := orderly.sheltered child ready.orphan
  movable := ready.movable
  notRoot := by
    rintro rfl
    cases whole.rooted.top.symm.trans (site.linked.parent_of_mem_childIds ready.member)

private theorem putBack_tight :
    (state.document.appendChild (site.target state) child).Orderly ∧
      (site.Tight state → site.doc.kind? child ≠ some (.text "") →
        ((site.doc.kindOf child).type = .text → site.OpenEnd state) →
        site.Tight { state with document := state.document.appendChild (site.target state) child } ∧
          ((site.doc.kindOf child).type ≠ .text →
            site.OpenEnd { state with document := state.document.appendChild (site.target state) child })) := by
  have fits := ready.fits orderly whole
  have placed := fits.placed_last ready.linked
  have kind : state.document.kindOf child = site.doc.kindOf child := kindOf_congr ready.kind_eq
  have last : ∀ id, (state.document.appendChild (site.target state) child).lastChild? id =
      if id = site.target state then some child else state.document.lastChild? id := by
    intro id
    rw [placed.last]
    simp only [true_and, Option.some.injEq, eq_comm]
  refine ⟨orderly.appendChild fits, fun tight filled openEnd => ⟨⟨?_, ?_⟩, fun noText below trailing => ?_⟩⟩
  · refine tight.tidy.appendChild ready.linked fits (ready.kind_eq ▸ filled) fun below trailing => ?_
    rw [Beside, kind]
    exact NodeType.spaced_text_iff.mpr fun both => openEnd both.2 below trailing both.1
  · exact ready.spine tight fun id other => (last id).trans (if_neg other)
  · obtain rfl : child = below := Option.some.inj ((if_pos rfl).symm.trans ((last _).symm.trans trailing))
    have same : (state.document.appendChild (site.target state) child).kindOf child = state.document.kindOf child :=
      kindOf_congr (placed.kind child)
    rw [same, kind]
    exact noText

private theorem pushChild_tight {delimiters : List Delimiter}
    (cuts : delimitersOf delimiters child ≠ [] → ∃ literal,
      site.doc.kind? child = some (.text literal) ∧ Cuts 0 literal.toList (delimitersOf delimiters child))
    {depth : Nat} (shift : (delimitersOf delimiters child).foldlM Delimiter.shift state.opened.length = some depth) :
    (state.pushChild site.container delimiters child).document.Orderly ∧
      (site.Tight state → site.doc.kind? child ≠ some (.text "") →
        ((site.doc.kindOf child).type = .text → site.OpenEnd state) →
        site.Tight (state.pushChild site.container delimiters child) ∧
          ((site.doc.kindOf child).type ≠ .text → site.OpenEnd (state.pushChild site.container delimiters child))) := by
  unfold Rebuilding.pushChild
  cases splits : delimitersOf delimiters child with
  | nil => exact ready.putBack_tight orderly whole
  | cons first later =>
    rw [splits] at cuts shift
    obtain ⟨literal, found, cuts⟩ := cuts (List.cons_ne_nil first later)
    have isText : state.document.kind? child = some (.text literal) := ready.kind_eq.trans found
    have links : SameLinks state.document (state.document.setKind child (.text "")) := sameLinks_setKind ..
    have emptied : (state.document.setKind child (.text "")).Orderly := orderly.setKind isText rfl
    simp only [ready.kind_eq, found]
    obtain ⟨last, tightLast⟩ := (ready.emptied found).pushPieces_tight emptied cuts shift
    refine ⟨last, fun tight _ openEnd => ⟨tightLast ⟨?_, ?_⟩ fun below trailing => ?_, fun noText => ?_⟩⟩
    · refine tight.tidy.setKind isText rfl fun parent under => ?_
      cases ready.orphan.symm.trans under
    · exact tight.spine.imp fun inner outer below => (links.last outer).trans below
    · have types := type_kindOf_setKind isText (show (NodeKind.text "").type = _ from rfl) below
      have before := openEnd (by rw [kindOf_eq found]; rfl) below ((links.last _).symm.trans trailing)
      exact fun endsText => before (types.symm.trans endsText)
    · rw [kindOf_eq found] at noText
      exact absurd rfl noText

end

/-- One child after the other is put back. -/
theorem pushChildren_tight {delimiters : List Delimiter} (ready : site.Ready rest state)
    (orderly : state.document.Orderly) (whole : site.doc.Orderly)
    (cuts : ∀ child ∈ site.row, delimitersOf delimiters child ≠ [] → ∃ literal,
      site.doc.kind? child = some (.text literal) ∧ Cuts 0 literal.toList (delimitersOf delimiters child))
    {depth : Nat} (shift : (rest.flatMap (delimitersOf delimiters)).foldlM Delimiter.shift state.opened.length =
      some depth) :
    (rest.foldl (Rebuilding.pushChild site.container delimiters) state).document.Orderly ∧
      (site.Tight state → (∀ child ∈ rest, site.doc.kind? child ≠ some (.text "")) →
        rest.IsChain (site.doc.Beside [.text]) →
        (∀ child ∈ rest.head?, (site.doc.kindOf child).type = .text → site.OpenEnd state) →
        site.Tight (rest.foldl (Rebuilding.pushChild site.container delimiters) state)) := by
  induction rest generalizing state with
  | nil => exact ⟨orderly, fun tight _ _ _ => tight⟩
  | cons child rest ih =>
    rw [List.flatMap_cons, List.foldlM_append] at shift
    obtain ⟨mid, first, later⟩ := Option.bind_eq_some_iff.mp shift
    have here := ready.pushChild spelling (fun _ => []) (cuts child ready.member) first
    rw [Option.some.inj (first.symm.trans here.depth)] at later
    obtain ⟨next, tightNext⟩ := ready.pushChild_tight orderly whole (cuts child ready.member) first
    obtain ⟨last, tightLast⟩ := ih here.ready next later
    refine ⟨last, fun tight filled spaced openEnd => ?_⟩
    obtain ⟨filledHere, filled⟩ := List.forall_mem_cons.mp filled
    obtain ⟨apart, spaced⟩ := List.isChain_cons.mp spaced
    obtain ⟨tight, openBehind⟩ := tightNext tight filledHere (openEnd child rfl)
    refine tightLast tight filled spaced fun other leading isText => openBehind fun hereText => ?_
    exact NodeType.spaced_text_iff.mp (apart other leading) ⟨hereText, isText⟩

end Ready

private theorem tight_takenOut (tidy : site.doc.Tidy [.text])
    (orderly : (site.row.foldl Document.detach site.doc).Orderly) :
    site.Tight { document := site.row.foldl Document.detach site.doc } := by
  have taken := site.linked.takenOut site.row
  refine ⟨⟨fun id parent under => ?_, fun first second => ?_⟩, .singleton _⟩
  · rw [taken.parent] at under
    rw [taken.kind]
    split at under
    · cases under
    · exact tidy.filled id parent under
  · refine orderly.of_rows (Beside _ [.text]) fun parent _ => ?_
    rw [taken.childIds_eq site.linked]
    split
    · exact .nil
    · exact (tidy.rows site.linked parent).imp fun first second spaced =>
        spaced.congr (taken.kind first) (taken.kind second)

/-- The children of a container are taken out and put back. -/
theorem keeps_rebuilt (site : Site) :
    Keeps [.text] site.doc (site.doc.rebuildWithInserted site.container site.delimiters) := by
  change Keeps [.text] site.doc site.last.document
  obtain ⟨_, balanced, cuts⟩ := site.linked.matched site.container
  have taken := site.linked.takenOut site.row
  have start : site.doc.Orderly → (site.row.foldl Document.detach site.doc).Orderly := fun whole =>
    whole.foldl_detach (site.linked.notMem_childIds whole.rooted.top site.container)
  have put := fun whole => (Ready.start site).pushChildren_tight (start whole) whole cuts (balanced _)
  refine ⟨fun whole => (put whole).1, fun whole tidy => ?_⟩
  refine ((put whole).2 (tight_takenOut tidy (start whole)) ?_ (tidy.rows site.linked site.container) ?_).tidy
  · exact fun child member => tidy.filled child site.container (site.linked.parent_of_mem_childIds member)
  · intro _ _ _ last trailing
    have bare : (site.row.foldl Document.detach site.doc).childIds site.container = [] :=
      (taken.childIds_eq site.linked site.container).trans (if_pos rfl)
    have none_ := taken.linked.getLast?_childIds site.container
    rw [bare] at none_
    cases none_.trans trailing

end Site

private theorem keeps_insertInto (state : Document × List Event) (container : NodeId) :
    Keeps [.text] state.1 (insertInto state container).1 := by
  refine .of_orderly fun orderly => ?_
  obtain ⟨doc, events⟩ := state
  cases found : doc.matchDelimiters container with
  | nil =>
    simp only [insertInto, found]
    exact .refl doc
  | cons first rest =>
    have some_ : doc.childIds container ≠ [] := by
      intro bare
      rw [matchDelimiters, bare] at found
      cases found
    obtain ⟨child, member⟩ := List.exists_mem_of_ne_nil _ some_
    have held := orderly.linked.wellFormed.holds_parent (orderly.linked.parent_of_mem_childIds member)
    have noText : ∀ literal, doc.kind? container ≠ some (.text literal) := fun literal isText =>
      some_ (orderly.leaves.childIds_eq orderly.linked isText)
    have kept := Site.keeps_rebuilt ⟨doc, doc, container, orderly.linked, orderly.leaves, held, noText, fun _ => id⟩
    simp only [insertInto, found]
    rwa [Site.delimiters, found] at kept

theorem keeps_markInserted (doc : Document) : Keeps [.text] doc doc.markInserted.1 :=
  .foldl Prod.fst keeps_insertInto _ (doc, [])

end MarkdownHtml.Document
