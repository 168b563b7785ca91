import MarkdownHtml.Document.Extended
import MarkdownHtml.Proofs.FootnotePasses
import MarkdownHtml.Proofs.InsertedSpacing

/-! The document that is rendered: a grammar tree has been placed, its footnotes are numbered, and the extensions have
been applied in any order. Each pass goes through nodes that were listed before its first edit, so each of its steps
keeps the order of whatever document it meets. -/

namespace MarkdownHtml.Document
open NodeTree

variable {doc after : Document} {types : List NodeType} {id : NodeId}

/-! The numbering of footnotes. -/

private theorem keeps_numberReference (state : Document × ReferenceCounts) (id : NodeId) :
    Keeps types state.1 (numberReference state id).1 := by
  unfold numberReference
  split
  next found => exact .setKind found rfl (by simp [NodeKind.type])
  · exact .refl state.1

private theorem keeps_numberDefinition (member : .footnoteDefinition ∈ types) (counts : ReferenceCounts)
    (state : NumberedDefinitions) (id : NodeId) :
    Keeps types state.document (numberDefinition counts state id).document := by
  unfold numberDefinition
  split
  next label _ _ found =>
    dsimp only
    split
    next count _ =>
      let settled := NodeKind.footnoteDefinition label (ReferenceCounts.number counts (Text.lowercase label)) count
      have renamed : Keeps types state.document (state.document.setKind id settled) :=
        .setKind found rfl (by simp [settled, NodeKind.type])
      have here : (state.document.setKind id settled).kind? id = some settled := by
        rw [kind?_setKind, if_pos rfl, found]
        rfl
      exact renamed.trans (.detach here nofun member)
    · exact .detach found nofun member
  · exact .refl state.document

/-- The definitions that are kept, in the order in which they are met. -/
theorem exists_numbered (counts : ReferenceCounts) (ids : List NodeId) (state : NumberedDefinitions) :
    ∃ kept : List NodeId, kept.Sublist ids ∧
      (ids.foldl (numberDefinition counts) state).numbered.map (·.2) = state.numbered.map (·.2) ++ kept := by
  induction ids generalizing state with
  | nil => exact ⟨[], .slnil, (List.append_nil _).symm⟩
  | cons id ids ih =>
    obtain ⟨kept, among, same⟩ := ih (numberDefinition counts state id)
    have here : (numberDefinition counts state id).numbered.map (·.2) = state.numbered.map (·.2) ++ [id] ∨
        (numberDefinition counts state id).numbered.map (·.2) = state.numbered.map (·.2) := by
      unfold numberDefinition
      split
      · dsimp only
        split
        · exact .inl List.map_append
        · exact .inr rfl
      · exact .inr rfl
    rw [List.foldl_cons, same]
    rcases here with taken | passed
    · exact ⟨id :: kept, among.cons_cons id, by rw [taken, List.append_assoc]; rfl⟩
    · exact ⟨kept, among.cons id, by rw [passed]⟩

structure Movables (doc : Document) (ids : List NodeId) : Prop where
  distinct : ids.Nodup
  orphans : ∀ id ∈ ids, doc.parent? id = none
  definitions : ∀ id ∈ ids, ∃ label number references, doc.kind? id = some (.footnoteDefinition label number references)

private theorem Movables.fits {ids : List NodeId} (movables : doc.Movables ids) (orderly : doc.Orderly)
    (member : id ∈ ids) : doc.Fits root id := by
  obtain ⟨label, number, references, found⟩ := movables.definitions id member
  have notRoot : id ≠ root := by
    rintro rfl
    cases found.symm.trans orderly.rooted.kind
  exact ⟨orderly.rooted.held, kind?_ne_text orderly.rooted.kind (by decide), holds_iff_kind.mpr ⟨_, found⟩,
    orderly.sheltered id (movables.orphans id member), ⟨notRoot, not_ancestor_of_top orderly.rooted.top⟩, notRoot⟩

private theorem keeps_foldl_appendChild (entries : List (Nat × NodeId)) (movables : doc.Movables (entries.map (·.2))) :
    Keeps [.text] doc (entries.foldl (fun doc entry => doc.appendChild root entry.2) doc) := by
  refine .of_orderly fun orderly => ?_
  induction entries generalizing doc with
  | nil => exact .refl doc
  | cons entry entries ih =>
    have fits := movables.fits orderly (List.mem_cons_self ..)
    have placed := fits.placed_last orderly.linked
    obtain ⟨fresh, distinct⟩ := List.nodup_cons.mp movables.distinct
    obtain ⟨label, number, references, found⟩ := movables.definitions entry.2 (List.mem_cons_self ..)
    have first : Keeps [.text] doc (doc.appendChild root entry.2) := by
      refine ⟨fun orderly => orderly.appendChild fits, fun orderly tidy => ?_⟩
      refine tidy.appendChild orderly.linked fits (kind?_ne_text found (by simp [NodeKind.type]) _) fun last _ => ?_
      rw [Beside, kindOf_eq found]
      refine NodeType.spaced_text_iff.mpr fun both => ?_
      cases both.2
    refine first.trans (ih ⟨distinct, fun id member => ?_, fun id member => ?_⟩ (first.orderly orderly))
    · rw [placed.parent, if_neg (ne_of_mem_of_not_mem member fresh)]
      exact movables.orphans id (List.mem_cons_of_mem _ member)
    · rw [placed.kind]
      exact movables.definitions id (List.mem_cons_of_mem _ member)

theorem exists_definition {key : String} (defines : doc.Defines key id) :
    ∃ label number references, doc.kind? id = some (.footnoteDefinition label number references) := by
  obtain ⟨kind, found, same⟩ := Option.bind_eq_some_iff.mp defines
  cases kind with
  | footnoteDefinition label number references => exact ⟨label, number, references, found⟩
  | _ => cases same

/-- Definitions may be moved to where a text is before them, as long as none stands beside a text before. -/
theorem Orderly.numberFootnotes (orderly : doc.Orderly) : doc.numberFootnotes.1.Orderly ∧
    (doc.Tidy [.text, .footnoteDefinition] → doc.numberFootnotes.1.Tidy [.text]) := by
  have distinct := orderly.linked.wellFormed.nodup_descendants orderly.rooted.held
  let first := (doc.descendants root).foldl numberReference (doc, {})
  let second := doc.definitions.foldl (numberDefinition first.2) { document := first.1 }
  let sorted := second.numbered.mergeSort fun one other => decide (one.1 ≤ other.1)
  have perm : sorted.Perm second.numbered := List.mergeSort_perm _ _
  have numbered : Numbered doc (doc.descendants root) first := numbered_all _ distinct
  have detached : Detached first.1 first.2 doc.definitions second := detached_all orderly.rooted numbered
  have before : Keeps [.text, .footnoteDefinition] doc second.document :=
    (Keeps.foldl Prod.fst keeps_numberReference _ (doc, {})).trans
      (.foldl NumberedDefinitions.document (keeps_numberDefinition (by decide) first.2) _ { document := first.1 })
  have among : ∀ id ∈ sorted.map (·.2), id ∈ doc.definitions ∧ ∃ key, doc.Defines key id ∧ doc.Referenced key :=
    fun id member => (numbered_detached numbered detached id).mp ((perm.map _).mem_iff.mp member)
  have movables : second.document.Movables (sorted.map (·.2)) := by
    refine ⟨?_, fun id member => ?_, fun id member => ?_⟩
    · obtain ⟨kept, fewer, same⟩ := exists_numbered first.2 doc.definitions { document := first.1 }
      refine ((perm.map _).trans (.of_eq same)).nodup_iff.mpr ?_
      exact (distinct.filter _).sublist fewer
    · rw [detached.parent, if_pos (among id member).1]
    · obtain ⟨_, key, defines, _⟩ := among id member
      exact exists_definition (((sameLabels_detached numbered detached).defines key id).mpr defines)
  have behind : Keeps [.text] second.document doc.numberFootnotes.1 := keeps_foldl_appendChild sorted movables
  refine ⟨behind.orderly (before.orderly orderly), fun tidy => ?_⟩
  exact behind.tidy (before.orderly orderly) ((before.tidy orderly tidy).mono (by decide))

/-! The extensions. -/

def shortened (doc : Document) (text : NodeId) (rest : List Char) : Document :=
  let doc := doc.setKind text (.text (String.ofList rest))
  if rest.isEmpty then doc.detach text else doc

theorem kind?_shortened {text : NodeId} (rest : List Char) (linked : doc.Linked) (different : id ≠ text) :
    (doc.shortened text rest).kind? id = doc.kind? id := by
  have links : SameLinks doc (doc.setKind text (.text (String.ofList rest))) := sameLinks_setKind ..
  have kind : (doc.setKind text (.text (String.ofList rest))).kind? id = doc.kind? id :=
    (kind?_setKind ..).trans (if_neg different)
  unfold shortened
  dsimp only
  split
  · rw [((links.linked linked).removed_detach text).kind, kind]
  · exact kind

private theorem keeps_shortened {text : NodeId} {literal : String} (found : doc.kind? text = some (.text literal))
    (rest : List Char) : Keeps [.text] doc (doc.shortened text rest) := by
  have links : SameLinks doc (doc.setKind text (.text (String.ofList rest))) := sameLinks_setKind ..
  have kinds : ∀ other, other ≠ text → (doc.setKind text (.text (String.ofList rest))).kind? other = doc.kind? other :=
    fun other different => (kind?_setKind ..).trans (if_neg different)
  have types := type_kindOf_setKind found (show (NodeKind.text (String.ofList rest)).type = _ from rfl)
  unfold shortened
  dsimp only
  split
  next blank =>
    refine ⟨fun orderly => Orderly.detach (orderly.setKind found rfl) ?_, fun orderly tidy => ?_⟩
    · rintro rfl
      cases found.symm.trans orderly.rooted.kind
    · have linked := links.linked orderly.linked
      refine (linked.removed_detach text).tidy (fun other parent different under => ?_) linked ?_ fun first second next => ?_
      · rw [kinds other different]
        exact tidy.filled other parent ((links.parent other).symm.trans under)
      · rw [types, kindOf_eq found]
        exact List.mem_singleton_self _
      · rw [Beside, types, types]
        exact tidy.spaced first second ((links.next first).symm.trans next)
  next some_ =>
    refine ⟨fun orderly => orderly.setKind found rfl, fun _ tidy => tidy.setKind found rfl fun _ _ same => some_ ?_⟩
    have empty_ : String.ofList rest = "" := NodeKind.text.inj same
    exact List.isEmpty_iff.mpr (by simpa using congrArg String.toList empty_)

private theorem keeps_attachTo (doc : Document) (image : NodeId) : Keeps [.text] doc (doc.attachTo image) := by
  refine .of_orderly fun orderly => ?_
  unfold attachTo
  split
  next destination title text isImage _ =>
    split
    next literal isText =>
      split
      next attributes rest _ =>
        have different : image ≠ text := by
          rintro rfl
          cases isImage.symm.trans isText
        have still := (kind?_shortened rest orderly.linked different).trans isImage
        exact (keeps_shortened isText rest).trans (.appendNew still (by simp [NodeKind.type]) (by simp [NodeKind.type]))
      · exact .refl doc
    · exact .refl doc
  · exact .refl doc

private theorem keeps_markItem (doc : Document) (item : NodeId) : Keeps [.text] doc (doc.markItem item) := by
  refine .of_orderly fun orderly => ?_
  unfold markItem
  split
  next paragraph isItem _ =>
    split
    next text _ _ =>
      split
      next literal isText =>
        split
        next checked rest _ =>
          have different : item ≠ text := by
            rintro rfl
            cases isItem.symm.trans isText
          have still := (kind?_shortened rest orderly.linked different).trans isItem
          exact (keeps_shortened isText rest).trans (.prependNew still (by simp [NodeKind.type]) (by simp [NodeKind.type]))
        · exact .refl doc
      · exact .refl doc
    · exact .refl doc
  · exact .refl doc

theorem keeps_applyExtension (doc : Document) (extension : Extension) :
    Keeps [.text] doc (doc.applyExtension extension).1 := by
  cases extension with
  | ins => exact keeps_markInserted doc
  | imageAttributes => exact .foldl id keeps_attachTo _ doc
  | taskList => exact .foldl id keeps_markItem _ doc
  | _ => exact .refl doc

theorem keeps_applyExtensions (doc : Document) (extensions : List Extension) :
    Keeps [.text] doc (doc.applyExtensions extensions).1 := by
  refine Keeps.foldl Prod.fst ?_ extensions (doc, [])
  exact fun state extension => keeps_applyExtension state.1 extension

/-- The document that is rendered. -/
def extended (blocks : List GrammarTree) (extensions : List Extension) : Document :=
  ((ofGrammar blocks).1.applyExtensions extensions).1

theorem orderly_extended (blocks : List GrammarTree) (extensions : List Extension) :
    (extended blocks extensions).Orderly :=
  (keeps_applyExtensions _ extensions).orderly (orderly_placed blocks).numberFootnotes.1

/-- No definition of a footnote comes to stand beside a text. -/
def DefinitionsApart (blocks : List GrammarTree) : Prop :=
  (NodeTree.node .document (joined (translateAll blocks))).Everywhere fun _ row => SpacedRow [.footnoteDefinition] row

instance : DecidablePred DefinitionsApart := fun blocks =>
  inferInstanceAs (Decidable ((NodeTree.node .document (joined (translateAll blocks))).Everywhere _))

private theorem tidy_extended {blocks : List GrammarTree} (filled : .text "" ∉ GrammarTree.kindsAll blocks)
    (apart : DefinitionsApart blocks) (extensions : List Extension) : (extended blocks extensions).Tidy [.text] := by
  have orderly := orderly_placed blocks
  have joins : Joins (· ≠ "") := fun first second left _ => by simp [left]
  have normal := fun {id} (held : (placed blocks).Holds id) =>
    normal_placed joins (fun literal member empty_ => filled (empty_ ▸ member)) held
  have placed : (placed blocks).Tidy [.text, .footnoteDefinition] := by
    refine orderly.tidy_of_rows (fun id held isText => ?_) fun id held => ?_
    · exact ((normal held).text "" (kindOf_eq isText)).1 rfl
    · exact (normal held).spaced.union (of_everywhere_placed apart held)
  obtain ⟨numbered, tidy⟩ := orderly.numberFootnotes
  exact (keeps_applyExtensions _ extensions).tidy numbered (tidy placed)

/-- Walks reach their ends: where they have as much fuel as there are nodes, more of it makes no difference. -/
structure WalksEnd (doc : Document) : Prop where
  siblings : ∀ id fuel, doc.Holds id → doc.size ≤ fuel → doc.chain fuel (some id) = doc.chain doc.size (some id)
  ancestors : ∀ id fuel, doc.size ≤ fuel → doc.ancestorsFrom fuel (doc.parent? id) = doc.ancestors id
  behind : ∀ top id fuel, doc.Holds id → doc.size ≤ fuel → doc.climb top fuel id = doc.behind top id
  descendants : ∀ id fuel, doc.Holds id → doc.size ≤ fuel → doc.walk id fuel (some id) = doc.descendants id

private theorem following_congr {link : NodeId → Option NodeId} {following : Nat → Option NodeId → List NodeId}
    (ended : ∀ fuel, following fuel none = [])
    (goes : ∀ fuel id, following (fuel + 1) (some id) = id :: following fuel (link id)) {rank : NodeId → Nat}
    (falls : ∀ id other, link id = some other → rank other < rank id) {first second : Nat} {id : NodeId}
    (left : rank id < first) (right : rank id < second) : following first (some id) = following second (some id) := by
  induction first generalizing second id with
  | zero => omega
  | succ first ih =>
    obtain ⟨second, rfl⟩ : ∃ smaller, second = smaller + 1 := ⟨second - 1, by omega⟩
    rw [goes, goes]
    cases step : link id with
    | none => rw [ended, ended]
    | some other =>
      have closer := falls id other step
      exact congrArg (id :: ·) (ih (by omega) (by omega))

private theorem WellFormed.walksEnd (wellFormed : doc.WellFormed) : doc.WalksEnd := by
  obtain ⟨rank, rises, bound⟩ := wellFormed.exists_depth
  obtain ⟨place, falls, few⟩ :=
    exists_rank (fun _ _ => wellFormed.linked.holds_of_follows) wellFormed.linked.noSiblingLoop
  refine ⟨fun id fuel held enough => ?_, fun id fuel enough => ?_, fun top id fuel held enough => ?_,
    fun id fuel held enough => ?_⟩
  · have less := few id held
    exact following_congr chain_none (fun _ _ => rfl) falls (by omega) less
  · have ended : ∀ fuel, doc.ancestorsFrom fuel none = [] := by intro fuel; cases fuel <;> rfl
    unfold Document.ancestors
    cases under : doc.parent? id with
    | none => rw [ended, ended]
    | some parent =>
      have less := bound parent (wellFormed.holds_parent under)
      exact following_congr ended (fun _ _ => rfl) rises (by omega) less
  · have less := bound id held
    exact climb_congr rises top (by omega) less
  · have some_ := wellFormed.length_subtree_le held
    have walked := wellFormed.walk_subtree id held .refl (fuel - (doc.subtree id).length)
    have ended : doc.walk id (fuel - (doc.subtree id).length) none = [] := by
      cases fuel - (doc.subtree id).length <;> rfl
    rw [Nat.sub_add_cancel (by omega), behind_top, ended, List.append_nil] at walked
    rw [walked, wellFormed.descendants_eq_subtree held]

/-- Whatever a grammar tree is and whichever extensions are applied to its document, the document that comes out is a
tree below its root, and walks over it end. -/
theorem wellFormed_extended (blocks : List GrammarTree) (extensions : List Extension) :
    (extended blocks extensions).WellFormed ∧ (extended blocks extensions).kind? root = some .document ∧
      (extended blocks extensions).Alone root ∧ (extended blocks extensions).WalksEnd := by
  have orderly := orderly_extended blocks extensions
  have wellFormed := orderly.linked.wellFormed
  exact ⟨wellFormed, orderly.rooted.kind, orderly.sheltered root orderly.rooted.top, wellFormed.walksEnd⟩

/-- The texts of a document are in order: none is empty or has children, and none stands behind another one. -/
theorem texts_extended {blocks : List GrammarTree} (filled : .text "" ∉ GrammarTree.kindsAll blocks)
    (apart : DefinitionsApart blocks) (extensions : List Extension) :
    ∀ id ∈ (extended blocks extensions).descendants root, ∀ literal,
      (extended blocks extensions).kind? id = some (.text literal) →
        literal ≠ "" ∧ (extended blocks extensions).childIds id = [] ∧
          ∀ next, (extended blocks extensions).next? id = some next →
            (extended blocks extensions).type? next ≠ some .text := by
  have orderly := orderly_extended blocks extensions
  have tidy := tidy_extended filled apart extensions
  intro id member literal found
  refine ⟨?_, orderly.leaves.childIds_eq orderly.linked found, fun next following isText => ?_⟩
  · rintro rfl
    have within := (orderly.linked.wellFormed.mem_descendants orderly.rooted.held).mp member
    rcases within_iff.mp within with rfl | above
    · cases found.symm.trans orderly.rooted.kind
    · obtain ⟨parent, under, _⟩ := ancestor_iff.mp above
      exact tidy.filled id parent under found
  · obtain ⟨kind, found', same⟩ := Option.map_eq_some_iff.mp isText
    refine NodeType.spaced_text_iff.mp (tidy.spaced id next following) ⟨?_, ?_⟩
    · rw [kindOf_eq found]
      rfl
    · rw [kindOf_eq found', same]

/-- Texts that meet, that are cut, and of which nothing is left behind a box or an image. -/
theorem texts_extended_mixed :
    let blocks : List GrammarTree := [
      .node .paragraph [.leaf (.text "a ++"), .node .other [.leaf (.text "b"), .leaf .softBreak], .leaf (.text "c++ d")],
      .node (.bulletList true '-') [.node .item [.node .paragraph [.leaf (.text "[x] ")]]],
      .node (.footnoteDefinition "n") [.node .paragraph [.leaf (.text "e")]],
      .node .paragraph [.leaf (.image "i" ""), .leaf (.text "\x7bwidth=1\x7d"), .leaf (.footnoteReference "N")]]
    let doc := extended blocks [.ins, .taskList, .imageAttributes, .ins]
    .text "" ∉ GrammarTree.kindsAll blocks ∧ DefinitionsApart blocks ∧
      ∀ id ∈ doc.descendants root, ∀ literal, doc.kind? id = some (.text literal) →
        literal ≠ "" ∧ doc.childIds id = [] ∧ ∀ next, doc.next? id = some next → doc.type? next ≠ some .text := by
  intro blocks doc
  have filled : .text "" ∉ GrammarTree.kindsAll blocks := by decide
  have apart : DefinitionsApart blocks := by decide
  exact ⟨filled, apart, texts_extended filled apart [.ins, .taskList, .imageAttributes, .ins]⟩

end MarkdownHtml.Document
