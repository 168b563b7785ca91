import MarkdownHtml.Proofs.InsertedSites
import MarkdownHtml.Proofs.TranslatedRows

/-! What the passes over a document rely on and keep: its links agree, its root is at the top, nodes without a parent
have no siblings, and no text has children. Beside that it is followed where texts stand in their rows. An edit changes
one gap, so only the neighbours at this gap are looked at. -/

namespace MarkdownHtml

namespace NodeType

variable {types : List NodeType} {first middle second : NodeType}

theorem spaced_text_iff : Spaced [.text] first second ↔ ¬ (first = .text ∧ second = .text) := by
  simp only [Spaced, List.mem_singleton]
  constructor
  · exact fun spaced both => spaced.1 both.1 both.2
  · exact fun notBoth => ⟨fun left right => notBoth ⟨left, right⟩, fun right left => notBoth ⟨left, right⟩⟩

theorem Spaced.mono {fewer : List NodeType} (among : fewer ⊆ types) (spaced : Spaced types first second) :
    Spaced fewer first second :=
  ⟨fun isText member => spaced.1 isText (among member), fun isText member => spaced.2 isText (among member)⟩

private theorem Spaced.across (member : middle ∈ types) (left : Spaced types first middle)
    (right : Spaced types middle second) : Spaced types first second :=
  ⟨fun isText => absurd member (left.1 isText), fun isText => absurd member (right.2 isText)⟩

end NodeType

namespace Document
open NodeTree

variable {doc mid after : Document} {types : List NodeType} {id parent child : NodeId} {left right : Option NodeId}

def Sheltered (doc : Document) : Prop := ∀ id, doc.parent? id = none → doc.Alone id

structure Orderly (doc : Document) : Prop where
  rooted : doc.Rooted
  leaves : doc.LeafTexts
  sheltered : doc.Sheltered

/-- Two nodes that may stand side by side. -/
def Beside (doc : Document) (types : List NodeType) (first second : NodeId) : Prop :=
  NodeType.Spaced types (doc.kindOf first).type (doc.kindOf second).type

/-- No text in a row is empty, and none stands beside one of the given types. -/
structure Tidy (types : List NodeType) (doc : Document) : Prop where
  filled : ∀ id parent, doc.parent? id = some parent → doc.kind? id ≠ some (.text "")
  spaced : ∀ first second, doc.next? first = some second → doc.Beside types first second

theorem Orderly.linked (orderly : doc.Orderly) : doc.Linked := orderly.rooted.linked

theorem Tidy.mono {fewer : List NodeType} (tidy : doc.Tidy types) (among : fewer ⊆ types) : doc.Tidy fewer :=
  ⟨tidy.filled, fun first second found => (tidy.spaced first second found).mono among⟩

theorem kindOf_congr (same : after.kind? id = doc.kind? id) : after.kindOf id = doc.kindOf id := by
  rw [kindOf, same, kindOf]

theorem kind?_ne_text {kind : NodeKind} (found : doc.kind? id = some kind) (noText : kind.type ≠ .text)
    (literal : String) : doc.kind? id ≠ some (.text literal) := by
  intro isText
  cases found.symm.trans isText
  exact noText rfl

theorem Beside.congr {first second : NodeId} (beside : doc.Beside types first second)
    (left : after.kind? first = doc.kind? first) (right : after.kind? second = doc.kind? second) :
    after.Beside types first second := by
  rwa [Beside, kindOf_congr left, kindOf_congr right]

theorem kind?_alloc (kind : NodeKind) (other : NodeId) :
    (doc.alloc kind).2.kind? other = if other = ⟨doc.size⟩ then some kind else doc.kind? other := by
  rw [kind?, node?_alloc]
  split <;> rfl

private theorem SameLinks.sheltered (same : SameLinks doc after) (sheltered : doc.Sheltered) : after.Sheltered := by
  intro id orphan
  obtain ⟨above, leading, trailing⟩ := sheltered id ((same.parent id).symm.trans orphan)
  exact ⟨(same.parent id).trans above, (same.previous id).trans leading, (same.next id).trans trailing⟩

/-! A node that is taken out of its row. -/

private theorem Removed.sheltered (removed : Removed doc after id) (linked : doc.Linked) (sheltered : doc.Sheltered) :
    after.Sheltered := by
  intro other orphan
  by_cases here : other = id
  · exact here ▸ removed.alone
  · rw [removed.parent, if_neg here] at orphan
    obtain ⟨_, leading, trailing⟩ := sheltered other orphan
    refine ⟨(removed.parent other).trans (by rw [if_neg here, orphan]), ?_, ?_⟩
    · rw [removed.previous, if_neg here, if_neg, leading]
      intro found
      rw [(linked.inverse id other).mp found] at leading
      cases leading
    · rw [removed.next, if_neg here, if_neg, trailing]
      intro found
      rw [(linked.inverse other id).mpr found] at trailing
      cases trailing

private theorem Removed.orderly (removed : Removed doc after id) (orderly : doc.Orderly) (notRoot : id ≠ root) :
    after.Orderly := by
  obtain ⟨⟨linked, held, top, kind⟩, leaves, sheltered⟩ := orderly
  refine ⟨⟨removed.linked linked, (removed.holds root).mpr held, ?_, (removed.kind root).trans kind⟩, ?_,
    removed.sheltered linked sheltered⟩
  · rw [removed.parent, if_neg notRoot.symm, top]
  · intro child parent literal under
    rw [removed.parent] at under
    rw [removed.kind]
    split at under
    · cases under
    · exact leaves child parent literal under

theorem Removed.tidy (removed : Removed doc after id)
    (filled : ∀ other parent, other ≠ id → doc.parent? other = some parent → doc.kind? other ≠ some (.text ""))
    (linked : doc.Linked) (member : (doc.kindOf id).type ∈ types)
    (spaced : ∀ first second, doc.next? first = some second → doc.Beside types first second) : after.Tidy types where
  filled other parent under := by
    rw [removed.parent] at under
    rw [removed.kind]
    split at under
    · cases under
    next different => exact filled other parent different under
  spaced first second found := by
    refine Beside.congr ?_ (removed.kind first) (removed.kind second)
    rw [removed.next] at found
    split at found
    · cases found
    · split at found
      next before =>
        exact (spaced first id ((linked.inverse first id).mpr before)).across member (spaced id second found)
      · exact spaced first second found

/-! A node that is put into a gap below a parent. -/

private theorem Placed.sheltered (placed : Placed doc after (some parent) left right id)
    (gap : doc.Gap (some parent) left right) (sheltered : doc.Sheltered) : after.Sheltered := by
  intro other orphan
  have different : other ≠ id := by
    rintro rfl
    rw [placed.parent, if_pos rfl] at orphan
    cases orphan
  rw [placed.parent, if_neg different] at orphan
  obtain ⟨_, leading, trailing⟩ := sheltered other orphan
  have notSibling : doc.parent? other ≠ some parent := fun under => nomatch orphan.symm.trans under
  refine ⟨(placed.parent other).trans (by rw [if_neg different, orphan]), ?_, ?_⟩
  · rw [placed.previous, if_neg different, if_neg fun same => notSibling (gap.before other same).2, leading]
  · rw [placed.next, if_neg different, if_neg fun same => notSibling (gap.behind other same).2, trailing]

private theorem Placed.orderly (placed : Placed doc after (some parent) left right id) (orderly : doc.Orderly)
    (linked : after.Linked) (gap : doc.Gap (some parent) left right)
    (noText : ∀ literal, doc.kind? parent ≠ some (.text literal)) (notRoot : id ≠ root) : after.Orderly := by
  obtain ⟨⟨_, held, top, kind⟩, leaves, sheltered⟩ := orderly
  refine ⟨⟨linked, ?_, ?_, (placed.kind root).trans kind⟩, ?_, placed.sheltered gap sheltered⟩
  · exact holds_iff_kind.mpr ⟨_, (placed.kind root).trans kind⟩
  · rw [placed.parent, if_neg notRoot.symm, top]
  · intro child above literal under
    rw [placed.parent] at under
    rw [placed.kind]
    split at under
    · cases under
      exact noText literal
    · exact leaves child above literal under

private theorem Placed.tidy (placed : Placed doc after (some parent) left right id) (tidy : doc.Tidy types)
    (filled : doc.kind? id ≠ some (.text ""))
    (behind : ∀ other, left = some other → doc.Beside types other id)
    (before : ∀ other, right = some other → doc.Beside types id other) : after.Tidy types where
  filled other above under := by
    rw [placed.parent] at under
    rw [placed.kind]
    split at under
    next same => exact same ▸ filled
    · exact tidy.filled other above under
  spaced first second found := by
    refine Beside.congr ?_ (placed.kind first) (placed.kind second)
    rw [placed.next] at found
    split at found
    next same => exact same ▸ before second found
    · split at found
      next last =>
        cases found
        exact behind first last
      · exact tidy.spaced first second found

private theorem Linked.lastChild?_eq_none (linked : doc.Linked) (leading : doc.firstChild? parent = none) :
    doc.lastChild? parent = none := by
  have both := linked.wellFormed.firstWithLast parent
  rw [leading] at both
  simpa using both

private theorem Removed.sameLinks (removed : Removed doc after id) (alone : doc.Alone id) : SameLinks doc after where
  parent other := by
    rw [removed.parent]
    split
    next same => rw [same, alone.parent]
    · rfl
  previous other := by
    rw [removed.previous]
    split
    next same => rw [same, alone.previous]
    · rw [alone.next, if_neg nofun]
  next other := by
    rw [removed.next]
    split
    next same => rw [same, alone.next]
    · rw [alone.previous, if_neg nofun]
  first other := by rw [removed.first, alone.parent, if_neg fun both => nomatch both.2]
  last other := by rw [removed.last, alone.parent, if_neg fun both => nomatch both.2]

theorem Placed.congr {above : Option NodeId} (placed : Placed mid after above left right id) (same : SameLinks doc mid)
    (kinds : ∀ id, mid.kind? id = doc.kind? id) : Placed doc after above left right id where
  parent other := by rw [placed.parent, same.parent]
  previous other := by rw [placed.previous, same.previous]
  next other := by rw [placed.next, same.next]
  first other := by rw [placed.first, same.first]
  last other := by rw [placed.last, same.last]
  kind other := (placed.kind other).trans (kinds other)

private theorem Linked.placed_alone (linked : doc.Linked) (held : doc.Holds parent) (present : doc.Holds child)
    (alone : doc.Alone child) (different : parent ≠ child) :
    Placed doc (doc.appendChild parent child) (some parent) (doc.lastChild? parent) none child := by
  have removed := linked.removed_detach child
  have same := removed.sameLinks alone
  have placed := linked.placed_detached held present different
  rw [same.last] at placed
  exact placed.congr same removed.kind

theorem alone_new (kind : NodeKind) : (doc.alloc kind).2.Alone ⟨doc.size⟩ := by
  have links : SameLinks doc (doc.alloc kind).2 := sameLinks_alloc kind
  have free : ¬ doc.Holds ⟨doc.size⟩ := not_holds_new
  refine ⟨?_, ?_, ?_⟩ <;> refine Option.eq_none_iff_forall_ne_some.mpr fun other found => free ?_
  · exact holds_of_parent ((links.parent _).symm.trans found)
  · exact holds_of_previous ((links.previous _).symm.trans found)
  · exact holds_of_next ((links.next _).symm.trans found)

theorem Linked.placed_new (linked : doc.Linked) (held : doc.Holds parent) (kind : NodeKind) :
    Placed (doc.alloc kind).2 (doc.appendNew parent kind).2 (some parent) ((doc.alloc kind).2.lastChild? parent) none
      ⟨doc.size⟩ :=
  (linked.alloc kind).placed_alone (holds_alloc held) (holds_alloc_new kind) (alone_new kind) held.ne_new

structure Fits (doc : Document) (parent child : NodeId) : Prop where
  held : doc.Holds parent
  noText : ∀ literal, doc.kind? parent ≠ some (.text literal)
  present : doc.Holds child
  alone : doc.Alone child
  movable : doc.Movable child parent
  notRoot : child ≠ root

namespace Fits

theorem placed_last (fits : doc.Fits parent child) (linked : doc.Linked) :
    Placed doc (doc.appendChild parent child) (some parent) (doc.lastChild? parent) none child :=
  linked.placed_alone fits.held fits.present fits.alone fits.movable.1.symm

theorem placed_first (fits : doc.Fits parent child) (linked : doc.Linked) :
    Placed doc (doc.prependChild parent child) (some parent) none (doc.firstChild? parent) child := by
  unfold prependChild
  cases leading : doc.firstChild? parent with
  | none =>
    have placed := fits.placed_last linked
    rwa [linked.lastChild?_eq_none leading] at placed
  | some first =>
    obtain ⟨under, start⟩ := (linked.first parent first).mp leading
    have removed := linked.removed_detach child
    have same := removed.sameLinks fits.alone
    have different : first ≠ child := by
      rintro rfl
      rw [fits.alone.parent] at under
      cases under
    have placed := placed_insertBefore rfl (removed.linked linked) removed.alone ((removed.holds child).mpr fits.present)
      ((removed.holds first).mpr (holds_of_parent under)) different
    rw [same.parent, same.previous, under, start] at placed
    exact placed.congr same removed.kind

theorem notFirst (fits : doc.Fits parent child) (linked : doc.Linked) : doc.firstChild? parent ≠ some child := by
  intro leading
  have under := ((linked.first parent child).mp leading).1
  rw [fits.alone.parent] at under
  cases under

end Fits

theorem Linked.gap_start (linked : doc.Linked) (parent : NodeId) :
    doc.Gap (some parent) none (doc.firstChild? parent) := by
  cases leading : doc.firstChild? parent with
  | none =>
    have gap := linked.gap_end parent
    rwa [linked.lastChild?_eq_none leading] at gap
  | some first =>
    obtain ⟨under, start⟩ := (linked.first parent first).mp leading
    have gap := linked.gap_before first
    rwa [under, start] at gap

namespace Orderly

theorem detach (orderly : doc.Orderly) (notRoot : id ≠ root) : (doc.detach id).Orderly :=
  (orderly.linked.removed_detach id).orderly orderly notRoot

theorem foldl_detach {ids : List NodeId} (orderly : doc.Orderly) (notRoot : root ∉ ids) :
    (ids.foldl Document.detach doc).Orderly := by
  induction ids generalizing doc with
  | nil => exact orderly
  | cons id ids ih =>
    obtain ⟨here, later⟩ := List.ne_and_not_mem_of_not_mem_cons notRoot
    exact ih (orderly.detach here.symm) later

theorem appendChild (orderly : doc.Orderly) (fits : doc.Fits parent child) : (doc.appendChild parent child).Orderly :=
  (fits.placed_last orderly.linked).orderly orderly (orderly.linked.appendChild fits.held fits.present fits.movable)
    (orderly.linked.gap_end parent) fits.noText fits.notRoot

private theorem prependChild (orderly : doc.Orderly) (fits : doc.Fits parent child) :
    (doc.prependChild parent child).Orderly :=
  (fits.placed_first orderly.linked).orderly orderly
    (orderly.linked.prependChild fits.held fits.present fits.movable (fits.notFirst orderly.linked))
    (orderly.linked.gap_start parent) fits.noText fits.notRoot

theorem setKind (orderly : doc.Orderly) {old new : NodeKind} (found : doc.kind? id = some old)
    (same : new.type = old.type) : (doc.setKind id new).Orderly := by
  obtain ⟨⟨linked, held, top, kind⟩, leaves, sheltered⟩ := orderly
  have links : SameLinks doc (doc.setKind id new) := sameLinks_setKind id new
  refine ⟨⟨links.linked linked, ?_, (links.parent root).trans top, ?_⟩, ?_, links.sheltered sheltered⟩
  · rwa [Holds, Document.setKind, size_modify]
  · rw [kind?_setKind]
    split
    next here =>
      subst here
      cases found.symm.trans kind
      cases new <;> first | exact congrArg _ found | cases same
    · exact kind
  · intro child parent literal under isText
    rw [links.parent] at under
    rw [kind?_setKind] at isText
    split at isText
    next here =>
      subst here
      rw [found] at isText
      cases isText
      obtain ⟨literal, rfl⟩ := NodeKind.type_eq_text_iff.mp same.symm
      exact leaves child parent literal under found
    · exact leaves child parent literal under isText

private theorem alloc (orderly : doc.Orderly) (kind : NodeKind) : (doc.alloc kind).2.Orderly := by
  obtain ⟨⟨linked, held, top, isDocument⟩, leaves, sheltered⟩ := orderly
  have links : SameLinks doc (doc.alloc kind).2 := sameLinks_alloc kind
  refine ⟨⟨links.linked linked, holds_alloc held, (links.parent root).trans top, ?_⟩, ?_, links.sheltered sheltered⟩
  · rw [kind?_alloc, if_neg held.ne_new, isDocument]
  · intro child parent literal under
    rw [links.parent] at under
    rw [kind?_alloc, if_neg (linked.wellFormed.holds_parent under).ne_new]
    exact leaves child parent literal under

private theorem fits_new (orderly : doc.Orderly) (held : doc.Holds parent)
    (noText : ∀ literal, doc.kind? parent ≠ some (.text literal)) (kind : NodeKind) :
    (doc.alloc kind).2.Fits parent ⟨doc.size⟩ where
  held := holds_alloc held
  noText literal := by
    rw [kind?_alloc, if_neg held.ne_new]
    exact noText literal
  present := holds_alloc_new kind
  alone := alone_new kind
  movable := orderly.linked.movable_new held kind
  notRoot := orderly.rooted.held.ne_new.symm

theorem appendNew (orderly : doc.Orderly) (held : doc.Holds parent)
    (noText : ∀ literal, doc.kind? parent ≠ some (.text literal)) (kind : NodeKind) :
    (doc.appendNew parent kind).2.Orderly :=
  (orderly.alloc kind).appendChild (orderly.fits_new held noText kind)

private theorem prependNew (orderly : doc.Orderly) (held : doc.Holds parent)
    (noText : ∀ literal, doc.kind? parent ≠ some (.text literal)) (kind : NodeKind) :
    ((doc.alloc kind).2.prependChild parent ⟨doc.size⟩).Orderly :=
  (orderly.alloc kind).prependChild (orderly.fits_new held noText kind)

end Orderly

private theorem kindOf_alloc {kind : NodeKind} (held : doc.Holds id) : (doc.alloc kind).2.kindOf id = doc.kindOf id :=
  kindOf_congr ((kind?_alloc kind id).trans (if_neg held.ne_new))

theorem type_kindOf_setKind {old new : NodeKind} (found : doc.kind? id = some old) (same : new.type = old.type)
    (other : NodeId) : ((doc.setKind id new).kindOf other).type = (doc.kindOf other).type := by
  rw [kindOf, kind?_setKind]
  split
  next here => rw [here, found, kindOf_eq found, Option.map_some, Option.getD_some, same]
  · rfl

private theorem kindOf_alloc_new (kind : NodeKind) : (doc.alloc kind).2.kindOf ⟨doc.size⟩ = kind :=
  kindOf_eq ((kind?_alloc kind _).trans (if_pos rfl))

namespace Tidy

private theorem detach (tidy : doc.Tidy types) (linked : doc.Linked) (member : (doc.kindOf id).type ∈ types) :
    (doc.detach id).Tidy types :=
  (linked.removed_detach id).tidy (fun other parent _ => tidy.filled other parent) linked member tidy.spaced

theorem rows (tidy : doc.Tidy types) (linked : doc.Linked) (parent : NodeId) :
    (doc.childIds parent).IsChain (doc.Beside types) :=
  (linked.row_childIds parent).linked.imp tidy.spaced

theorem appendChild (tidy : doc.Tidy types) (linked : doc.Linked) (fits : doc.Fits parent child)
    (filled : doc.kind? child ≠ some (.text ""))
    (apart : ∀ last, doc.lastChild? parent = some last → doc.Beside types last child) :
    (doc.appendChild parent child).Tidy types :=
  (fits.placed_last linked).tidy tidy filled apart nofun

private theorem prependChild (tidy : doc.Tidy types) (linked : doc.Linked) (fits : doc.Fits parent child)
    (filled : doc.kind? child ≠ some (.text ""))
    (apart : ∀ first, doc.firstChild? parent = some first → doc.Beside types child first) :
    (doc.prependChild parent child).Tidy types :=
  (fits.placed_first linked).tidy tidy filled nofun apart

theorem setKind (tidy : doc.Tidy types) {old new : NodeKind} (found : doc.kind? id = some old)
    (same : new.type = old.type) (filled : ∀ parent, doc.parent? id = some parent → new ≠ .text "") :
    (doc.setKind id new).Tidy types := by
  have links : SameLinks doc (doc.setKind id new) := sameLinks_setKind id new
  refine ⟨fun other parent under => ?_, fun first second following => ?_⟩
  · rw [links.parent] at under
    rw [kind?_setKind]
    split
    next here =>
      rw [found]
      exact fun empty_ => filled parent (here ▸ under) (Option.some.inj empty_)
    · exact tidy.filled other parent under
  · rw [links.next] at following
    rw [Beside, type_kindOf_setKind found same, type_kindOf_setKind found same]
    exact tidy.spaced first second following

private theorem alloc (tidy : doc.Tidy types) (orderly : doc.Orderly) (kind : NodeKind) :
    (doc.alloc kind).2.Tidy types := by
  have links : SameLinks doc (doc.alloc kind).2 := sameLinks_alloc kind
  refine ⟨fun other parent under => ?_, fun first second following => ?_⟩
  · rw [links.parent] at under
    rw [kind?_alloc, if_neg (holds_of_parent under).ne_new]
    exact tidy.filled other parent under
  · rw [links.next] at following
    rw [Beside, kindOf_alloc (holds_of_next following), kindOf_alloc (orderly.linked.holds_of_follows following)]
    exact tidy.spaced first second following

theorem appendNew (tidy : doc.Tidy types) (orderly : doc.Orderly) (held : doc.Holds parent)
    (noText : ∀ literal, doc.kind? parent ≠ some (.text literal)) {kind : NodeKind} (filled : kind ≠ .text "")
    (apart : ∀ last, doc.lastChild? parent = some last → NodeType.Spaced types (doc.kindOf last).type kind.type) :
    (doc.appendNew parent kind).2.Tidy types := by
  refine (tidy.alloc orderly kind).appendChild (orderly.alloc kind).linked (orderly.fits_new held noText kind) ?_ ?_
  · rw [kind?_alloc, if_pos rfl]
    exact fun empty_ => filled (Option.some.inj empty_)
  · intro last trailing
    rw [(sameLinks_alloc kind).last] at trailing
    rw [Beside, kindOf_alloc_new, kindOf_alloc (holds_of_parent ((orderly.linked.last parent last).mp trailing).1)]
    exact apart last trailing

private theorem prependNew (tidy : doc.Tidy types) (orderly : doc.Orderly) (held : doc.Holds parent)
    (noText : ∀ literal, doc.kind? parent ≠ some (.text literal)) {kind : NodeKind} (filled : kind ≠ .text "")
    (apart : ∀ first, doc.firstChild? parent = some first → NodeType.Spaced types kind.type (doc.kindOf first).type) :
    ((doc.alloc kind).2.prependChild parent ⟨doc.size⟩).Tidy types := by
  refine (tidy.alloc orderly kind).prependChild (orderly.alloc kind).linked (orderly.fits_new held noText kind) ?_ ?_
  · rw [kind?_alloc, if_pos rfl]
    exact fun empty_ => filled (Option.some.inj empty_)
  · intro first leading
    rw [(sameLinks_alloc kind).first] at leading
    rw [Beside, kindOf_alloc_new, kindOf_alloc (orderly.linked.holds_child leading)]
    exact apart first leading

end Tidy

/-! The document of a grammar tree is in order to begin with. -/

private theorem Grown.sheltered (grown : Grown doc after) (linked : doc.Linked) (sheltered : doc.Sheltered) :
    after.Sheltered := by
  induction grown with
  | refl => exact sheltered
  | @append mid parent grown held kind ih =>
    have before := grown.linked linked
    exact (before.placed_new held kind).sheltered ((before.alloc kind).gap_end parent)
      ((sameLinks_alloc kind).sheltered ih)
  | extend _ _ long ih => exact (sameLinks_setKind _ (.text long)).sheltered ih

private theorem sheltered_empty : Document.empty.Sheltered := by
  have only : ∀ {id}, Document.empty.Holds id → id = root := by
    rintro ⟨index⟩ held
    obtain rfl : index = 0 := Nat.lt_one_iff.mp held
    rfl
  intro id orphan
  refine ⟨orphan, Option.eq_none_iff_forall_ne_some.mpr fun other found => ?_,
    Option.eq_none_iff_forall_ne_some.mpr fun other found => ?_⟩
  · rw [only (holds_of_previous found)] at found
    cases found
  · rw [only (holds_of_next found)] at found
    cases found

theorem orderly_placed (blocks : List GrammarTree) : (placed blocks).Orderly := by
  have rooted := rooted_placed blocks
  refine ⟨rooted, ?_, ?_⟩
  · intro child parent literal under found
    have held := rooted.linked.wellFormed.holds_parent under
    have joins : Joins fun _ => True := fun _ _ _ _ => trivial
    have normal := normal_placed joins (fun _ _ => trivial) held
    have bare := (normal.text literal (kindOf_eq found)).2
    rw [List.map_eq_nil_iff] at bare
    exact absurd (rooted.linked.mem_childIds.mpr under) (bare ▸ List.not_mem_nil)
  · have grown : Grown empty (placed blocks) := grown_place empty [] (under root blocks) (holds_under_root blocks)
    exact grown.sheltered rooted_empty.linked sheltered_empty

/-- What holds of all neighbours in the rows holds wherever a node follows another one. -/
theorem Orderly.of_rows (orderly : doc.Orderly) (beside : NodeId → NodeId → Prop)
    (rows : ∀ parent, doc.Holds parent → (doc.childIds parent).IsChain beside) {first second : NodeId}
    (found : doc.next? first = some second) : beside first second := by
  obtain ⟨parent, under⟩ : ∃ parent, doc.parent? first = some parent := by
    cases above : doc.parent? first with
    | none => rw [(orderly.sheltered first above).next] at found; cases found
    | some parent => exact ⟨parent, rfl⟩
  obtain ⟨front, rest, split⟩ := List.append_of_mem (orderly.linked.mem_childIds.mpr under)
  obtain ⟨_, next⟩ := orderly.linked.neighbours split
  rw [found] at next
  obtain ⟨rest, rfl⟩ := List.head?_eq_some_iff.mp next.symm
  have row := rows parent (orderly.linked.wellFormed.holds_parent under)
  rw [split] at row
  exact (List.isChain_append_cons_cons.mp row).2.1

theorem Orderly.tidy_of_rows (orderly : doc.Orderly)
    (filled : ∀ id, doc.Holds id → doc.kind? id ≠ some (.text ""))
    (rows : ∀ id, doc.Holds id → SpacedRow types ((doc.childIds id).map doc.tree)) : doc.Tidy types where
  filled id _ under := filled id (holds_of_parent under)
  spaced first second := by
    refine orderly.of_rows (doc.Beside types) fun parent held => ?_
    have row := rows parent held
    rw [SpacedRow, List.map_map, List.isChain_map] at row
    refine row.imp_of_mem_imp fun first second left right spaced => ?_
    have kinds : ∀ id ∈ doc.childIds parent, (doc.tree id).kind = doc.kindOf id := fun id member => by
      rw [orderly.linked.wellFormed.tree_eq (orderly.linked.holds_of_mem_childIds member)]
      rfl
    simpa only [Beside, Function.comp_apply, kinds first left, kinds second right] using spaced

/-- What a pass over a document keeps: its order, and that no text stands beside one of the given types. -/
structure Keeps (types : List NodeType) (doc after : Document) : Prop where
  orderly : doc.Orderly → after.Orderly
  tidy : doc.Orderly → doc.Tidy types → after.Tidy types

namespace Keeps

theorem refl (doc : Document) : Keeps types doc doc := ⟨id, fun _ => id⟩

theorem trans (first : Keeps types doc mid) (second : Keeps types mid after) : Keeps types doc after :=
  ⟨fun orderly => second.orderly (first.orderly orderly),
    fun orderly tidy => second.tidy (first.orderly orderly) (first.tidy orderly tidy)⟩

theorem of_orderly (keeps : doc.Orderly → Keeps types doc after) : Keeps types doc after :=
  ⟨fun orderly => (keeps orderly).orderly orderly, fun orderly => (keeps orderly).tidy orderly⟩

/-- A pass keeps what each of its steps keeps. -/
theorem foldl {σ α : Type} (view : σ → Document) {step : σ → α → σ}
    (each : ∀ state item, Keeps types (view state) (view (step state item))) (items : List α) (state : σ) :
    Keeps types (view state) (view (items.foldl step state)) := by
  induction items generalizing state with
  | nil => exact refl (view state)
  | cons item items ih => exact (each state item).trans (ih _)

theorem setKind {old new : NodeKind} (found : doc.kind? id = some old) (same : new.type = old.type)
    (noText : new.type ≠ .text) : Keeps types doc (doc.setKind id new) := by
  refine ⟨fun orderly => orderly.setKind found same, fun _ tidy => tidy.setKind found same fun _ _ isText => ?_⟩
  rw [isText] at noText
  exact noText rfl

theorem detach {kind : NodeKind} (found : doc.kind? id = some kind) (other : kind ≠ .document)
    (member : kind.type ∈ types) : Keeps types doc (doc.detach id) := by
  refine ⟨fun orderly => orderly.detach ?_, fun orderly tidy => tidy.detach orderly.linked (kindOf_eq found ▸ member)⟩
  rintro rfl
  exact other (Option.some.inj (found.symm.trans orderly.rooted.kind))

section
variable {above kind : NodeKind} (found : doc.kind? parent = some above) (inner : above.type ≠ .text)
  (noText : kind.type ≠ .text)
include found inner noText

theorem appendNew : Keeps [.text] doc (doc.appendNew parent kind).2 := by
  have held : doc.Holds parent := holds_iff_kind.mpr ⟨above, found⟩
  have noTextAbove := kind?_ne_text found inner
  refine ⟨fun orderly => orderly.appendNew held noTextAbove kind, fun orderly tidy => ?_⟩
  refine tidy.appendNew orderly held noTextAbove (fun isText => noText (isText ▸ rfl)) fun last _ => ?_
  exact NodeType.spaced_text_iff.mpr fun both => noText both.2

theorem prependNew : Keeps [.text] doc ((doc.alloc kind).2.prependChild parent ⟨doc.size⟩) := by
  have held : doc.Holds parent := holds_iff_kind.mpr ⟨above, found⟩
  have noTextAbove := kind?_ne_text found inner
  refine ⟨fun orderly => orderly.prependNew held noTextAbove kind, fun orderly tidy => ?_⟩
  refine tidy.prependNew orderly held noTextAbove (fun isText => noText (isText ▸ rfl)) fun first _ => ?_
  exact NodeType.spaced_text_iff.mpr fun both => noText both.1

end

end Keeps

end Document

end MarkdownHtml
