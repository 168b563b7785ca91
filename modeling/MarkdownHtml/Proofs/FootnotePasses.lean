import MarkdownHtml.Proofs.GrammarPlacement
import MarkdownHtml.Proofs.Preorder

/-! The three passes that number the footnotes of a document: references are numbered in their places, all
definitions are detached, and those that are referred to are put at the end. What is true after a part of a
pass is said of the part, and carried from one node to the next. -/

namespace MarkdownHtml.Document
open ReferenceCounts

/-- The lowercase label of a reference. -/
def referenceKey : NodeKind → Option String
  | .footnoteReference label _ _ => some (Text.lowercase label)
  | _ => none

/-- The lowercase label of a definition. -/
def definitionKey : NodeKind → Option String
  | .footnoteDefinition label _ _ => some (Text.lowercase label)
  | _ => none

/-- The occurrence of a reference with a given lowercase label. -/
def occurrenceOf (key : String) : NodeKind → Option Nat
  | .footnoteReference label _ occurrence => if Text.lowercase label = key then some occurrence else none
  | _ => none

def occurrences (doc : Document) (ids : List NodeId) (key : String) : List Nat :=
  ids.filterMap fun id => (doc.kind? id).bind (occurrenceOf key)

def RefersTo (doc : Document) (key : String) (id : NodeId) : Prop := (doc.kind? id).bind referenceKey = some key

def Defines (doc : Document) (key : String) (id : NodeId) : Prop := (doc.kind? id).bind definitionKey = some key

/-- A kind without what the numbering of footnotes sets. -/
def bare : NodeKind → NodeKind
  | .footnoteReference label _ _ => .footnoteReference label 0 0
  | .footnoteDefinition label _ _ => .footnoteDefinition label 0 0
  | kind => kind

variable {doc after : Document} {counts : ReferenceCounts}

private theorem referenceKey_bare (kind : NodeKind) :
    referenceKey (bare kind) = referenceKey kind := by cases kind <;> rfl

private theorem definitionKey_bare (kind : NodeKind) :
    definitionKey (bare kind) = definitionKey kind := by cases kind <;> rfl

private theorem isSome_occurrenceOf (key : String) (kind : NodeKind) :
    (occurrenceOf key kind).isSome ↔ referenceKey kind = some key := by
  cases kind <;> simp [occurrenceOf, referenceKey]

/-- Two documents that differ only in the numbers of footnotes and in links. -/
def SameLabels (doc after : Document) : Prop := ∀ id, (after.kind? id).map bare = (doc.kind? id).map bare

namespace SameLabels

theorem bind_key {α : Type} (same : SameLabels doc after) {key : NodeKind → Option α}
    (blind : ∀ kind, key (bare kind) = key kind) (id : NodeId) :
    (after.kind? id).bind key = (doc.kind? id).bind key := by
  have keys : ∀ found : Option NodeKind, (found.map bare).bind key = found.bind key := by
    rintro (_ | kind)
    · rfl
    · exact blind kind
  rw [← keys, same, keys]

theorem refersTo (same : SameLabels doc after) (key : String) (id : NodeId) :
    after.RefersTo key id ↔ doc.RefersTo key id := by
  rw [RefersTo, RefersTo, same.bind_key referenceKey_bare]

theorem defines (same : SameLabels doc after) (key : String) (id : NodeId) :
    after.Defines key id ↔ doc.Defines key id := by
  rw [Defines, Defines, same.bind_key definitionKey_bare]

theorem trans {last : Document} (first : SameLabels doc after) (second : SameLabels after last) :
    SameLabels doc last := fun id => (second id).trans (first id)

theorem holds (same : SameLabels doc after) (id : NodeId) : after.Holds id ↔ doc.Holds id := by
  have held := same id
  rw [holds_iff_kind, holds_iff_kind]
  cases left : doc.kind? id <;> cases right : after.kind? id <;> simp_all

private theorem setKind {id : NodeId} {old new : NodeKind} (found : doc.kind? id = some old)
    (same : bare new = bare old) : SameLabels doc (doc.setKind id new) := by
  intro other
  rw [kind?_setKind]
  split
  next here => rw [here, found]; exact congrArg some same
  · rfl

end SameLabels

theorem mem_occurrences {ids : List NodeId} {key : String} {occurrence : Nat} :
    occurrence ∈ doc.occurrences ids key ↔ ∃ id ∈ ids, (doc.kind? id).bind (occurrenceOf key) = some occurrence :=
  List.mem_filterMap

theorem refersTo_iff {key : String} {id : NodeId} :
    doc.RefersTo key id ↔ ∃ occurrence, (doc.kind? id).bind (occurrenceOf key) = some occurrence := by
  rw [RefersTo, ← Option.isSome_iff_exists]
  cases doc.kind? id with
  | none => simp
  | some kind => exact (isSome_occurrenceOf key kind).symm

private theorem occurrences_append (first second : List NodeId) (key : String) :
    doc.occurrences (first ++ second) key = doc.occurrences first key ++ doc.occurrences second key :=
  List.filterMap_append

private theorem occurrences_congr {ids : List NodeId} (same : ∀ id ∈ ids, after.kind? id = doc.kind? id)
    (key : String) : after.occurrences ids key = doc.occurrences ids key :=
  List.filterMap_congr fun id member => by rw [same id member]

/-- What is true of the nodes that have been passed, and of the state after them, carried through a list of nodes
that are all different. -/
theorem foldl_passed {σ : Type} {passed : List NodeId → σ → Prop} {step : σ → NodeId → σ} {state : σ}
    (start : passed [] state) {ids : List NodeId} (distinct : ids.Nodup)
    (next : ∀ seen state id, id ∉ seen → id ∈ ids → passed seen state → passed (seen ++ [id]) (step state id)) :
    passed ids (ids.foldl step state) := by
  -- From the end: the nodes before the last one are those that have been passed.
  induction ids using List.reverseRecOn with
  | nil => exact start
  | append_singleton before id ih =>
    obtain ⟨distinct, _, apart⟩ := List.nodup_append.mp distinct
    have fresh : id ∉ before := fun member => apart id member id (List.mem_singleton_self id) rfl
    rw [List.foldl_append, List.foldl_cons, List.foldl_nil]
    apply next _ _ _ fresh (List.mem_append_right _ (List.mem_singleton_self id))
    apply ih distinct
    intro seen state other unseen member
    exact next seen state other unseen (List.mem_append_left _ member)

/-- What is true when the references among some nodes have been numbered: the occurrences of each label are the
numbers from one on, and they have been counted. -/
structure Numbered (doc : Document) (seen : List NodeId) (state : Document × ReferenceCounts) : Prop where
  links : SameLinks doc state.1
  labels : SameLabels doc state.1
  ahead : ∀ id, id ∉ seen → state.1.kind? id = doc.kind? id
  inOrder : ∀ key, state.1.occurrences seen key = List.range' 1 (count state.2 key)
  counted : ∀ key, (state.2.get? key).isSome ↔ count state.2 key ≠ 0

private theorem count_insert (key other : String) (value : Nat) :
    count (counts.insert key value) other = if key == other then value else count counts other := by
  rw [count, OrderedMap.get?_insert]
  split <;> rfl

theorem Numbered.start : Numbered doc [] (doc, {}) where
  links := .refl _
  labels _ := rfl
  ahead _ _ := rfl
  inOrder _ := rfl
  counted _ := by simp [count, OrderedMap.get?]

private theorem Numbered.pass {seen : List NodeId} {state : Document × ReferenceCounts}
    (numbered : Numbered doc seen state) {id : NodeId} (other : ∀ key, ¬ doc.RefersTo key id) :
    Numbered doc (seen ++ [id]) state where
  links := numbered.links
  labels := numbered.labels
  ahead later notSeen := numbered.ahead later fun member => notSeen (List.mem_append_left _ member)
  inOrder key := by
    have none_ : state.1.occurrences [id] key = [] := by
      refine List.filterMap_eq_nil_iff.mpr fun here member => ?_
      cases List.mem_singleton.mp member
      cases found : (state.1.kind? id).bind (occurrenceOf key) with
      | none => rfl
      | some occurrence =>
        exact absurd ((numbered.labels.refersTo key id).mp (refersTo_iff.mpr ⟨occurrence, found⟩)) (other key)
    rw [occurrences_append, none_, List.append_nil, numbered.inOrder]
  counted := numbered.counted

private theorem Numbered.reference {seen : List NodeId} {state : Document × ReferenceCounts}
    (numbered : Numbered doc seen state) {id : NodeId} (fresh : id ∉ seen) {label : String} {before occurrence : Nat}
    (found : state.1.kind? id = some (.footnoteReference label before occurrence)) (number : Nat) :
    Numbered doc (seen ++ [id]) (state.1.setKind id (.footnoteReference label number (count state.2
      (Text.lowercase label) + 1)), state.2.insert (Text.lowercase label) (count state.2 (Text.lowercase label) + 1)) := by
  have unseen : ∀ other, other ∉ seen ++ [id] → other ∉ seen ∧ other ≠ id := by simp
  have same : SameLinks state.1 _ := sameLinks_setKind id (.footnoteReference label number
    (count state.2 (Text.lowercase label) + 1))
  refine ⟨numbered.links.trans same, numbered.labels.trans (.setKind found rfl), ?_, ?_, ?_⟩
  · intro other notSeen
    obtain ⟨notSeen, different⟩ := unseen other notSeen
    rw [kind?_setKind, if_neg different]
    exact numbered.ahead other notSeen
  · intro key
    have before : ∀ other ∈ seen, (state.1.setKind id (.footnoteReference label number
        (count state.2 (Text.lowercase label) + 1))).kind? other = state.1.kind? other := by
      intro other member
      rw [kind?_setKind, if_neg]
      rintro rfl
      exact fresh member
    rw [occurrences_append, occurrences_congr before, numbered.inOrder, count_insert]
    by_cases here : Text.lowercase label = key
    · subst here
      rw [beq_self_eq_true, if_pos rfl, List.range'_1_concat, Nat.add_comm 1]
      simp [occurrences, kind?_setKind, found, occurrenceOf]
    · simp [occurrences, kind?_setKind, found, occurrenceOf, here]
  · intro key
    rw [OrderedMap.get?_insert, count_insert]
    by_cases here : Text.lowercase label == key
    · simp [here]
    · simp only [here, Bool.false_eq_true, if_false]
      exact numbered.counted key

theorem Numbered.step {seen : List NodeId} {state : Document × ReferenceCounts} (numbered : Numbered doc seen state)
    {id : NodeId} (fresh : id ∉ seen) : Numbered doc (seen ++ [id]) (numberReference state id) := by
  have here := numbered.ahead id fresh
  unfold numberReference
  split
  next label before occurrence found =>
    simp only [count_insert, beq_self_eq_true, if_true]
    exact numbered.reference fresh found _
  next none_ =>
    refine numbered.pass fun key refers => ?_
    rw [RefersTo, ← here] at refers
    obtain ⟨kind, found, same⟩ := Option.bind_eq_some_iff.mp refers
    cases kind with
    | footnoteReference label number occurrence => exact none_ _ _ _ found
    | _ => cases same

theorem numbered_all (ids : List NodeId) (distinct : ids.Nodup) :
    Numbered doc ids (ids.foldl numberReference (doc, {})) :=
  foldl_passed .start distinct fun _ _ _ fresh _ numbered => numbered.step fresh

private theorem Numbered.isSome_get?_iff {ids : List NodeId} {state : Document × ReferenceCounts}
    (numbered : Numbered doc ids state) (key : String) :
    (state.2.get? key).isSome ↔ ∃ id ∈ ids, doc.RefersTo key id := by
  have order := numbered.inOrder key
  rw [numbered.counted]
  constructor
  · intro some_
    have first : 1 ∈ state.1.occurrences ids key := by
      rw [order, List.mem_range'_1]
      omega
    obtain ⟨id, member, found⟩ := mem_occurrences.mp first
    exact ⟨id, member, (numbered.labels.refersTo key id).mp (refersTo_iff.mpr ⟨1, found⟩)⟩
  · rintro ⟨id, member, refers⟩ none_
    obtain ⟨occurrence, found⟩ := refersTo_iff.mp ((numbered.labels.refersTo key id).mpr refers)
    have inside := mem_occurrences.mpr ⟨id, member, found⟩
    rw [order, none_] at inside
    cases inside

def settle (counts : ReferenceCounts) : NodeKind → NodeKind
  | .footnoteDefinition label number references =>
    match counts.get? (Text.lowercase label) with
    | some count => .footnoteDefinition label (ReferenceCounts.number counts (Text.lowercase label)) count
    | none => .footnoteDefinition label number references
  | kind => kind

private theorem bare_settle (kind : NodeKind) : bare (settle counts kind) = bare kind := by
  cases kind with
  | footnoteDefinition label number references =>
    unfold settle
    dsimp only
    split <;> rfl
  | _ => rfl

def Kept (doc : Document) (counts : ReferenceCounts) (id : NodeId) : Prop :=
  ∃ key, doc.Defines key id ∧ (counts.get? key).isSome

/-- What is true when some definitions have been detached. -/
structure Detached (doc : Document) (counts : ReferenceCounts) (seen : List NodeId) (state : NumberedDefinitions) :
    Prop where
  linked : state.document.Linked
  parent : ∀ id, state.document.parent? id = if id ∈ seen then none else doc.parent? id
  kind : ∀ id, state.document.kind? id = if id ∈ seen then (doc.kind? id).map (settle counts) else doc.kind? id
  numbered : ∀ id, id ∈ state.numbered.map (·.2) ↔ id ∈ seen ∧ doc.Kept counts id

theorem Detached.start (linked : doc.Linked) : Detached doc counts [] { document := doc } where
  linked := linked
  parent _ := rfl
  kind _ := rfl
  numbered _ := by simp

private theorem Detached.take {seen : List NodeId} {state : NumberedDefinitions}
    (detached : Detached doc counts seen state) {id : NodeId} {after : Document}
    (links : SameLinks state.document after) (kinds : ∀ other, after.kind? other =
      if other = id then (doc.kind? id).map (settle counts) else state.document.kind? other) :
    (after.detach id).Linked ∧
      (∀ other, (after.detach id).parent? other = if other ∈ seen ++ [id] then none else doc.parent? other) ∧
      ∀ other, (after.detach id).kind? other =
        if other ∈ seen ++ [id] then (doc.kind? other).map (settle counts) else doc.kind? other := by
  have linked := links.linked detached.linked
  have removed := linked.removed_detach id
  refine ⟨removed.linked linked, fun other => ?_, fun other => ?_⟩
  · rw [removed.parent, links.parent, detached.parent]
    by_cases here : other = id <;> simp [here]
  · rw [removed.kind, kinds, detached.kind]
    by_cases here : other = id <;> simp [here]

theorem Detached.step {seen : List NodeId} {state : NumberedDefinitions} (detached : Detached doc counts seen state)
    {id : NodeId} (fresh : id ∉ seen) {key : String} (defines : doc.Defines key id) :
    Detached doc counts (seen ++ [id]) (numberDefinition counts state id) := by
  obtain ⟨kind, found, same⟩ := Option.bind_eq_some_iff.mp defines
  have here : state.document.kind? id = doc.kind? id := by rw [detached.kind, if_neg fresh]
  cases kind with
  | footnoteDefinition label number references =>
    obtain rfl := Option.some.inj same
    have kept : doc.Kept counts id ↔ (counts.get? (Text.lowercase label)).isSome := by
      constructor
      · rintro ⟨other, definesOther, counted⟩
        rwa [← Option.some.inj (defines.symm.trans definesOther)] at counted
      · exact fun counted => ⟨_, defines, counted⟩
    simp only [numberDefinition, here, found]
    cases counted : counts.get? (Text.lowercase label) with
    | some count =>
      have settled : (doc.kind? id).map (settle counts) =
          some (.footnoteDefinition label (ReferenceCounts.number counts (Text.lowercase label)) count) := by
        simp [found, settle, counted]
      have kinds : ∀ other, (state.document.setKind id (.footnoteDefinition label
          (ReferenceCounts.number counts (Text.lowercase label)) count)).kind? other =
          if other = id then (doc.kind? id).map (settle counts) else state.document.kind? other := by
        intro other
        rw [kind?_setKind, here, settled, found]
        rfl
      obtain ⟨linked, parent, kind⟩ := detached.take (sameLinks_setKind id _) kinds
      refine ⟨linked, parent, kind, fun other => ?_⟩
      simp only [List.map_append, List.mem_append, detached.numbered, List.map_cons, List.map_nil, List.mem_singleton]
      by_cases same : other = id
      · subst same
        simp [kept, counted]
      · simp [same]
    | none =>
      have settled : (doc.kind? id).map (settle counts) = doc.kind? id := by simp [found, settle, counted]
      have kinds : ∀ other, state.document.kind? other =
          if other = id then (doc.kind? id).map (settle counts) else state.document.kind? other := by
        intro other
        rw [settled, ← here]
        split
        next same => rw [same]
        · rfl
      obtain ⟨linked, parent, kind⟩ := detached.take (.refl _) kinds
      refine ⟨linked, parent, kind, fun other => ?_⟩
      rw [detached.numbered]
      by_cases same : other = id
      · subst same
        simp [kept, counted]
      · simp [same]
  | _ => cases same

/-- Nodes that are put below the root one after another. -/
theorem Rooted.foldl_appendChild (rooted : doc.Rooted) (entries : List (Nat × NodeId))
    (movable : ∀ entry ∈ entries, doc.Holds entry.2 ∧ entry.2 ≠ root) :
    (entries.foldl (fun doc entry => doc.appendChild root entry.2) doc).Rooted ∧
      (∀ id, (entries.foldl (fun doc entry => doc.appendChild root entry.2) doc).parent? id =
        if id ∈ entries.map (·.2) then some root else doc.parent? id) ∧
      ∀ id, (entries.foldl (fun doc entry => doc.appendChild root entry.2) doc).kind? id = doc.kind? id := by
  induction entries generalizing doc with
  | nil => exact ⟨rooted, fun _ => rfl, fun _ => rfl⟩
  | cons entry rest ih =>
    obtain ⟨present, notRoot⟩ := movable entry (List.mem_cons_self ..)
    have parent := rooted.linked.parent?_appendChild rooted.held present notRoot.symm
    have kind := rooted.linked.kind?_appendChild rooted.held present notRoot.symm
    have holds : ∀ id, (doc.appendChild root entry.2).Holds id ↔ doc.Holds id := by
      intro id
      rw [holds_iff_kind, holds_iff_kind, kind]
    have next : (doc.appendChild root entry.2).Rooted :=
      ⟨rooted.linked.appendChild rooted.held present ⟨notRoot, not_ancestor_of_top rooted.top⟩, (holds root).mpr rooted.held,
        by rw [parent, if_neg notRoot.symm, rooted.top], (kind root).trans rooted.kind⟩
    obtain ⟨last, parents, kinds⟩ := ih next fun other member =>
      ⟨(holds other.2).mpr (movable other (List.mem_cons_of_mem _ member)).1,
        (movable other (List.mem_cons_of_mem _ member)).2⟩
    refine ⟨last, fun id => ?_, fun id => (kinds id).trans (kind id)⟩
    rw [List.foldl_cons, parents, parent]
    simp only [List.map_cons, List.mem_cons]
    by_cases here : id = entry.2 <;> by_cases later : id ∈ rest.map (·.2) <;> simp [here, later]

/-- Whether anything in reach refers to a label. -/
def Referenced (doc : Document) (key : String) : Prop := ∃ id ∈ doc.descendants root, doc.RefersTo key id

/-- What the numbering of its footnotes does to a document. -/
structure Renumbered (doc after : Document) : Prop where
  rooted : after.Rooted
  labels : SameLabels doc after
  kept : ∀ id ∈ doc.descendants root, ∀ key, doc.Defines key id → doc.Referenced key → after.parent? id = some root
  dropped : ∀ id ∈ doc.descendants root, ∀ key, doc.Defines key id → ¬ doc.Referenced key → after.parent? id = none
  other : ∀ id, ¬ (id ∈ doc.descendants root ∧ ∃ key, doc.Defines key id) → after.parent? id = doc.parent? id
  inOrder : ∀ key, after.occurrences (doc.descendants root) key =
    List.range' 1 (after.occurrences (doc.descendants root) key).length
  references : ∀ id ∈ doc.descendants root, ∀ label number references,
    after.kind? id = some (.footnoteDefinition label number references) → doc.Referenced (Text.lowercase label) →
      references = (after.occurrences (doc.descendants root) (Text.lowercase label)).length

def definitions (doc : Document) : List NodeId :=
  (doc.descendants root).filter fun id => doc.type? id == some .footnoteDefinition

theorem mem_definitions {id : NodeId} :
    id ∈ doc.definitions ↔ id ∈ doc.descendants root ∧ ∃ key, doc.Defines key id := by
  rw [definitions, List.mem_filter]
  refine and_congr_right fun _ => ?_
  unfold type? Defines
  cases doc.kind? id with
  | none => simp
  | some kind => cases kind <;> simp [definitionKey, NodeKind.type]

theorem Rooted.notDefined (rooted : doc.Rooted) (key : String) : ¬ doc.Defines key root := by
  rw [Defines, rooted.kind]
  exact nofun

private theorem settled_definition {kind : NodeKind} {label : String} {number references : Nat}
    (same : settle counts kind = .footnoteDefinition label number references)
    (counted : (counts.get? (Text.lowercase label)).isSome) : references = count counts (Text.lowercase label) := by
  cases kind with
  | footnoteDefinition label' number' references' =>
    unfold settle at same
    dsimp only at same
    split at same
    next count found =>
      cases same
      rw [ReferenceCounts.count, found]
      rfl
    next missing =>
      cases same
      rw [missing] at counted
      cases counted
  | _ => cases same

theorem Rooted.notMem_definitions (rooted : doc.Rooted) : root ∉ doc.definitions := fun member =>
  (mem_definitions.mp member).2.elim fun key => rooted.notDefined key

private theorem occurrenceOf_settle (key : String) (kind : NodeKind) :
    occurrenceOf key (settle counts kind) = occurrenceOf key kind := by
  cases kind with
  | footnoteDefinition label number references =>
    unfold settle
    dsimp only
    split <;> rfl
  | _ => rfl

section
variable {first : Document × ReferenceCounts} {second : NumberedDefinitions}
  (numbered : Numbered doc (doc.descendants root) first) (detached : Detached first.1 first.2 doc.definitions second)
include numbered detached

theorem sameLabels_detached : SameLabels doc second.document := by
  intro id
  rw [detached.kind]
  split
  · rw [← numbered.labels id, Option.map_map]
    exact congrArg (Option.map · _) (funext bare_settle)
  · exact numbered.labels id

theorem numbered_detached (id : NodeId) : id ∈ second.numbered.map (·.2) ↔
    id ∈ doc.definitions ∧ ∃ key, doc.Defines key id ∧ doc.Referenced key := by
  rw [detached.numbered]
  refine and_congr_right fun _ => exists_congr fun key => ?_
  rw [numbered.labels.defines, numbered.isSome_get?_iff]
  rfl

private theorem occurrences_detached (key : String) : second.document.occurrences (doc.descendants root) key =
    List.range' 1 (ReferenceCounts.count first.2 key) := by
  rw [← numbered.inOrder key]
  refine List.filterMap_congr fun id _ => ?_
  rw [detached.kind]
  split
  · rw [Option.bind_map]
    exact congrArg (Option.bind _) (funext fun kind => occurrenceOf_settle key kind)
  · rfl

theorem rooted_detached (rooted : doc.Rooted) : second.document.Rooted := by
  have labels := sameLabels_detached numbered detached
  refine ⟨detached.linked, (labels.holds root).mpr rooted.held, ?_, ?_⟩
  · rw [detached.parent, if_neg rooted.notMem_definitions, numbered.links.parent, rooted.top]
  · have same := labels root
    rw [rooted.kind] at same
    obtain ⟨kind, found, bare_⟩ := Option.map_eq_some_iff.mp same
    cases kind with
    | document => exact found
    | _ => cases bare_

theorem renumbered_sorted (rooted : doc.Rooted) {sorted : List (Nat × NodeId)} (perm : sorted.Perm second.numbered) :
    Renumbered doc (sorted.foldl (fun doc entry => doc.appendChild root entry.2) second.document) := by
  have labels := sameLabels_detached numbered detached
  have moved : ∀ id, id ∈ sorted.map (·.2) ↔
      id ∈ doc.definitions ∧ ∃ key, doc.Defines key id ∧ doc.Referenced key := fun id =>
    (perm.map _).mem_iff.trans (numbered_detached numbered detached id)
  obtain ⟨last, parent, kind⟩ := (rooted_detached numbered detached rooted).foldl_appendChild sorted
    fun entry member => by
      have inside := ((moved entry.2).mp (List.mem_map_of_mem member)).1
      refine ⟨(labels.holds entry.2).mpr ?_, fun same => rooted.notMem_definitions (same ▸ inside)⟩
      exact ((rooted.linked.wellFormed.mem_descendants rooted.held).mp (mem_definitions.mp inside).1).holds rooted.held
  have order : ∀ key, (sorted.foldl (fun doc entry => doc.appendChild root entry.2) second.document).occurrences
      (doc.descendants root) key = List.range' 1 (ReferenceCounts.count first.2 key) := fun key =>
    (occurrences_congr (fun id _ => kind id) key).trans (occurrences_detached numbered detached key)
  refine ⟨last, fun id => by rw [kind, labels], ?_, ?_, ?_, ?_, ?_⟩
  · intro id member key defines referenced
    rw [parent, if_pos ((moved id).mpr ⟨mem_definitions.mpr ⟨member, key, defines⟩, key, defines, referenced⟩)]
  · intro id member key defines unreferenced
    rw [parent, if_neg, detached.parent, if_pos (mem_definitions.mpr ⟨member, key, defines⟩)]
    intro inside
    obtain ⟨_, other, definesOther, referenced⟩ := (moved id).mp inside
    rw [← Option.some.inj (defines.symm.trans definesOther)] at referenced
    exact unreferenced referenced
  · intro id none_
    have outside : id ∉ doc.definitions := fun member => none_ (mem_definitions.mp member)
    rw [parent, if_neg fun inside => outside ((moved id).mp inside).1, detached.parent, if_neg outside,
      numbered.links.parent]
  · intro key
    rw [order, List.length_range']
  · intro id member label number references found referenced
    rw [order, List.length_range']
    have defines : doc.Defines (Text.lowercase label) id := by
      rw [← labels.defines, Defines, ← kind, found]
      rfl
    rw [kind, detached.kind, if_pos (mem_definitions.mpr ⟨member, _, defines⟩)] at found
    obtain ⟨before, _, same⟩ := Option.map_eq_some_iff.mp found
    exact settled_definition same ((numbered.isSome_get?_iff _).mpr referenced)

end

theorem detached_all (rooted : doc.Rooted) {first : Document × ReferenceCounts}
    (numbered : Numbered doc (doc.descendants root) first) :
    Detached first.1 first.2 doc.definitions
      (doc.definitions.foldl (numberDefinition first.2) { document := first.1 }) := by
  have distinct := rooted.linked.wellFormed.nodup_descendants rooted.held
  refine foldl_passed (.start (numbered.links.linked rooted.linked)) (distinct.filter _) ?_
  intro seen state id fresh member detached
  obtain ⟨key, defines⟩ := (mem_definitions.mp member).2
  exact detached.step fresh ((numbered.labels.defines key id).mpr defines)

theorem Rooted.renumbered (rooted : doc.Rooted) : Renumbered doc doc.numberFootnotes.1 := by
  have numbered : Numbered doc _ _ := numbered_all _ (rooted.linked.wellFormed.nodup_descendants rooted.held)
  exact renumbered_sorted numbered (detached_all rooted numbered) rooted (List.mergeSort_perm _ _)

end MarkdownHtml.Document
