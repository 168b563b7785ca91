import MarkdownHtml.Proofs.FootnotePasses
import MarkdownHtml.Proofs.OrderedKeys

/-! What the first pass over the footnotes writes. The counts list each label once, in the order in which the labels
come up first, with the number of references that have been met. So a reference can be told its number and its
occurrence from the references before it. -/

namespace MarkdownHtml.Document
open ReferenceCounts

variable {doc : Document} {counts : ReferenceCounts} {keys : List String}

instance (doc : Document) (key : String) (id : NodeId) : Decidable (doc.RefersTo key id) :=
  inferInstanceAs (Decidable (_ = some key))

instance (doc : Document) (key : String) (id : NodeId) : Decidable (doc.Defines key id) :=
  inferInstanceAs (Decidable (_ = some key))

/-- The lowercase labels of the references among some nodes. -/
def keysOf (doc : Document) (ids : List NodeId) : List String :=
  ids.filterMap fun id => (doc.kind? id).bind referenceKey

/-- The references to footnotes in reach, in pre-order. -/
def references (doc : Document) : List NodeId :=
  (doc.descendants root).filter fun id => doc.type? id == some .footnoteReference

/-- The lowercase labels that are referred to, in the order of their first references. -/
def labels (doc : Document) : List String := (doc.keysOf doc.references).eraseDups

theorem Rooted.nodup_references (rooted : doc.Rooted) : doc.references.Nodup :=
  (rooted.linked.wellFormed.nodup_descendants rooted.held).filter _

theorem keysOf_append (first second : List NodeId) :
    doc.keysOf (first ++ second) = doc.keysOf first ++ doc.keysOf second :=
  List.filterMap_append

theorem keysOf_singleton (id : NodeId) : doc.keysOf [id] = ((doc.kind? id).bind referenceKey).toList := by
  rw [keysOf, List.filterMap_cons]
  cases (doc.kind? id).bind referenceKey <;> rfl

theorem mem_keysOf {ids : List NodeId} {key : String} : key ∈ doc.keysOf ids ↔ ∃ id ∈ ids, doc.RefersTo key id :=
  List.mem_filterMap

theorem keysOf_filter (ids : List NodeId) :
    doc.keysOf (ids.filter fun id => doc.type? id == some .footnoteReference) = doc.keysOf ids := by
  rw [keysOf, List.filterMap_filter]
  refine List.filterMap_congr fun id _ => ?_
  unfold type?
  cases doc.kind? id with
  | none => rfl
  | some kind => cases kind <;> rfl

theorem keysOf_references : doc.keysOf doc.references = doc.keysOf (doc.descendants root) := keysOf_filter _

theorem mem_labels {key : String} : key ∈ doc.labels ↔ doc.Referenced key := by
  rw [labels, keysOf_references, List.mem_eraseDups, mem_keysOf]
  rfl

def Tallies (keys : List String) (counts : ReferenceCounts) : Prop :=
  counts.entries = keys.eraseDups.map fun key => (key, keys.count key)

namespace Tallies

theorem start : Tallies [] {} := rfl

theorem get? (tallies : Tallies keys counts) (key : String) :
    counts.get? key = if key ∈ keys then some (keys.count key) else none :=
  OrderedMap.Lists.get? (show counts.Lists keys keys.count from tallies) key

private theorem count (tallies : Tallies keys counts) (key : String) : count counts key = keys.count key := by
  rw [ReferenceCounts.count, tallies.get?]
  split
  · rfl
  next missing => exact (List.count_eq_zero.mpr missing).symm

/-- The number of a label is its place among all labels. -/
theorem number (tallies : Tallies keys counts) (key : String) : number counts key = keys.eraseDups.idxOf key + 1 := by
  rw [ReferenceCounts.number, tallies, List.findIdx_map]
  rfl

theorem insert (tallies : Tallies keys counts) (key : String) :
    Tallies (keys ++ [key]) (counts.insert key (keys.count key + 1)) := by
  have lists : counts.Lists keys keys.count := tallies
  have others : ∀ label, label ≠ key → (keys ++ [key]).count label = keys.count label := by
    intro label different
    simp [different.symm]
  have inserted : (counts.insert key ((keys ++ [key]).count key)).Lists (keys ++ [key]) (keys ++ [key]).count :=
    lists.insert key others
  rwa [List.count_append, List.count_singleton_self] at inserted

end Tallies

/-- What a node becomes when references with these labels stand before it. -/
def refer (keys : List String) : NodeKind → NodeKind
  | .footnoteReference label _ _ =>
    .footnoteReference label ((keys ++ [Text.lowercase label]).eraseDups.idxOf (Text.lowercase label) + 1)
      (keys.count (Text.lowercase label) + 1)
  | kind => kind

theorem refer_of_referenceKey {kind : NodeKind} (none_ : referenceKey kind = none) : refer keys kind = kind := by
  cases kind <;> first | rfl | cases none_

/-- One step of the first pass. -/
theorem Tallies.numberReference {state : Document × ReferenceCounts} (tallies : Tallies keys state.2) (id : NodeId) :
    Tallies (keys ++ ((state.1.kind? id).bind referenceKey).toList) (numberReference state id).2 ∧
      ∀ other, (Document.numberReference state id).1.kind? other =
        if other = id then (state.1.kind? id).map (refer keys) else state.1.kind? other := by
  unfold Document.numberReference
  split
  next label before occurrence found =>
    have inserted := tallies.insert (Text.lowercase label)
    simp only [tallies.count, inserted.number, inserted.count]
    rw [found]
    refine ⟨inserted, fun other => ?_⟩
    rw [kind?_setKind, found]
    simp [refer]
  next none_ =>
    have missing : (state.1.kind? id).bind referenceKey = none := by
      cases found : state.1.kind? id with
      | none => rfl
      | some kind =>
        cases kind with
        | footnoteReference label number occurrence => exact absurd found (none_ label number occurrence)
        | _ => rfl
    rw [missing]
    refine ⟨by simpa using tallies, fun other => ?_⟩
    split
    next here =>
      subst here
      cases found : state.1.kind? other with
      | none => rfl
      | some kind =>
        rw [found] at missing
        exact congrArg some (refer_of_referenceKey missing).symm
    · rfl

/-- What is true when the references among some nodes have been numbered: each one has got its number and its
occurrence from the references before it. -/
structure Counted (doc : Document) (seen : List NodeId) (state : Document × ReferenceCounts) : Prop where
  tallies : Tallies (doc.keysOf seen) state.2
  ahead : ∀ id, id ∉ seen → state.1.kind? id = doc.kind? id
  written : ∀ before id later, seen = before ++ id :: later →
    state.1.kind? id = (doc.kind? id).map (refer (doc.keysOf before))

theorem Counted.start : Counted doc [] (doc, {}) where
  tallies := .start
  ahead _ _ := rfl
  written before id later split := by simp at split

theorem Counted.step {seen : List NodeId} {state : Document × ReferenceCounts} (counted : Counted doc seen state)
    {id : NodeId} (fresh : id ∉ seen) : Counted doc (seen ++ [id]) (numberReference state id) := by
  obtain ⟨tallies, kind⟩ := counted.tallies.numberReference id
  rw [counted.ahead id fresh] at tallies kind
  refine ⟨by rwa [keysOf_append, keysOf_singleton], fun other outside => ?_, fun before other later split => ?_⟩
  · have different : other ≠ id := by rintro rfl; exact outside (by simp)
    rw [kind, if_neg different]
    exact counted.ahead other fun member => outside (List.mem_append_left _ member)
  · rcases List.eq_nil_or_concat later with rfl | ⟨later, last, rfl⟩
    · obtain ⟨rfl, same⟩ := List.append_inj' split rfl
      cases same
      rw [kind, if_pos rfl]
    · rw [List.concat_eq_append, ← List.cons_append, ← List.append_assoc] at split
      obtain ⟨rfl, same⟩ := List.append_inj' split rfl
      cases same
      have different : other ≠ id := by rintro rfl; exact fresh (by simp)
      rw [kind, if_neg different]
      exact counted.written before other later rfl

theorem counted_all (ids : List NodeId) (distinct : ids.Nodup) :
    Counted doc ids (ids.foldl Document.numberReference (doc, {})) :=
  foldl_passed .start distinct fun _ _ _ fresh _ counted => counted.step fresh

end MarkdownHtml.Document
