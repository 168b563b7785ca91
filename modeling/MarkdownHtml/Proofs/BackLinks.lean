import MarkdownHtml.Proofs.FootnotePasses

/-! Whether the links back from a definition find the references that they are for. References are counted
before definitions are dropped, and a dropped definition takes the references in it along. So the links
are right if and only if no reference to a footnote that is kept goes that way. -/

namespace MarkdownHtml.Document

/-- Every definition in reach has references in reach, has counted them all, and their occurrences are the
numbers from one to that count. -/
def BackLinksResolve (doc : Document) : Prop :=
  ∀ id ∈ doc.descendants root, ∀ label number references,
    doc.kind? id = some (.footnoteDefinition label number references) →
      doc.occurrences (doc.descendants root) (Text.lowercase label) ≠ [] ∧
      references = (doc.occurrences (doc.descendants root) (Text.lowercase label)).length ∧
      (doc.occurrences (doc.descendants root) (Text.lowercase label)).Perm (List.range' 1 references)

/-- A definition that nothing refers to, or a node below one, with no other definition in between. -/
inductive Lost (doc : Document) : NodeId → Prop
  | dropped {id : NodeId} {key : String} (defines : doc.Defines key id) (unreferenced : ¬ doc.Referenced key) :
    Lost doc id
  | inside {parent id : NodeId} (under : doc.parent? id = some parent) (lost : Lost doc parent)
    (undefined : ∀ key, ¬ doc.Defines key id) : Lost doc id

variable {doc after : Document}

private theorem Lost.defines {id : NodeId} {key : String} (lost : doc.Lost id) (defines : doc.Defines key id) :
    ¬ doc.Referenced key := by
  cases lost with
  | dropped definesOther unreferenced =>
    rwa [Option.some.inj (defines.symm.trans definesOther)]
  | inside _ _ undefined => exact absurd defines (undefined key)

section
variable (rooted : doc.Rooted) (numbered : Renumbered doc after)
include rooted numbered

private theorem within_renumbered {id : NodeId} : after.Within root id ↔ doc.Within root id ∧ ¬ doc.Lost id := by
  have reached : ∀ {id}, id ∈ doc.descendants root ↔ doc.Within root id :=
    rooted.linked.wellFormed.mem_descendants rooted.held
  constructor
  · intro within
    induction within with
    | refl =>
      refine ⟨.refl, fun lost => ?_⟩
      cases lost with
      | dropped defines => exact rooted.notDefined _ defines
      | inside under => rw [rooted.top] at under; cases under
    | @tail parent id _ under ih =>
      obtain ⟨within, found⟩ := ih
      change after.parent? id = some parent at under
      by_cases defined : id ∈ doc.descendants root ∧ ∃ key, doc.Defines key id
      · obtain ⟨member, key, defines⟩ := defined
        refine ⟨reached.mp member, fun lost => ?_⟩
        rw [numbered.dropped id member key defines (lost.defines defines)] at under
        cases under
      · rw [numbered.other id defined] at under
        have inside : doc.Within root id := .tail within under
        refine ⟨inside, fun lost => ?_⟩
        cases lost with
        | dropped defines => exact defined ⟨reached.mpr inside, _, defines⟩
        | inside underOther lost =>
          cases under.symm.trans underOther
          exact found lost
  · rintro ⟨within, found⟩
    induction within with
    | refl => exact .refl
    | @tail parent id within under ih =>
      have member := reached.mpr (Relation.ReflTransGen.tail within under)
      by_cases defined : ∃ key, doc.Defines key id
      · obtain ⟨key, defines⟩ := defined
        have referenced : doc.Referenced key := not_not.mp fun unreferenced => found (.dropped defines unreferenced)
        exact .single (numbered.kept id member key defines referenced)
      · have undefined : ∀ key, ¬ doc.Defines key id := fun key defines => defined ⟨key, defines⟩
        refine .tail (ih fun lost => found (.inside under lost undefined)) ?_
        exact (numbered.other id fun inside => defined inside.2).trans under

theorem mem_descendants_renumbered {id : NodeId} :
    id ∈ after.descendants root ↔ id ∈ doc.descendants root ∧ ¬ doc.Lost id := by
  rw [numbered.rooted.linked.wellFormed.mem_descendants numbered.rooted.held,
    rooted.linked.wellFormed.mem_descendants rooted.held]
  exact within_renumbered rooted numbered

open Classical in
private theorem occurrences_renumbered (key : String) : (after.occurrences (after.descendants root) key).Perm
    (after.occurrences ((doc.descendants root).filter fun id => ¬ doc.Lost id) key) := by
  refine List.Perm.filterMap _ ((List.perm_ext_iff_of_nodup ?_ ?_).mpr fun id => ?_)
  · exact numbered.rooted.linked.wellFormed.nodup_descendants numbered.rooted.held
  · exact (rooted.linked.wellFormed.nodup_descendants rooted.held).filter _
  · rw [mem_descendants_renumbered rooted numbered, List.mem_filter, decide_eq_true_eq]

end

private theorem filterMap_filter {α β : Type} {p : α → Bool} {f : α → Option β} {list : List α}
    (all : ∀ a ∈ list, (f a).isSome → p a) : (list.filter p).filterMap f = list.filterMap f := by
  rw [List.filterMap_filter]
  refine List.filterMap_congr fun a member => ?_
  cases found : f a with
  | none => split <;> rfl
  | some b => rw [if_pos (all a member (by simp [found]))]

private theorem of_length_filterMap_filter {α β : Type} {p : α → Bool} {f : α → Option β} {list : List α}
    (enough : (list.filterMap f).length ≤ ((list.filter p).filterMap f).length) :
    ∀ a ∈ list, (f a).isSome → p a := by
  induction list with
  | nil => exact nofun
  | cons first rest ih =>
    have fewer : ((rest.filter p).filterMap f).length ≤ (rest.filterMap f).length :=
      (List.filter_sublist.filterMap f).length_le
    cases kept : p first <;> cases found : f first <;>
      simp only [List.filter_cons, List.filterMap_cons, kept, found, List.length_cons, Bool.false_eq_true, if_true,
        if_false] at enough <;>
      simp only [List.forall_mem_cons, kept, found, Option.isSome_none, Option.isSome_some, Bool.false_eq_true,
        false_implies, true_implies, implies_true, true_and]
    · exact ih enough
    · omega
    · exact ih enough
    · exact ih (by omega)

open Classical in
/-- In the document of a grammar tree all links back resolve if and only if no reference to a footnote that is
defined is lost. -/
theorem backLinksResolve_iff (blocks : List GrammarTree) :
    (ofGrammar blocks).1.BackLinksResolve ↔
      ∀ key, (∃ id ∈ (placed blocks).descendants root, (placed blocks).Defines key id) →
        ∀ id ∈ (placed blocks).descendants root, (placed blocks).RefersTo key id → ¬ (placed blocks).Lost id := by
  have rooted := rooted_placed blocks
  have numbered := rooted.renumbered
  change (placed blocks).numberFootnotes.1.BackLinksResolve ↔ _
  generalize (placed blocks).numberFootnotes.1 = after at numbered
  generalize placed blocks = doc at rooted numbered
  have reach : ∀ {id}, id ∈ after.descendants root ↔ id ∈ doc.descendants root ∧ ¬ doc.Lost id :=
    mem_descendants_renumbered rooted numbered
  have perm := occurrences_renumbered rooted numbered
  constructor
  · rintro resolve key ⟨definition, member, defines⟩ id inside refers
    have referenced : doc.Referenced key := ⟨id, inside, refers⟩
    have present := reach.mpr ⟨member, fun lost => lost.defines defines referenced⟩
    obtain ⟨kind, found, same⟩ := Option.bind_eq_some_iff.mp ((numbered.labels.defines key definition).mpr defines)
    cases kind with
    | footnoteDefinition label number references =>
      cases same
      obtain ⟨_, counted, _⟩ := resolve definition present label number references found
      have total := numbered.references definition member label number references found referenced
      have every := of_length_filterMap_filter (show (after.occurrences (doc.descendants root) _).length ≤ _ by
        rw [← total, counted]
        exact (perm _).length_eq.le)
      refine of_decide_eq_true (every id inside (Option.isSome_iff_exists.mpr ?_))
      exact refersTo_iff.mp ((numbered.labels.refersTo _ id).mpr refers)
    | _ => cases same
  · intro condition id present label number references found
    obtain ⟨member, notLost⟩ := reach.mp present
    have defines : doc.Defines (Text.lowercase label) id := by
      rw [← numbered.labels.defines, Defines, found]
      rfl
    have referenced : doc.Referenced (Text.lowercase label) :=
      not_not.mp fun unreferenced => notLost (.dropped defines unreferenced)
    have all : after.occurrences ((doc.descendants root).filter fun id => ¬ doc.Lost id) (Text.lowercase label) =
        after.occurrences (doc.descendants root) (Text.lowercase label) := by
      refine filterMap_filter fun other inside some_ => decide_eq_true ?_
      refine condition _ ⟨id, member, defines⟩ other inside ?_
      exact (numbered.labels.refersTo _ other).mp (refersTo_iff.mpr (Option.isSome_iff_exists.mp some_))
    have perm := perm (Text.lowercase label)
    rw [all] at perm
    have total := numbered.references id member label number references found referenced
    refine ⟨?_, ?_, ?_⟩
    · obtain ⟨other, inside, refers⟩ := referenced
      obtain ⟨occurrence, here⟩ := refersTo_iff.mp ((numbered.labels.refersTo _ other).mpr refers)
      exact List.ne_nil_of_mem (perm.mem_iff.mpr (mem_occurrences.mpr ⟨other, inside, here⟩))
    · rw [total, perm.length_eq]
    · rw [total, ← numbered.inOrder]
      exact perm

/-- Nothing refers to the first definition, so it is dropped. It has the only reference to the second one,
which stays, with a link back to a reference that is gone. -/
theorem not_backLinksResolve_chain :
    ¬ (ofGrammar [.node (.footnoteDefinition "a") [.node .paragraph [.leaf (.footnoteReference "b")]],
      .node (.footnoteDefinition "b") [.node .paragraph [.leaf (.text "x")]]]).1.BackLinksResolve := by
  intro resolve
  have grown : placed [.node (.footnoteDefinition "a") [.node .paragraph [.leaf (.footnoteReference "b")]],
      .node (.footnoteDefinition "b") [.node .paragraph [.leaf (.text "x")]]] =
      ((((((empty.appendNew root (.footnoteDefinition "a" 0 0)).2.appendNew ⟨1⟩ .paragraph).2.appendNew ⟨2⟩
        (.footnoteReference "b" 0 0)).2.appendNew root (.footnoteDefinition "b" 0 0)).2.appendNew ⟨4⟩ .paragraph).2.appendNew
        ⟨5⟩ (.text "x")).2 := by
    simp only [placed, under, place, placement, List.map_cons, List.map_nil, List.cons_append, List.nil_append,
      GrammarTree.leaf]
    rfl
  change (placed _).numberFootnotes.1.BackLinksResolve at resolve
  rw [grown] at resolve
  have nothing := (resolve ⟨4⟩ (by decide +kernel) "b" 1 1 (by decide +kernel)).1
  exact nothing (by decide +kernel)

end MarkdownHtml.Document
