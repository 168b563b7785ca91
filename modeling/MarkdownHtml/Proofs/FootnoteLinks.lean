import MarkdownHtml.Proofs.BackLinks
import MarkdownHtml.Proofs.WrittenCalls

/-! The links between footnotes in the HTML of a document. References and definitions are matched by their lower-case
labels, and the names that links go by are made of the labels as they are spelled. So a link finds its target if and
only if both are spelled alike, and two references have one name if a label looks like another one with a counter. -/

namespace MarkdownHtml.Renderer
open Html Document

/-- A link goes to what is written with a tag. -/
def LeadsTo (link target : AttributeSet) : Prop :=
  ∃ name, target.get? "id" = some name ∧ link.get? "href" = some ("#" ++ name)

/-- A link that is written for a definition goes back to one of its references. -/
def BackLink (renderer : Renderer) (definition : NodeId) (number occurrence : Nat) (link : AttributeSet) : Prop :=
  renderer.Tagged definition "a" link ∧
    link.get? "data-footnote-backref-idx" = some (backrefIndex number occurrence)

/-- The links between a reference and a definition lead from each of them to the other one. -/
structure LinksBothWays (renderer : Renderer) (definition : NodeId) (number occurrence : Nat) (link : AttributeSet) :
    Prop where
  item : ∃ item, renderer.Tagged definition "li" item
  forth : ∀ item, renderer.Tagged definition "li" item → LeadsTo link item
  back : ∃ back, renderer.BackLink definition number occurrence back
  returns : ∀ back, renderer.BackLink definition number occurrence back → LeadsTo back link

/-- Every link that is written for a reference leads to the definition with the same number, and back. -/
def FootnoteLinksResolve (renderer : Renderer) : Prop :=
  ∀ reference ∈ renderer.document.descendants root, ∀ definition ∈ renderer.document.descendants root,
    ∀ label other number occurrence references,
      renderer.document.kind? reference = some (.footnoteReference label number occurrence) →
      renderer.document.kind? definition = some (.footnoteDefinition other number references) →
      ∀ link, renderer.Tagged reference "a" link → renderer.LinksBothWays definition number occurrence link

/-- No two references are written with the same id. -/
def ReferenceIdsDiffer (renderer : Renderer) : Prop :=
  ∀ first ∈ renderer.document.descendants root, ∀ second ∈ renderer.document.descendants root, first ≠ second →
    renderer.document.type? first = some .footnoteReference → renderer.document.type? second = some .footnoteReference →
    ∀ tag other left right name, renderer.Tagged first tag left → renderer.Tagged second other right →
      left.get? "id" = some name → right.get? "id" ≠ some name

def referenceAttributes (label : String) (occurrence : Nat) : AttributeSet :=
  .ofList [("href", "#" ++ definitionId label), ("id", referenceId label occurrence), ("data-footnote-ref", "")]

/-- What a definition says in a link back. -/
def backrefAttributes (label : String) (number occurrence : Nat) : AttributeSet :=
  .ofList [("href", "#" ++ referenceId label occurrence), ("class", "footnote-backref"), ("data-footnote-backref", ""),
    ("data-footnote-backref-idx", backrefIndex number occurrence),
    ("aria-label", "Back to reference " ++ backrefIndex number occurrence)]

private theorem toString_inj {first second : Nat} (same : toString first = toString second) : first = second := by
  have numbers := congrArg (fun digits => Nat.ofDigitChars 10 digits.toList 0) same
  simpa [Nat.toString_eq_ofList_toDigits] using numbers

private theorem counted_inj {label other : String} {first second : Nat}
    (same : label ++ "-" ++ toString first = other ++ "-" ++ toString second) : label = other ∧ first = second := by
  -- Behind the last dash of a name stands its counter.
  have letters := congrArg List.reverse (congrArg String.toList same)
  simp only [String.toList_append, List.reverse_append, List.append_assoc] at letters
  have digits : ∀ number : Nat, ∀ c ∈ (toString number).toList.reverse, c.isDigit = true := fun number c member =>
    isDigit_of_mem_toString (List.mem_reverse.mp member)
  have dash : ∀ rest : List Char, ∀ c, ("-".toList.reverse ++ rest).head? = some c → ¬ c.isDigit = true := by
    rintro rest c ⟨⟩
    decide
  obtain ⟨counters, labels⟩ := cut_unique (digits first) (digits second) (dash _) (dash _) letters
  constructor
  · exact String.toList_inj.mp (List.reverse_inj.mp (List.append_cancel_left labels))
  · exact toString_inj (String.toList_inj.mp (List.reverse_inj.mp counters))

private theorem backrefIndex_inj {number first second : Nat} (left : 0 < first) (right : 0 < second)
    (same : backrefIndex number first = backrefIndex number second) : first = second := by
  have longer : ∀ occurrence : Nat, toString number ++ "-" ++ toString occurrence ≠ toString number := by
    intro occurrence same
    have lengths := congrArg (·.toList.length) same
    simp only [String.toList_append, List.length_append] at lengths
    have dash : "-".toList.length = 1 := rfl
    omega
  unfold backrefIndex at same
  split at same <;> split at same
  · exact (counted_inj same).2
  · exact absurd same (longer first)
  · exact absurd same.symm (longer second)
  · omega

variable {renderer : Renderer}

private theorem openTag_mem_backrefPieces {owner id : NodeId} {label tag : String} {number references occurrence : Nat}
    {attributes : AttributeSet}
    (member : .openTag id tag attributes ∈ backrefPieces owner label number references occurrence) :
    id = owner ∧ (tag = "a" ∧ attributes = backrefAttributes label number occurrence ∨ tag = "sup") := by
  by_cases later : occurrence > 1 <;> by_cases more : occurrence < references <;>
    simp only [backrefPieces, later, more, if_true, if_false, List.mem_append, List.mem_cons, Piece.openTag.injEq,
      reduceCtorEq, List.not_mem_nil, or_false] at member <;>
    grind [backrefAttributes]

private theorem openTag_mem_backrefsPieces {owner id : NodeId} {tag : String} {attributes : AttributeSet}
    (member : .openTag id tag attributes ∈ renderer.backrefsPieces owner) :
    ∃ label number references, renderer.document.kind? id = some (.footnoteDefinition label number references) ∧
      (tag = "a" ∧ (∃ occurrence, 0 < occurrence ∧ attributes = backrefAttributes label number occurrence) ∨
        tag = "sup") := by
  unfold backrefsPieces at member
  split at member
  next label number references found =>
    obtain ⟨earlier, _, member⟩ := List.mem_flatMap.mp member
    obtain ⟨rfl, tags⟩ := openTag_mem_backrefPieces member
    refine ⟨label, number, references, found, tags.imp_left fun ⟨isLink, same⟩ => ⟨isLink, earlier + 1, ?_, same⟩⟩
    exact Nat.succ_pos earlier
  · cases member

private theorem openTag_mem_closing {owner id : NodeId} {kind : NodeKind} {tag : String} {attributes : AttributeSet}
    (member : .openTag id tag attributes ∈ renderer.closing owner kind) :
    ∃ definition, .openTag id tag attributes ∈ renderer.backrefsPieces definition := by
  cases kind with
  | paragraph =>
    have links : .openTag id tag attributes ∈ renderer.paragraphBackrefs owner := by
      unfold closing at member
      cases omitted : renderer.omitsParagraphTag owner <;> simp_all
    unfold paragraphBackrefs at links
    split at links
    next definition _ =>
      split at links
      · exact ⟨definition, by simpa using links⟩
      · cases links
    · cases links
  | footnoteDefinition label number references =>
    have links : .openTag id tag attributes ∈ renderer.definitionBackrefs owner := by
      unfold closing at member
      simp_all
    unfold definitionBackrefs at links
    split at links
    · cases links
    · exact ⟨owner, by simpa using links⟩
  | _ => simp_all [closing.eq_def]

private theorem openTag_mem_pieces (wellFormed : renderer.document.WellFormed) (held : renderer.document.Holds root)
    {id : NodeId} {tag : String} {attributes : AttributeSet}
    (member : .openTag id tag attributes ∈ renderer.pieces root) :
    ∃ kind, renderer.document.kind? id = some kind ∧
      (Rendered renderer.document id ∧ .openTag id tag attributes ∈ renderer.opening id kind ∨
        (∃ definition, .openTag id tag attributes ∈ renderer.backrefsPieces definition) ∨ kind = .document) := by
  obtain ⟨owner, kind, rendered, found, here⟩ := exists_own wellFormed held .root member
  rw [own, List.mem_append, List.mem_append] at here
  rcases here with (opened | closed) | enclosing
  · obtain rfl : id = owner := madeFor_opening owner kind _ opened
    exact ⟨kind, found, .inl ⟨rendered, opened⟩⟩
  · obtain ⟨definition, links⟩ := openTag_mem_closing closed
    obtain ⟨label, number, references, found, _⟩ := openTag_mem_backrefsPieces links
    exact ⟨_, found, .inr (.inl ⟨definition, links⟩)⟩
  · split at enclosing
    next document =>
      have same : id = owner := by
        simp only [sectionOpening, sectionClosing, List.mem_append, List.mem_cons, Piece.openTag.injEq, reduceCtorEq,
          List.not_mem_nil, or_false, false_or] at enclosing
        grind
      exact ⟨kind, same ▸ found, .inr (.inr document)⟩
    · cases enclosing

private theorem backrefs_subset (wellFormed : renderer.document.WellFormed) (held : renderer.document.Holds root)
    {id : NodeId} {label : String} {number references : Nat}
    (found : renderer.document.kind? id = some (.footnoteDefinition label number references))
    (rendered : Rendered renderer.document id) : renderer.backrefsPieces id ⊆ renderer.pieces root := by
  -- The last paragraph of a definition has the links back, or the end of the definition itself.
  have type : renderer.document.type? id = some .footnoteDefinition := by rw [Document.type?, found]; rfl
  by_cases last : (renderer.document.lastChild? id).bind renderer.document.type? = some .paragraph
  · obtain ⟨child, trailing, paragraph⟩ := Option.bind_eq_some_iff.mp last
    obtain ⟨under, ends⟩ := (wellFormed.linked.last id child).mp trailing
    have foundChild := kind?_paragraph paragraph
    have below : Rendered renderer.document child := .child rendered found rfl under
    refine List.Subset.trans (fun piece here => ?_) (below.closing_subset wellFormed held foundChild rfl (by simp))
    rw [closing_paragraph, paragraphBackrefs_last under type ends]
    exact List.mem_append_left _ (List.mem_cons_of_mem _ here)
  · refine List.Subset.trans (fun piece here => ?_) (rendered.closing_subset wellFormed held found rfl (by simp))
    rw [closing_definition, definitionBackrefs_of_no_paragraph last]
    exact List.mem_append_left _ (List.mem_cons_of_mem _ here)

section
variable (wellFormed : renderer.document.WellFormed) (held : renderer.document.Holds root)
  (noRules : renderer.rules.attributeRules = #[]) {id : NodeId} {label : String} {number : Nat}
include wellFormed held noRules

private theorem tagged_reference {occurrence : Nat}
    (found : renderer.document.kind? id = some (.footnoteReference label number occurrence)) {tag : String}
    {attributes : AttributeSet} : renderer.Tagged id tag attributes ↔ Rendered renderer.document id ∧
      (tag = "sup" ∧ attributes = .ofList [("class", "footnote-ref")] ∨
        tag = "a" ∧ attributes = referenceAttributes label occurrence) := by
  have opens : .openTag id tag attributes ∈ renderer.opening id (.footnoteReference label number occurrence) ↔
      tag = "sup" ∧ attributes = .ofList [("class", "footnote-ref")] ∨
        tag = "a" ∧ attributes = referenceAttributes label occurrence := by
    simp [opening, referenceAttributes]
  rw [tagged_iff noRules found trivial, ← opens]
  constructor
  · intro member
    obtain ⟨kind, same, rest⟩ := openTag_mem_pieces wellFormed held member
    cases found.symm.trans same
    rcases rest with here | ⟨definition, links⟩ | ⟨⟨⟩⟩
    · exact here
    · obtain ⟨_, _, _, other, _⟩ := openTag_mem_backrefsPieces links
      cases found.symm.trans other
  · rintro ⟨rendered, here⟩
    exact rendered.opening_subset wellFormed held found here

section
variable {references : Nat} (found : renderer.document.kind? id = some (.footnoteDefinition label number references))
include found

private theorem tagged_item {item : AttributeSet} : renderer.Tagged id "li" item ↔
    Rendered renderer.document id ∧ item = .ofList [("id", definitionId label)] := by
  have opens : .openTag id "li" item ∈ renderer.opening id (.footnoteDefinition label number references) ↔
      item = .ofList [("id", definitionId label)] := by
    simp [opening]
  rw [tagged_iff noRules found trivial, ← opens]
  constructor
  · intro member
    obtain ⟨kind, same, rest⟩ := openTag_mem_pieces wellFormed held member
    cases found.symm.trans same
    rcases rest with here | ⟨definition, links⟩ | ⟨⟨⟩⟩
    · exact here
    · obtain ⟨_, _, _, _, tags⟩ := openTag_mem_backrefsPieces links
      simp at tags
  · rintro ⟨rendered, here⟩
    exact rendered.opening_subset wellFormed held found here

private theorem backrefs_of_tagged {link : AttributeSet} (tagged : renderer.Tagged id "a" link) :
    ∃ occurrence, 0 < occurrence ∧ link = backrefAttributes label number occurrence := by
  rw [tagged_iff noRules found trivial] at tagged
  obtain ⟨kind, same, rest⟩ := openTag_mem_pieces wellFormed held tagged
  cases found.symm.trans same
  rcases rest with ⟨_, opens⟩ | ⟨definition, links⟩ | ⟨⟨⟩⟩
  · simp [opening] at opens
  · obtain ⟨other, count, total, same, tags⟩ := openTag_mem_backrefsPieces links
    cases found.symm.trans same
    simpa using tags

private theorem tagged_backref (rendered : Rendered renderer.document id) {occurrence : Nat} (positive : 0 < occurrence)
    (counted : occurrence ≤ references) : renderer.Tagged id "a" (backrefAttributes label number occurrence) := by
  rw [tagged_iff noRules found trivial]
  apply backrefs_subset wellFormed held found rendered
  obtain ⟨earlier, rfl⟩ : ∃ earlier, occurrence = earlier + 1 := ⟨occurrence - 1, by omega⟩
  simp only [backrefsPieces, found, List.mem_flatMap, List.mem_range]
  exact ⟨earlier, counted, by simp [backrefPieces, backrefAttributes]⟩

end

end

private theorem Rendered.within {doc : Document} {id : NodeId} (rendered : Rendered doc id) :
    doc.Within Document.root id := by
  induction rendered with
  | root => exact .refl
  | child _ _ _ under ih => exact ih.tail under

section
variable {doc after : Document} (rooted : doc.Rooted) (numbered : Renumbered doc after)
include rooted numbered

private theorem rendered_definition {id : NodeId} (member : id ∈ after.descendants root) {label : String}
    {number references : Nat} (found : after.kind? id = some (.footnoteDefinition label number references)) :
    Rendered after id := by
  obtain ⟨inside, notLost⟩ := (mem_descendants_renumbered rooted numbered).mp member
  have defines : doc.Defines (Text.lowercase label) id := by
    rw [← numbered.labels.defines, Defines, found]
    rfl
  have referenced : doc.Referenced (Text.lowercase label) :=
    not_not.mp fun unreferenced => notLost (.dropped defines unreferenced)
  exact .child .root numbered.rooted.kind rfl (numbered.kept id inside _ defines referenced)

private theorem mem_occurrences_reference {id : NodeId} (member : id ∈ after.descendants root) {label : String}
    {number occurrence : Nat} (found : after.kind? id = some (.footnoteReference label number occurrence)) :
    occurrence ∈ after.occurrences (doc.descendants root) (Text.lowercase label) := by
  obtain ⟨inside, _⟩ := (mem_descendants_renumbered rooted numbered).mp member
  exact mem_occurrences.mpr ⟨id, inside, by rw [found]; simp [occurrenceOf]⟩

private theorem occurrence_pos {id : NodeId} (member : id ∈ after.descendants root) {label : String}
    {number occurrence : Nat} (found : after.kind? id = some (.footnoteReference label number occurrence)) :
    0 < occurrence := by
  have counted := mem_occurrences_reference rooted numbered member found
  rw [numbered.inOrder, List.mem_range'_1] at counted
  omega

private theorem occurrence_le {reference definition : NodeId} (member : reference ∈ after.descendants root)
    {label : String} {number occurrence other references : Nat}
    (found : after.kind? reference = some (.footnoteReference label number occurrence))
    (inside : definition ∈ after.descendants root)
    (defined : after.kind? definition = some (.footnoteDefinition label other references)) :
    occurrence ≤ references := by
  have counted := mem_occurrences_reference rooted numbered member found
  have refers : doc.Referenced (Text.lowercase label) := by
    refine ⟨reference, ((mem_descendants_renumbered rooted numbered).mp member).1, ?_⟩
    rw [← numbered.labels.refersTo, RefersTo, found]
    rfl
  rw [numbered.references definition ((mem_descendants_renumbered rooted numbered).mp inside).1 label other references
    defined refers]
  rw [numbered.inOrder, List.mem_range'_1] at counted
  omega

private theorem reference_unique {first second : NodeId} (left : first ∈ after.descendants root)
    (right : second ∈ after.descendants root) {label other : String} {number count occurrence : Nat}
    (foundLeft : after.kind? first = some (.footnoteReference label number occurrence))
    (foundRight : after.kind? second = some (.footnoteReference other count occurrence))
    (same : Text.lowercase label = Text.lowercase other) : first = second := by
  have distinct : (after.occurrences (doc.descendants root) (Text.lowercase label)).Nodup := by
    rw [numbered.inOrder]
    exact List.nodup_range'
  have apart := List.pairwise_filterMap.mp distinct
  have symmetric : Std.Symm fun a b : NodeId =>
      ∀ x, (after.kind? a).bind (occurrenceOf (Text.lowercase label)) = some x →
        ∀ y, (after.kind? b).bind (occurrenceOf (Text.lowercase label)) = some y → x ≠ y :=
    ⟨fun a b differ x foundX y foundY => (differ y foundY x foundX).symm⟩
  by_contra different
  refine apart.forall ((mem_descendants_renumbered rooted numbered).mp left).1
    ((mem_descendants_renumbered rooted numbered).mp right).1 different occurrence ?_ occurrence ?_ rfl
  · rw [foundLeft]
    simp [occurrenceOf]
  · rw [foundRight]
    simp [occurrenceOf, same]

end

private theorem href_reference (label : String) (occurrence : Nat) :
    (referenceAttributes label occurrence).get? "href" = some ("#" ++ definitionId label) := rfl

private theorem id_reference (label : String) (occurrence : Nat) :
    (referenceAttributes label occurrence).get? "id" = some (referenceId label occurrence) := rfl

private theorem href_backref (label : String) (number occurrence : Nat) :
    (backrefAttributes label number occurrence).get? "href" = some ("#" ++ referenceId label occurrence) := rfl

private theorem index_backref (label : String) (number occurrence : Nat) :
    (backrefAttributes label number occurrence).get? "data-footnote-backref-idx" =
      some (backrefIndex number occurrence) := rfl

private theorem definitionId_inj {label other : String} (same : definitionId label = definitionId other) :
    label = other :=
  (String.append_right_inj _).mp same

private theorem leadsTo_item {label other : String} {occurrence : Nat} :
    LeadsTo (referenceAttributes label occurrence) (.ofList [("id", definitionId other)]) ↔ label = other := by
  constructor
  · rintro ⟨name, target, link⟩
    have name_ : definitionId other = name := Option.some.inj target
    rw [href_reference, ← name_] at link
    exact definitionId_inj ((String.append_right_inj _).mp (Option.some.inj link))
  · rintro rfl
    exact ⟨_, rfl, rfl⟩

private theorem id_of_tagged (wellFormed : renderer.document.WellFormed) (held : renderer.document.Holds root)
    (noRules : renderer.rules.attributeRules = #[]) {id : NodeId} {label : String} {number occurrence : Nat}
    (found : renderer.document.kind? id = some (.footnoteReference label number occurrence)) {tag name : String}
    {attributes : AttributeSet} (tagged : renderer.Tagged id tag attributes) (named : attributes.get? "id" = some name) :
    Rendered renderer.document id ∧ name = referenceId label occurrence := by
  obtain ⟨rendered, kind⟩ := (tagged_reference wellFormed held noRules found).mp tagged
  refine ⟨rendered, ?_⟩
  rcases kind with ⟨_, rfl⟩ | ⟨_, rfl⟩
  · cases named
  · rw [id_reference] at named
    exact (Option.some.inj named).symm

private theorem referenceId_one (label : String) : referenceId label 1 = "fnref-" ++ label := rfl

private theorem referenceId_later (label : String) {occurrence : Nat} (later : 1 < occurrence) :
    referenceId label occurrence = "fnref-" ++ (label ++ "-" ++ toString occurrence) := by
  rw [referenceId, if_pos later, String.append_assoc, String.append_assoc, String.append_assoc]

private theorem exists_reference {doc : Document} {id : NodeId} (type : doc.type? id = some .footnoteReference) :
    ∃ label number occurrence, doc.kind? id = some (.footnoteReference label number occurrence) := by
  obtain ⟨kind, found, same⟩ := Option.map_eq_some_iff.mp type
  cases kind with
  | footnoteReference label number occurrence => exact ⟨label, number, occurrence, found⟩
  | _ => cases same

section
variable {doc : Document} (rooted : doc.Rooted) (numbered : Renumbered doc renderer.document)
  (noRules : renderer.rules.attributeRules = #[])
include rooted numbered noRules

private theorem linksBothWays {reference definition : NodeId} {label : String} {number occurrence references : Nat}
    (member : reference ∈ renderer.document.descendants root)
    (found : renderer.document.kind? reference = some (.footnoteReference label number occurrence))
    (inside : definition ∈ renderer.document.descendants root)
    (defined : renderer.document.kind? definition = some (.footnoteDefinition label number references)) :
    renderer.LinksBothWays definition number occurrence (referenceAttributes label occurrence) := by
  have wellFormed := numbered.rooted.linked.wellFormed
  have held := numbered.rooted.held
  have rendered := rendered_definition rooted numbered inside defined
  have positive := occurrence_pos rooted numbered member found
  have counted := occurrence_le rooted numbered member found inside defined
  refine ⟨⟨_, (tagged_item wellFormed held noRules defined).mpr ⟨rendered, rfl⟩⟩, fun other tagged => ?_, ?_,
    fun back isBack => ?_⟩
  · obtain ⟨_, rfl⟩ := (tagged_item wellFormed held noRules defined).mp tagged
    exact leadsTo_item.mpr rfl
  · exact ⟨_, tagged_backref wellFormed held noRules defined rendered positive counted, index_backref ..⟩
  · obtain ⟨tagged, index⟩ := isBack
    obtain ⟨counter, counterPos, rfl⟩ := backrefs_of_tagged wellFormed held noRules defined tagged
    rw [index_backref] at index
    obtain rfl := backrefIndex_inj counterPos positive (Option.some.inj index)
    exact ⟨_, id_reference .., href_backref ..⟩

private theorem footnoteLinksResolve_of_renumbered : renderer.FootnoteLinksResolve ↔
    ∀ reference, Rendered renderer.document reference → ∀ definition ∈ renderer.document.descendants root,
      ∀ label other number occurrence references,
        renderer.document.kind? reference = some (.footnoteReference label number occurrence) →
        renderer.document.kind? definition = some (.footnoteDefinition other number references) → label = other := by
  have wellFormed := numbered.rooted.linked.wellFormed
  have held := numbered.rooted.held
  constructor
  · intro resolve reference rendered definition inside label other number occurrence references found defined
    have member := (wellFormed.mem_descendants held).mpr rendered.within
    have link := (tagged_reference wellFormed held noRules found).mpr ⟨rendered, .inr ⟨rfl, rfl⟩⟩
    have both := resolve reference member definition inside label other number occurrence references found defined _ link
    obtain ⟨item, tagged⟩ := both.item
    obtain ⟨_, rfl⟩ := (tagged_item wellFormed held noRules defined).mp tagged
    exact leadsTo_item.mp (both.forth _ tagged)
  · intro spelled reference member definition inside label other number occurrence references found defined link tagged
    obtain ⟨rendered, kind⟩ := (tagged_reference wellFormed held noRules found).mp tagged
    obtain rfl := spelled reference rendered definition inside label other number occurrence references found defined
    obtain rfl : link = referenceAttributes label occurrence := by simpa using kind
    exact linksBothWays rooted numbered noRules member found inside defined

private theorem referenceIdsDiffer_of_renumbered : renderer.ReferenceIdsDiffer ↔
    ∀ first, Rendered renderer.document first → ∀ second, Rendered renderer.document second →
      ∀ label other number count occurrence,
        renderer.document.kind? first = some (.footnoteReference label number 1) →
        renderer.document.kind? second = some (.footnoteReference other count occurrence) → 1 < occurrence →
        label ≠ other ++ "-" ++ toString occurrence := by
  have wellFormed := numbered.rooted.linked.wellFormed
  have held := numbered.rooted.held
  have reached : ∀ {id}, Rendered renderer.document id → id ∈ renderer.document.descendants root := fun rendered =>
    (wellFormed.mem_descendants held).mpr rendered.within
  constructor
  · intro differ first renderedFirst second renderedSecond label other number count occurrence foundFirst foundSecond later
      same
    have different : first ≠ second := by
      rintro rfl
      cases foundFirst.symm.trans foundSecond
      omega
    have typeFirst : renderer.document.type? first = some .footnoteReference := by rw [type?, foundFirst]; rfl
    have typeSecond : renderer.document.type? second = some .footnoteReference := by rw [type?, foundSecond]; rfl
    have left := (tagged_reference wellFormed held noRules foundFirst).mpr ⟨renderedFirst, .inr ⟨rfl, rfl⟩⟩
    have right := (tagged_reference wellFormed held noRules foundSecond).mpr ⟨renderedSecond, .inr ⟨rfl, rfl⟩⟩
    refine differ first (reached renderedFirst) second (reached renderedSecond) different typeFirst typeSecond "a" "a" _ _
      _ left right (id_reference label 1) ?_
    rw [id_reference, referenceId_later other later, referenceId_one, same]
  · intro counted first insideFirst second insideSecond different typeFirst typeSecond tag other left right name taggedFirst
      taggedSecond namedFirst namedSecond
    obtain ⟨label, number, occurrence, foundFirst⟩ := exists_reference typeFirst
    obtain ⟨label', number', occurrence', foundSecond⟩ := exists_reference typeSecond
    obtain ⟨renderedFirst, rfl⟩ := id_of_tagged wellFormed held noRules foundFirst taggedFirst namedFirst
    obtain ⟨renderedSecond, same⟩ := id_of_tagged wellFormed held noRules foundSecond taggedSecond namedSecond
    have one := occurrence_pos rooted numbered insideFirst foundFirst
    have one' := occurrence_pos rooted numbered insideSecond foundSecond
    have unique : label = label' → occurrence = occurrence' → False := by
      rintro rfl rfl
      exact different (reference_unique rooted numbered insideFirst insideSecond foundFirst foundSecond rfl)
    rcases Nat.eq_or_lt_of_le one with rfl | later <;> rcases Nat.eq_or_lt_of_le one' with rfl | later'
    · exact unique ((String.append_right_inj _).mp same) rfl
    · rw [referenceId_one, referenceId_later _ later'] at same
      exact counted first renderedFirst second renderedSecond label label' number number' occurrence' foundFirst
        foundSecond later' ((String.append_right_inj _).mp same)
    · rw [referenceId_one, referenceId_later _ later] at same
      exact counted second renderedSecond first renderedFirst label' label number' number occurrence foundSecond
        foundFirst later ((String.append_right_inj _).mp same.symm)
    · rw [referenceId_later _ later, referenceId_later _ later'] at same
      obtain ⟨labels, counters⟩ := counted_inj ((String.append_right_inj _).mp same)
      exact unique labels counters

end

/-- Without rules of a caller, the document of a grammar tree is written by its calls, and its footnote links resolve
if and only if every reference that is rendered is spelled like the definition with its number. -/
theorem footnoteLinksResolve_iff (blocks : List GrammarTree) (extensions : List Extension) (options : RendererOptions) :
    renderDocument (ofGrammar blocks).1 extensions options {} =
        some (.ok (htmlOf (ofExtensions (ofGrammar blocks).1 extensions options {}).written)) ∧
      ((ofExtensions (ofGrammar blocks).1 extensions options {}).FootnoteLinksResolve ↔
        ∀ reference, Rendered (ofGrammar blocks).1 reference → ∀ definition ∈ (ofGrammar blocks).1.descendants root,
          ∀ label other number occurrence references,
            (ofGrammar blocks).1.kind? reference = some (.footnoteReference label number occurrence) →
            (ofGrammar blocks).1.kind? definition = some (.footnoteDefinition other number references) →
            label = other) := by
  have numbered : Renumbered (placed blocks) (ofGrammar blocks).1 := (rooted_placed blocks).renumbered
  refine ⟨renderDocument_written numbered.rooted.linked.wellFormed numbered.rooted.held extensions options, ?_⟩
  exact footnoteLinksResolve_of_renumbered (rooted_placed blocks) numbered rfl

/-- One definition, and a reference to it with a capital letter. The reference leads to a name that is not there. -/
theorem not_footnoteLinksResolve_capital :
    let blocks := [.node .paragraph [.leaf (.footnoteReference "A")],
      .node (.footnoteDefinition "a") [.node .paragraph [.leaf (.text "x")]]]
    (∀ first ∈ (placed blocks).descendants root, ∀ second ∈ (placed blocks).descendants root, ∀ key,
      (placed blocks).Defines key first → (placed blocks).Defines key second → first = second) ∧
    ¬ (ofExtensions (ofGrammar blocks).1 [] {} {}).FootnoteLinksResolve := by
  intro blocks
  have grown : placed blocks = (((((empty.appendNew root .paragraph).2.appendNew ⟨1⟩
      (.footnoteReference "A" 0 0)).2.appendNew root (.footnoteDefinition "a" 0 0)).2.appendNew ⟨3⟩
      .paragraph).2.appendNew ⟨4⟩ (.text "x")).2 := by
    simp only [blocks, placed, under, place, placement, List.map_cons, List.map_nil, List.cons_append, List.nil_append,
      GrammarTree.leaf]
    rfl
  constructor
  · have only : ∀ id ∈ (placed blocks).descendants root, ((placed blocks).kind? id).bind definitionKey ≠ none →
        id = ⟨3⟩ := by
      rw [grown]
      decide +kernel
    intro first left second right key definesFirst definesSecond
    have here := only first left (by rw [definesFirst]; exact Option.some_ne_none key)
    rw [here, only second right (by rw [definesSecond]; exact Option.some_ne_none key)]
  · intro resolve
    have numbered : Renumbered (placed blocks) (ofGrammar blocks).1 := (rooted_placed blocks).renumbered
    have wellFormed := numbered.rooted.linked.wellFormed
    have held := numbered.rooted.held
    have kinds : (placed blocks).numberFootnotes.1.kind? ⟨1⟩ = some .paragraph ∧
        (placed blocks).numberFootnotes.1.kind? ⟨2⟩ = some (.footnoteReference "A" 1 1) ∧
        (placed blocks).numberFootnotes.1.kind? ⟨3⟩ = some (.footnoteDefinition "a" 1 1) ∧
        (placed blocks).numberFootnotes.1.parent? ⟨1⟩ = some root ∧
        (placed blocks).numberFootnotes.1.parent? ⟨2⟩ = some ⟨1⟩ ∧
        (placed blocks).numberFootnotes.1.parent? ⟨3⟩ = some root := by
      rw [grown]
      decide +kernel
    obtain ⟨paragraph, reference, definition, inRoot, inParagraph, below⟩ := kinds
    have rendered : Rendered (ofGrammar blocks).1 ⟨2⟩ :=
      .child (.child .root numbered.rooted.kind rfl inRoot) paragraph rfl inParagraph
    have kept : Rendered (ofGrammar blocks).1 ⟨3⟩ := .child .root numbered.rooted.kind rfl below
    have noRules : (ofExtensions (ofGrammar blocks).1 [] {} {}).rules.attributeRules = #[] := rfl
    have link := (tagged_reference wellFormed held noRules reference).mpr ⟨rendered, .inr ⟨rfl, rfl⟩⟩
    have item := (tagged_item wellFormed held noRules definition).mpr ⟨kept, rfl⟩
    have both := resolve ⟨2⟩ ((wellFormed.mem_descendants held).mpr rendered.within) ⟨3⟩
      ((wellFormed.mem_descendants held).mpr kept.within) "A" "a" 1 1 1 reference definition _ link
    exact absurd (leadsTo_item.mp (both.forth _ item)) (by decide)

/-- Without rules of a caller, the document of a grammar tree is written by its calls, and its references have
different ids if and only if none is spelled like a later reference to another footnote, counter included. -/
theorem referenceIdsDiffer_iff (blocks : List GrammarTree) (extensions : List Extension) (options : RendererOptions) :
    renderDocument (ofGrammar blocks).1 extensions options {} =
        some (.ok (htmlOf (ofExtensions (ofGrammar blocks).1 extensions options {}).written)) ∧
      ((ofExtensions (ofGrammar blocks).1 extensions options {}).ReferenceIdsDiffer ↔
        ∀ first, Rendered (ofGrammar blocks).1 first → ∀ second, Rendered (ofGrammar blocks).1 second →
          ∀ label other number count occurrence,
            (ofGrammar blocks).1.kind? first = some (.footnoteReference label number 1) →
            (ofGrammar blocks).1.kind? second = some (.footnoteReference other count occurrence) → 1 < occurrence →
            label ≠ other ++ "-" ++ toString occurrence) := by
  have numbered : Renumbered (placed blocks) (ofGrammar blocks).1 := (rooted_placed blocks).renumbered
  refine ⟨renderDocument_written numbered.rooted.linked.wellFormed numbered.rooted.held extensions options, ?_⟩
  exact referenceIdsDiffer_of_renumbered (rooted_placed blocks) numbered rfl

private theorem numberFootnotes_of_sorted {doc : Document} {first : Document × ReferenceCounts}
    (counted : (doc.descendants root).foldl numberReference (doc, {}) = first)
    (sorted : (doc.definitions.foldl (numberDefinition first.2) { document := first.1 }).numbered.Pairwise
      fun first second => first.1 ≤ second.1) :
    doc.numberFootnotes.1 = (doc.definitions.foldl (numberDefinition first.2) { document := first.1 }).numbered.foldl
      (fun doc entry => doc.appendChild root entry.2)
      (doc.definitions.foldl (numberDefinition first.2) { document := first.1 }).document := by
  subst counted
  have kept := List.mergeSort_of_pairwise (sorted.imp fun smaller => decide_eq_true smaller)
  change List.foldl _ _ (List.mergeSort _ _) = _
  rw [← definitions, kept]

/-- The second reference to one footnote has the name of the only reference to another one. -/
theorem not_referenceIdsDiffer_counter :
    let blocks := [.node .paragraph [.leaf (.footnoteReference "a"), .leaf (.footnoteReference "a"),
      .leaf (.footnoteReference "a-2")], .leaf (.footnoteDefinition "a"), .leaf (.footnoteDefinition "a-2")]
    ¬ (ofExtensions (ofGrammar blocks).1 [] {} {}).ReferenceIdsDiffer := by
  intro blocks differ
  have numbered : Renumbered (placed blocks) (ofGrammar blocks).1 := (rooted_placed blocks).renumbered
  have wellFormed := numbered.rooted.linked.wellFormed
  have held := numbered.rooted.held
  have grown : placed blocks = ((((((empty.appendNew root .paragraph).2.appendNew ⟨1⟩
      (.footnoteReference "a" 0 0)).2.appendNew ⟨1⟩ (.footnoteReference "a" 0 0)).2.appendNew ⟨1⟩
      (.footnoteReference "a-2" 0 0)).2.appendNew root (.footnoteDefinition "a" 0 0)).2.appendNew root
      (.footnoteDefinition "a-2" 0 0)).2 := by
    simp only [blocks, placed, under, place, placement, List.map_cons, List.map_nil, List.cons_append, List.nil_append,
      GrammarTree.leaf]
    rfl
  have kinds : (placed blocks).numberFootnotes.1.kind? ⟨1⟩ = some .paragraph ∧
      (placed blocks).numberFootnotes.1.kind? ⟨3⟩ = some (.footnoteReference "a" 1 2) ∧
      (placed blocks).numberFootnotes.1.kind? ⟨4⟩ = some (.footnoteReference "a-2" 2 1) ∧
      (placed blocks).numberFootnotes.1.parent? ⟨1⟩ = some root ∧
      (placed blocks).numberFootnotes.1.parent? ⟨3⟩ = some ⟨1⟩ ∧
      (placed blocks).numberFootnotes.1.parent? ⟨4⟩ = some ⟨1⟩ := by
    rw [numberFootnotes_of_sorted rfl (by rw [grown]; decide +kernel), grown]
    decide +kernel
  obtain ⟨paragraph, second, other, inRoot, inParagraph, beside⟩ := kinds
  have above : Rendered (ofGrammar blocks).1 ⟨1⟩ := .child .root numbered.rooted.kind rfl inRoot
  have rendered : Rendered (ofGrammar blocks).1 ⟨3⟩ := .child above paragraph rfl inParagraph
  have renderedOther : Rendered (ofGrammar blocks).1 ⟨4⟩ := .child above paragraph rfl beside
  have noRules : (ofExtensions (ofGrammar blocks).1 [] {} {}).rules.attributeRules = #[] := rfl
  have left := (tagged_reference wellFormed held noRules second).mpr ⟨rendered, .inr ⟨rfl, rfl⟩⟩
  have right := (tagged_reference wellFormed held noRules other).mpr ⟨renderedOther, .inr ⟨rfl, rfl⟩⟩
  have type : (ofGrammar blocks).1.type? ⟨3⟩ = some .footnoteReference := congrArg (Option.map _) second
  have typeOther : (ofGrammar blocks).1.type? ⟨4⟩ = some .footnoteReference := congrArg (Option.map _) other
  exact differ ⟨3⟩ ((wellFormed.mem_descendants held).mpr rendered.within) ⟨4⟩
    ((wellFormed.mem_descendants held).mpr renderedOther.within) (by decide) type typeOther "a" "a" _ _ "fnref-a-2" left
    right (id_reference "a" 2) (id_reference "a-2" 1)

end MarkdownHtml.Renderer
