import MarkdownHtml.Proofs.Links
import MarkdownHtml.Proofs.RenderPlans
import Mathlib.Data.Fintype.EquivFin
import Mathlib.Data.Set.Finite.Lattice

/-! The anchors of headings. A state of a rendering holds the ids in use, and the id of each heading that has one.
The two agree at all times, whatever is rendered in whatever order: an id is made once, is new when it is made, and
is kept. -/

namespace MarkdownHtml

theorem lookup_cons_eq [DecidableEq α] (key other : α) (value : β) (entries : List (α × β)) :
    ((key, value) :: entries).lookup other = if other = key then some value else entries.lookup other := by
  by_cases same : other = key
  · simp [same]
  · rw [List.lookup_cons, beq_false_of_ne same, if_neg same]

namespace AnchorIds

def Taken (ids : AnchorIds) (id : String) : Prop := (counter? ids.seen id).isSome

/-- The end of a chain of candidates is none of the ids already given, those passed over included. -/
theorem counter?_unique (seen : List (String × Nat)) (id : String) : counter? seen (unique seen id).1 = none := by
  fun_induction unique seen id with
  | case1 seen id count found ih =>
    rw [counter?, lookup_cons_eq] at ih
    split at ih
    · cases ih
    · exact ih
  | case2 seen id fresh => exact fresh

private theorem isSome_counter?_unique (seen : List (String × Nat)) (id other : String) :
    (counter? (unique seen id).2 other).isSome ↔ other = (unique seen id).1 ∨ (counter? seen other).isSome := by
  fun_induction unique seen id with
  | case1 seen id count found ih =>
    rw [ih, counter?, lookup_cons_eq]
    split
    next same => simp [same, found]
    next => rfl
  | case2 seen id fresh =>
    rw [counter?, lookup_cons_eq]
    split
    next same => simp [same]
    next other => exact (or_iff_right other).symm

theorem not_taken_generate (ids : AnchorIds) (text : String) : ¬ids.Taken (ids.generate text).1 := by
  have fresh : counter? ids.seen (ids.generate text).1 = none := counter?_unique ids.seen _
  simp [Taken, fresh]

theorem taken_generate (ids : AnchorIds) (text other : String) :
    (ids.generate text).2.Taken other ↔ other = (ids.generate text).1 ∨ ids.Taken other :=
  isSome_counter?_unique ids.seen _ other

end AnchorIds

namespace Renderer
open Html RenderM

/-- Each heading that has an id has it to itself, and the id is in use. -/
structure Consistent (state : RenderState) : Prop where
  taken : ∀ id anchor, state.headingIds.lookup id = some anchor → state.anchors.Taken anchor
  apart : ∀ first second anchor, state.headingIds.lookup first = some anchor →
    state.headingIds.lookup second = some anchor → first = second

def Grows (before after : RenderState) : Prop :=
  ∀ id anchor, before.headingIds.lookup id = some anchor → after.headingIds.lookup id = some anchor

theorem Grows.trans {first second third : RenderState} (left : Grows first second) (right : Grows second third) :
    Grows first third := fun id anchor given => right id anchor (left id anchor given)

private theorem consistent_fresh : Consistent {} where
  taken _ _ given := by cases given
  apart _ _ _ given := by cases given

variable {renderer : Renderer}

def Anchored (renderer : Renderer) (id : NodeId) : Prop :=
  renderer.headingAnchors = true ∧ renderer.document.type? id = some .heading

private theorem decorateBuiltin_anchored {id : NodeId} (anchored : renderer.Anchored id) (base : AttributeSet) :
    renderer.decorateBuiltin id base = (do return base.insert "id" (← renderer.headingId id)) := by
  obtain ⟨active, heading⟩ := anchored
  obtain ⟨kind, found, type⟩ := Option.map_eq_some_iff.mp heading
  unfold decorateBuiltin
  cases kind with
  | heading level => simp only [found, active, if_true]
  | _ => cases type

private theorem decorateBuiltin_plain {id : NodeId} (plain : ¬renderer.Anchored id) (base : AttributeSet) :
    ∃ handed, renderer.decorateBuiltin id base = pure handed := by
  unfold decorateBuiltin
  split
  next level found =>
    have inactive : renderer.headingAnchors ≠ true :=
      fun active => plain ⟨active, Option.map_eq_some_iff.mpr ⟨_, found, rfl⟩⟩
    rw [if_neg inactive]
    exact ⟨_, rfl⟩
  next => split <;> exact ⟨_, rfl⟩
  next => exact ⟨_, rfl⟩

def Handed (renderer : Renderer) (state : RenderState) (decoration : Decoration) : Prop :=
  renderer.Anchored decoration.node →
    ∃ anchor, decoration.handed.get? "id" = some anchor ∧ state.headingIds.lookup decoration.node = some anchor

private theorem Handed.grows {state after : RenderState} {decoration : Decoration}
    (handed : renderer.Handed state decoration) (grows : Grows state after) : renderer.Handed after decoration := by
  intro anchored
  obtain ⟨anchor, same, given⟩ := handed anchored
  exact ⟨anchor, same, grows _ _ given⟩

theorem Grows.add {state : RenderState} {id : NodeId} (none : state.headingIds.lookup id = none) (anchor : String)
    (anchors : AnchorIds) : Grows state { state with anchors, headingIds := (id, anchor) :: state.headingIds } := by
  intro other held given
  have old : other ≠ id := by
    rintro rfl
    cases none.symm.trans given
  rw [lookup_cons_eq, if_neg old]
  exact given

theorem Consistent.add {state : RenderState} (consistent : Consistent state) (id : NodeId) {anchor : String}
    {anchors : AnchorIds} (fresh : ¬state.anchors.Taken anchor)
    (taken : ∀ other, anchors.Taken other ↔ other = anchor ∨ state.anchors.Taken other) :
    Consistent { state with anchors, headingIds := (id, anchor) :: state.headingIds } where
  taken other held given := by
  -- An id that is not in use is nobody's, since every id that a heading has is in use.
    rw [lookup_cons_eq] at given
    rw [taken]
    split at given
    · exact .inl (Option.some.inj given).symm
    · exact .inr (consistent.taken other held given)
  apart first second held left right := by
    have nobody : ∀ other, state.headingIds.lookup other ≠ some anchor :=
      fun other given => fresh (consistent.taken other anchor given)
    rw [lookup_cons_eq] at left right
    split at left <;> split at right
    next firstNew secondNew => exact firstNew.trans secondNew.symm
    next => exact absurd (left ▸ right) (nobody second)
    next => exact absurd (right ▸ left) (nobody first)
    next => exact consistent.apart first second held left right

private theorem Consistent.headingId {state after : RenderState} (consistent : Consistent state) {id : NodeId}
    {anchor : String} (ran : renderer.headingId id state = some (.ok anchor, after)) :
    Consistent after ∧ Grows state after ∧ after.headingIds.lookup id = some anchor := by
  cases given : state.headingIds.lookup id with
  | some anchor =>
    rw [headingId_given given] at ran
    cases ran
    exact ⟨consistent, fun _ _ held => held, given⟩
  | none =>
    rw [headingId_made given] at ran
    cases ran
    have fresh := state.anchors.not_taken_generate (renderer.document.textContent id)
    have taken := state.anchors.taken_generate (renderer.document.textContent id)
    exact ⟨consistent.add id fresh taken, .add given _ _, List.lookup_cons_self⟩

/-- One decoration: the state stays consistent, and a heading is handed its id. -/
theorem Consistent.decorate {state after : RenderState} (consistent : Consistent state) {id : NodeId} (tag : String)
    {base handed : AttributeSet} (ran : renderer.decorateBuiltin id base state = some (.ok handed, after)) :
    Consistent after ∧ Grows state after ∧ renderer.Handed after ⟨id, tag, handed⟩ := by
  by_cases anchored : renderer.Anchored id
  · rw [decorateBuiltin_anchored anchored] at ran
    obtain ⟨anchor, middle, made, inserted⟩ := ok_of_bind ran
    cases inserted
    obtain ⟨kept, grows, given⟩ := consistent.headingId made
    exact ⟨kept, grows, fun _ => ⟨anchor, by simp [OrderedMap.get?_insert], given⟩⟩
  · obtain ⟨_, same⟩ := decorateBuiltin_plain anchored base
    rw [same] at ran
    cases ran
    exact ⟨consistent, fun _ _ held => held, fun is => absurd is anchored⟩

/-- What is seen of a plan that starts in a consistent state. -/
structure Settled (renderer : Renderer) (before : RenderState) (seen : Observation α) : Prop where
  consistent : Consistent seen.state
  grows : Grows before seen.state
  handed : ∀ decoration ∈ seen.decorations, renderer.Handed seen.state decoration

/-- A whole plan, by induction on it: every decoration finds the ids of those before. -/
theorem Consistent.follow {state : RenderState} (consistent : Consistent state) (plan : Plan α) :
    renderer.Settled state (renderer.follow plan state) := by
  induction plan generalizing state with
  | done result => exact ⟨consistent, fun _ _ held => held, by simp [Renderer.follow]⟩
  | exhausted => exact ⟨consistent, fun _ _ held => held, by simp [Renderer.follow]⟩
  | write call rest ih =>
    have written : Consistent { state with writer := state.writer.perform call } :=
      ⟨consistent.taken, consistent.apart⟩
    obtain ⟨kept, grows, handed⟩ := ih written
    exact ⟨kept, grows, handed⟩
  | output rest ih => exact ih _ consistent
  | decorate id tag base rest ih =>
    obtain ⟨handed, after, ran⟩ := @decorateBuiltin_ok renderer id base state
    obtain ⟨between, made, first⟩ := consistent.decorate tag ran
    have later := ih handed between
    rw [follow_decorate ran]
    refine ⟨later.consistent, made.trans later.grows, ?_⟩
    intro decoration seen
    rcases List.mem_cons.mp seen with rfl | seen
    · exact first.grows later.grows
    · exact later.handed decoration seen
  | callback event rest ih =>
    obtain ⟨kept, grows, handed⟩ := ih consistent
    exact ⟨kept, grows, handed⟩

private theorem Prolongs.grows {plan longer : Plan α} (prolongs : Prolongs plan longer) {state : RenderState}
    (consistent : Consistent state) :
    Grows (renderer.follow plan state).state (renderer.follow longer state).state := by
  induction prolongs generalizing state with
  | exhausted longer => exact (consistent.follow longer).grows
  | done result => exact fun _ _ held => held
  | write call rest ih => exact ih ⟨consistent.taken, consistent.apart⟩
  | output rest ih => exact ih _ consistent
  | decorate id tag base rest ih =>
    obtain ⟨handed, after, ran⟩ := @decorateBuiltin_ok renderer id base state
    rw [follow_decorate ran, follow_decorate ran]
    exact ih handed (consistent.decorate tag ran).1
  | callback event rest ih => exact ih consistent

def Given (renderer : Renderer) (id : NodeId) (anchor : String) : Prop :=
  ∃ budget, (renderer.observe budget Document.root).state.headingIds.lookup id = some anchor

private theorem Given.together {first second : NodeId} {left right : String} (one : renderer.Given first left)
    (other : renderer.Given second right) :
    ∃ state, Consistent state ∧ state.headingIds.lookup first = some left ∧
      state.headingIds.lookup second = some right := by
  -- Ids given within two budgets are both given within the larger one.
  obtain ⟨budget, one⟩ := one
  obtain ⟨later, other⟩ := other
  refine ⟨(renderer.observe (max budget later) Document.root).state, (consistent_fresh.follow _).consistent, ?_, ?_⟩
  · exact (Prolongs.run (Nat.le_max_left budget later) _).grows consistent_fresh _ _ one
  · exact (Prolongs.run (Nat.le_max_right budget later) _).grows consistent_fresh _ _ other

theorem Given.unique {id : NodeId} {left right : String} (one : renderer.Given id left)
    (other : renderer.Given id right) : left = right := by
  obtain ⟨state, _, first, second⟩ := one.together other
  exact Option.some.inj (first.symm.trans second)

private theorem Given.apart {first second : NodeId} {anchor : String} (one : renderer.Given first anchor)
    (other : renderer.Given second anchor) : first = second := by
  obtain ⟨state, consistent, left, right⟩ := one.together other
  exact consistent.apart first second anchor left right

private theorem finite_headings (doc : Document) : {id | doc.type? id = some .heading}.Finite := by
  refine ((Set.finite_lt_nat doc.size).image NodeId.mk).subset fun id heading => ⟨id.index, ?_, rfl⟩
  obtain ⟨kind, found, _⟩ := Option.map_eq_some_iff.mp heading
  exact Document.holds_iff_kind.mpr ⟨kind, found⟩

private theorem exists_spare {used : Set String} (finite : used.Finite) :
    ∃ spare : NodeId → String, Function.Injective spare ∧ ∀ id, spare id ∉ used := by
  let numbered := Set.Infinite.natEmbedding _ finite.infinite_compl
  refine ⟨fun id => numbered id.index, fun first second same => ?_, fun id => (numbered id.index).2⟩
  exact congrArg NodeId.mk (numbered.injective (Subtype.ext same))

/-- Ids that some headings have can be completed to ids of all headings, no two of which are equal. -/
theorem exists_completion {headings : Set NodeId} (finite : headings.Finite) {given : NodeId → String → Prop}
    (unique : ∀ id left right, given id left → given id right → left = right)
    (apart : ∀ first second anchor, given first anchor → given second anchor → first = second) :
    ∃ ids : NodeId → String, Set.InjOn ids headings ∧ ∀ id anchor, given id anchor → ids id = anchor := by
  classical
  have each : ∀ id ∈ headings, {anchor | given id anchor}.Finite :=
    fun id _ => Set.Subsingleton.finite fun left one right other => unique id left right one other
  have used : (⋃ id ∈ headings, {anchor | given id anchor}).Finite := finite.biUnion each
  obtain ⟨spare, injective, unused⟩ := exists_spare used
  let ids : NodeId → String := fun id => if known : ∃ anchor, given id anchor then known.choose else spare id
  have kept : ∀ id anchor, given id anchor → ids id = anchor := by
    intro id anchor own
    have known : ∃ anchor, given id anchor := ⟨anchor, own⟩
    simp only [ids, dif_pos known]
    exact unique id _ _ known.choose_spec own
  have filled : ∀ id, (¬∃ anchor, given id anchor) → ids id = spare id := fun id missing => dif_neg missing
  have free : ∀ first second anchor, first ∈ headings → given first anchor → spare second ≠ anchor :=
    fun first second anchor heading own same => unused second (Set.mem_biUnion heading (same ▸ own))
  refine ⟨ids, fun first firstIn second secondIn same => ?_, kept⟩
  by_cases one : ∃ anchor, given first anchor <;> by_cases other : ∃ anchor, given second anchor
  · obtain ⟨anchor, one⟩ := one
    obtain ⟨_, other⟩ := other
    rw [kept first anchor one, kept second _ other] at same
    exact apart first second anchor one (same ▸ other)
  · obtain ⟨anchor, one⟩ := one
    rw [kept first anchor one, filled second other] at same
    exact absurd same.symm (free first second anchor firstIn one)
  · obtain ⟨anchor, other⟩ := other
    rw [filled first one, kept second anchor other] at same
    exact absurd same (free second first anchor secondIn other)
  · rw [filled first one, filled second other] at same
    exact injective same

/-- While a document is rendered with anchors, all headings have ids of their own. However often a tag is decorated for
a heading, and for whatever tag, the first rule of a caller is handed its id. -/
theorem headings_anchored (doc : Document) (extensions : List Extension) (options : RendererOptions) (rules : RuleSet)
    (active : .headingAnchors ∈ extensions) :
    let renderer := ofExtensions doc extensions options rules
    ∃ ids : NodeId → String, Set.InjOn ids {id | doc.type? id = some .heading} ∧
      ∀ budget, renderer.render budget Document.root {} = (renderer.observe budget Document.root).outcome ∧
        ∀ decoration ∈ (renderer.observe budget Document.root).decorations,
          doc.type? decoration.node = some .heading → decoration.handed.get? "id" = some (ids decoration.node) := by
  intro renderer
  have unique : ∀ id left right, renderer.Given id left → renderer.Given id right → left = right :=
    fun _ _ _ => Given.unique
  have apart : ∀ first second anchor, renderer.Given first anchor → renderer.Given second anchor →
      first = second := fun _ _ _ => Given.apart
  obtain ⟨ids, injective, kept⟩ := exists_completion (finite_headings doc) unique apart
  refine ⟨ids, injective, fun budget => ⟨render_observed budget Document.root, ?_⟩⟩
  intro decoration seen heading
  have anchored : renderer.Anchored decoration.node := ⟨List.contains_iff_mem.mpr active, heading⟩
  obtain ⟨anchor, handed, held⟩ := (consistent_fresh.follow _).handed decoration seen anchored
  rw [handed, kept decoration.node anchor ⟨budget, held⟩]

/-- Two equal headings, a third one whose text is what the second is given, and a rule that decorates each of them twice
before it has its children rendered, and once more behind them. -/
theorem headings_anchored_again :
    let title := fun (doc : Document) (text : String) =>
      ((doc.appendNew Document.root (.heading 1)).2.appendNew ⟨doc.size⟩ (.text text)).2
    let doc := ["a", "a", "a-1"].foldl title Document.empty
    let again : RenderRule := fun node => .attributes "h1" {} fun _ => .attributes "h2" {} fun _ =>
      .renderChildren node.id fun _ => .attributes "h1" {} fun _ => .done (.ok ())
    let rules := (({} : RuleSet).addRenderRule (NodeTypeSet.empty.insert .heading) again).1
    let renderer := ofExtensions doc [.headingAnchors] {} rules
    .headingAnchors ∈ [Extension.headingAnchors] ∧
      ∃ ids : NodeId → String, Set.InjOn ids {id | doc.type? id = some .heading} ∧
        ids ⟨1⟩ = "a" ∧ ids ⟨3⟩ = "a-1" ∧ ids ⟨5⟩ = "a-1-1" ∧
        ∀ budget, ∀ decoration ∈ (renderer.observe budget Document.root).decorations,
          doc.type? decoration.node = some .heading → decoration.handed.get? "id" = some (ids decoration.node) := by
  intro title doc again rules renderer
  have active : .headingAnchors ∈ [Extension.headingAnchors] := by decide
  obtain ⟨ids, injective, observed⟩ := headings_anchored doc [.headingAnchors] {} rules active
  have handed := (observed 9).2
  let pairs := (renderer.observe 9 Document.root).decorations.map
    fun decoration => (decoration.node, decoration.handed.get? "id")
  have shown : pairs = [(⟨1⟩, some "a"), (⟨1⟩, some "a"), (⟨1⟩, some "a"),
      (⟨3⟩, some "a-1"), (⟨3⟩, some "a-1"), (⟨3⟩, some "a-1"),
      (⟨5⟩, some "a-1-1"), (⟨5⟩, some "a-1-1"), (⟨5⟩, some "a-1-1")] := by decide +kernel
  have own : ∀ id anchor, doc.type? id = some .heading → (id, some anchor) ∈ pairs → ids id = anchor := by
    intro id anchor heading pair
    obtain ⟨decoration, seen, same⟩ := List.mem_map.mp pair
    obtain ⟨rfl, given⟩ := Prod.mk.inj same
    exact Option.some.inj ((handed decoration seen heading).symm.trans given)
  rw [shown] at own
  refine ⟨active, ids, injective, ?_, ?_, ?_, fun budget => (observed budget).2⟩
  · exact own _ _ (by decide) (by decide)
  · exact own _ _ (by decide) (by decide)
  · exact own _ _ (by decide) (by decide)

end Renderer

end MarkdownHtml
