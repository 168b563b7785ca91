import MarkdownHtml.Proofs.EditRuns
import MarkdownHtml.Proofs.RecursiveRender

/-! Where no rule has more rendered than what is below its node, a rendering comes to an end, so it does where no
type has a render rule. A node costs two steps for each node of its subtree: one to enter it, one to leave it. The
footnotes of a document are paid for by its second step. -/

namespace MarkdownHtml.Renderer
open Html RenderM

variable {renderer : Renderer}

theorem inPlace_eq (wellFormed : renderer.document.WellFormed) {id : NodeId}
    (noDocument : renderer.document.type? id ≠ some .document) :
    renderer.inPlace id = renderer.document.childIds id := by
  refine List.filter_eq_self.mpr fun child member => ?_
  have under : renderer.document.parent? child = some id := wellFormed.mem_childIds.mp member
  simp [isDeferred, under, noDocument]

/-- The steps that are taken until a step, and all that it leads to, is done. -/
def cost (renderer : Renderer) : Step → Nat
  | .enter id => 2 * (renderer.document.subtree id).length
  | .exit id => 1 + 2 * ((renderer.deferred id).flatMap renderer.document.subtree).length

def stackCost (renderer : Renderer) (stack : List Step) : Nat := stack.foldr (fun step rest => renderer.cost step + rest) 0

private theorem stackCost_cons (step : Step) (rest : List Step) :
    renderer.stackCost (step :: rest) = renderer.cost step + renderer.stackCost rest :=
  rfl

private theorem stackCost_append (first second : List Step) :
    renderer.stackCost (first ++ second) = renderer.stackCost first + renderer.stackCost second := by
  induction first with
  | nil => exact (Nat.zero_add _).symm
  | cons step rest ih => rw [List.cons_append, stackCost_cons, stackCost_cons, ih, Nat.add_assoc]

private theorem stackCost_singleton (step : Step) : renderer.stackCost [step] = renderer.cost step := by
  simp [stackCost]

private theorem stackCost_enter (ids : List NodeId) :
    renderer.stackCost (ids.map .enter) = 2 * (ids.flatMap renderer.document.subtree).length := by
  induction ids with
  | nil => rfl
  | cons id ids ih =>
    rw [List.map_cons, stackCost_cons, ih, List.flatMap_cons, List.length_append, cost]
    omega

private theorem length_parts (part : NodeId → Bool) (list : NodeId → List NodeId) (ids : List NodeId) :
    ((ids.filter fun id => !part id).flatMap list).length + ((ids.filter part).flatMap list).length =
      (ids.flatMap list).length := by
  induction ids with
  | nil => rfl
  | cons id ids ih => cases held : part id <;> simp [held] at ih ⊢ <;> omega

private theorem stackCost_descend (wellFormed : renderer.document.WellFormed) {id : NodeId}
    (held : renderer.document.Holds id) :
    renderer.stackCost (renderer.descend id) + 1 = renderer.cost (.enter id) := by
  -- The steps that a node leads to, its own second one included, cost one less than the node.
  have parts := length_parts (isDeferred renderer.document) renderer.document.subtree (renderer.document.childIds id)
  have inPlace : renderer.stackCost _ = _ := stackCost_enter (renderer.inPlace id)
  have split : renderer.stackCost (renderer.descend id) =
      renderer.stackCost ((renderer.inPlace id).map .enter) + renderer.stackCost [.exit id] := stackCost_append _ _
  simp only [split, inPlace, stackCost_singleton, cost, wellFormed.subtree_eq held, List.length_cons]
  unfold deferred Renderer.inPlace
  omega

private theorem halts_exit {render : NodeId → RenderM Unit} {id : NodeId}
    (each : ∀ child ∈ renderer.deferred id, Halts (render child)) : Halts (renderer.exit render id) := by
  cases found : renderer.document.kind? id with
  | none =>
    rw [exit_none found]
    exact .pure ()
  | some kind =>
    by_cases document : kind = .document
    · rw [exit_document (document ▸ found)]
      split
      · exact .pure ()
      · exact (halts_emit _).bind fun _ => (Halts.forM _ each).bind fun _ => halts_emit _
    · rw [exit_eq found document]
      exact halts_emit _

private theorem holds_descend (wellFormed : renderer.document.WellFormed) {id child : NodeId}
    (member : .enter child ∈ renderer.descend id) : renderer.document.Holds child := by
  simp only [descend, List.mem_append, List.mem_map, List.mem_filter, Step.enter.injEq, exists_eq_right,
    List.mem_singleton, reduceCtorEq, or_false] at member
  exact Document.holds_of_parent (wellFormed.mem_childIds.mp member.1)

/-- A program of a rule that has nothing rendered but what is below a node. -/
def Descends (doc : Document) (id : NodeId) : RenderProgram α → Prop
  | .done _ => True
  | .write _ next => Descends doc id next
  | .output next => ∀ html, Descends doc id (next html)
  | .renderChildren node next => doc.Within id node ∧ ∀ result, Descends doc id (next result)
  | .render node next => doc.Ancestor id node ∧ ∀ result, Descends doc id (next result)
  | .attributes _ _ next => ∀ result, Descends doc id (next result)

/-- No rule has anything rendered but what is below the node that it is for. -/
def RulesDescend (renderer : Renderer) : Prop :=
  ∀ type rule, renderer.rules.renderRule? type = some rule → ∀ id, renderer.document.type? id = some type →
    Descends renderer.document id (rule (renderer.node id))

theorem rulesDescend_of_none (noRules : ∀ type, renderer.rules.renderRule? type = none) : renderer.RulesDescend := by
  intro type rule found
  rw [noRules] at found
  cases found

private theorem halts_exec {render : NodeId → RenderM Unit} {id : NodeId} (wellFormed : renderer.document.WellFormed)
    (each : ∀ child, renderer.document.Ancestor id child → Halts (render child)) {program : RenderProgram α}
    (descends : Descends renderer.document id program) : Halts (renderer.exec render id program) := by
  induction program with
  | done value => exact .pure value
  | write call next ih => exact .bind (.write call) fun _ => ih descends
  | output next ih => exact .bind (fun _ => ⟨_, rfl⟩) fun state => ih state.writer.html (descends _)
  | renderChildren node next ih =>
    have children : Halts ((renderer.document.childIds node).forM render) := .forM _ fun child member =>
      each child (.tail' descends.1 (wellFormed.mem_childIds.mp member))
    exact .bind children.reify fun result => ih result (descends.2 result)
  | render node next ih => exact .bind (each node descends.1).reify fun result => ih result (descends.2 result)
  | attributes tag base next ih =>
    exact .bind (silent_attributes id tag base).halts.reify fun result => ih result (descends result)

private theorem halts_runRule {render : NodeId → RenderM Unit} {id : NodeId} (wellFormed : renderer.document.WellFormed)
    (each : ∀ child, renderer.document.Ancestor id child → Halts (render child)) (type : NodeType) {rule : RenderRule}
    (descends : Descends renderer.document id (rule (renderer.node id))) :
    Halts (renderer.runRule render id type rule) := by
  refine (halts_exec wellFormed each descends).bind fun result => ?_
  cases result <;> exact fun _ => ⟨_, rfl⟩

/-- What is paid for comes to an end. -/
theorem run_halts (wellFormed : renderer.document.WellFormed)
    (descends : renderer.RulesDescend) (budget : Nat) (stack : List Step)
    (held : ∀ id, .enter id ∈ stack → renderer.document.Holds id) (enough : renderer.stackCost stack ≤ budget) :
    Halts (renderer.run budget stack) := by
  induction budget generalizing stack with
  | zero =>
    cases stack with
    | nil => exact .pure ()
    | cons step rest =>
      rw [stackCost_cons] at enough
      cases step with
      | exit id => simp only [cost] at enough; omega
      | enter id =>
        simp only [cost, wellFormed.subtree_eq (held id (by simp)), List.length_cons] at enough
        omega
  | succ budget ih =>
    cases stack with
    | nil => exact .pure ()
    | cons step rest =>
      rw [stackCost_cons] at enough
      have heldRest : ∀ id, .enter id ∈ rest → renderer.document.Holds id := fun id member => held id (by simp [member])
      rw [run_cons]
      cases step with
      | exit id =>
        simp only [perform, bind_assoc, pure_bind, List.nil_append]
        simp only [cost] at enough
        refine .bind (halts_exit fun child waits => ?_) fun _ => ih rest heldRest (by omega)
        -- Each definition costs no more than all of them, for which the document has paid.
        have under := wellFormed.mem_childIds.mp (List.mem_of_mem_filter waits)
        have part : (renderer.document.subtree child).length ≤
            ((renderer.deferred id).flatMap renderer.document.subtree).length := by
          obtain ⟨before, after, split⟩ := List.append_of_mem waits
          simp only [split, List.flatMap_append, List.flatMap_cons, List.length_append]
          omega
        refine ih [.enter child] (fun other same => ?_) (by rw [stackCost_singleton, cost]; omega)
        cases List.mem_singleton.mp same
        exact Document.holds_of_parent under
      | enter id =>
        have present := held id (by simp)
        obtain ⟨kind, found⟩ := Document.holds_iff_kind.mp present
        have price := stackCost_descend wellFormed present
        have type : renderer.document.type? id = some kind.type := by simp [Document.type?, found]
        simp only [perform, type]
        cases taken : renderer.rules.renderRule? kind.type with
        | some rule =>
          simp only [bind_assoc, pure_bind, List.nil_append]
          refine (halts_runRule wellFormed (fun child above => ?_) kind.type (descends _ _ taken id type)).bind
            fun _ => ih rest heldRest (by omega)
          have smaller := wellFormed.length_subtree_lt present above
          simp only [cost] at enough
          refine ih [.enter child] (fun other same => ?_) (by rw [stackCost_singleton, cost]; omega)
          cases List.mem_singleton.mp same
          exact above.holds
        | none =>
          simp only [enter_eq found, bind_assoc, pure_bind]
          refine (halts_emit _).bind fun _ => ?_
          cases descent kind with
          | done =>
            simp only [pure_bind, List.nil_append]
            exact ih rest heldRest (by omega)
          | children =>
            simp only [pure_bind]
            refine ih _ (fun other member => ?_) (by rw [stackCost_append]; omega)
            rcases List.mem_append.mp member with member | member
            · exact holds_descend wellFormed member
            · exact heldRest other member

theorem render_halts_of_descends (wellFormed : renderer.document.WellFormed) (descends : renderer.RulesDescend)
    {id : NodeId} (held : renderer.document.Holds id) {budget : Nat} (enough : 2 * renderer.document.size ≤ budget) :
    Halts (renderer.render budget id) := by
  have fits := wellFormed.length_subtree_le held
  refine run_halts wellFormed descends budget [.enter id] (fun other same => ?_) (by rw [stackCost_singleton, cost]; omega)
  cases List.mem_singleton.mp same
  exact held

theorem render_halts (wellFormed : renderer.document.WellFormed)
    (noRules : ∀ type, renderer.rules.renderRule? type = none) {id : NodeId} (held : renderer.document.Holds id)
    {budget : Nat} (enough : 2 * renderer.document.size ≤ budget) : Halts (renderer.render budget id) :=
  render_halts_of_descends wellFormed (rulesDescend_of_none noRules) held enough

/-- Whatever the rules do, the stack of steps and the plain recursion come to the same outcomes, and where no
type has a render rule there is an outcome to come to. -/
theorem render_iff_renderTree (wellFormed : renderer.document.WellFormed) {id : NodeId}
    (held : renderer.document.Holds id) (state : RenderState) :
    (∀ depth outcome, renderer.renderTree depth id state = some outcome →
      EndsIn (fun budget => renderer.render budget id) state outcome) ∧
    (∀ budget outcome, renderer.render budget id state = some outcome →
      EndsIn (fun depth => renderer.renderTree depth id) state outcome) ∧
    ((∀ type, renderer.rules.renderRule? type = none) →
      ∃ outcome, EndsIn (fun depth => renderer.renderTree depth id) state outcome ∧
        ∀ budget, 2 * renderer.document.size ≤ budget → renderer.render budget id state = some outcome) := by
  refine ⟨fun depth => approximates_render depth id state, fun budget => render_approximated budget id state, ?_⟩
  intro noRules
  obtain ⟨outcome, ends⟩ := render_halts wellFormed noRules held (Nat.le_refl _) state
  refine ⟨outcome, render_approximated _ id state outcome ends, fun budget enough => ?_⟩
  obtain ⟨other, later⟩ := render_halts wellFormed noRules held enough state
  rw [later, render_unique later ends]

theorem render_iff_renderTree_paragraph :
    let doc := ((Document.empty.appendNew Document.root .paragraph).2.appendNew ⟨1⟩ (.text "a")).2
    let renderer : Renderer := { document := doc }
    doc.WellFormed ∧ doc.Holds Document.root ∧ (∀ type, renderer.rules.renderRule? type = none) ∧
      ∃ outcome, outcome.2.writer.html = "<p>a</p>\n" ∧
        EndsIn (fun depth => renderer.renderTree depth Document.root) {} outcome ∧
        EndsIn (fun budget => renderer.render budget Document.root) {} outcome ∧
        ∀ budget, 6 ≤ budget → renderer.render budget Document.root {} = some outcome := by
  intro doc renderer
  have linked : doc.Linked := (Document.Linked.empty.appendNew (by decide) _).appendNew (by decide) _
  have held : doc.Holds Document.root := by decide
  have noRules : ∀ type, renderer.rules.renderRule? type = none := fun _ => rfl
  obtain ⟨toStack, _, atEnd⟩ := @render_iff_renderTree renderer linked.wellFormed _ held {}
  obtain ⟨outcome, recursion, stack⟩ := atEnd noRules
  obtain ⟨depth, same⟩ := recursion
  refine ⟨linked.wellFormed, held, noRules, outcome, ?_, ⟨depth, same⟩, toStack depth outcome (same depth (Nat.le_refl _)),
    stack⟩
  have output : (renderer.render 6 Document.root {}).map (fun outcome => outcome.2.writer.html) = some "<p>a</p>\n" := rfl
  rw [stack 6 (Nat.le_refl _)] at output
  exact Option.some.inj output

end MarkdownHtml.Renderer
