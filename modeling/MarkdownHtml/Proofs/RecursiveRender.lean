import MarkdownHtml.Proofs.Pieces
import MarkdownHtml.Proofs.Preorder

/-! The rendering of a node takes steps from a stack, and rules start further renderings in the middle of
it. It comes to what the plain recursion over the tree comes to. Where no type has a render rule both
come to an end, after two steps for each node at most. -/

namespace MarkdownHtml.Renderer
open Html RenderM

/-- The plain recursion: a rule has its node to itself; any other node is entered, its children are
rendered in order, and it is left. The depth bounds the nesting of calls. -/
def renderTree (renderer : Renderer) : Nat → NodeId → RenderM Unit
  | 0, _ => exhausted
  | depth + 1, id => do
    match renderer.document.type? id with
    | none => return
    | some type =>
      match renderer.rules.renderRule? type with
      | some rule => renderer.runRule (renderer.renderTree depth) id type rule
      | none =>
        match ← renderer.enter id with
        | .done => return
        | .children =>
          (renderer.inPlace id).forM (renderer.renderTree depth)
          renderer.exit (renderer.renderTree depth) id

variable {renderer : Renderer} {computation : RenderM Unit}

section
variable {render : NodeId → RenderM Unit} {renders : Nat → NodeId → RenderM Unit}
  (each : ∀ id, Approximates (render id) fun bound => renders bound id)
include each

private theorem approximates_exec (id : NodeId) (program : RenderProgram α) :
    Approximates (renderer.exec render id program) fun bound => renderer.exec (renders bound) id program := by
  -- A program makes finitely many calls, so one bound is enough for all of them.
  induction program with
  | done value => exact .refl _
  | write call next ih => exact .bind (.refl _) fun _ => ih
  | output next ih => exact .bind (.refl _) fun state => ih state.writer.html
  | renderChildren node next ih => exact .bind (Approximates.forM _ each).reify ih
  | render node next ih => exact .bind (each node).reify ih
  | attributes tag base next ih => exact .bind (.refl _) ih

private theorem approximates_runRule (id : NodeId) (type : NodeType) (rule : RenderRule) :
    Approximates (renderer.runRule render id type rule) fun bound => renderer.runRule (renders bound) id type rule :=
  .bind (approximates_exec each id _) fun _ => .refl _

private theorem approximates_exit (id : NodeId) :
    Approximates (renderer.exit render id) fun bound => renderer.exit (renders bound) id := by
  cases found : renderer.document.kind? id with
  | none =>
    simp only [exit_none found]
    exact .refl _
  | some kind =>
    by_cases document : kind = .document
    · subst document
      simp only [exit_document found]
      split
      · exact .refl _
      · exact .bind (.refl _) fun _ => .bind (.forM _ each) fun _ => .refl _
    · simp only [exit_eq found document]
      exact .refl _

end

private theorem approximates_renderTree (depth : Nat) (id : NodeId) :
    Approximates (renderer.renderTree depth id) fun more => renderer.renderTree more id := by
  induction depth generalizing id with
  | zero => exact .exhausted _
  | succ depth ih =>
    apply Approximates.of_succ
    unfold renderTree
    cases renderer.document.type? id with
    | none => exact .refl _
    | some type =>
      simp only
      cases renderer.rules.renderRule? type with
      | some rule => exact approximates_runRule ih id type rule
      | none =>
        refine .bind (.refl _) fun descent => ?_
        cases descent with
        | done => exact .refl _
        | children => exact .bind (.forM _ ih) fun _ => approximates_exit ih id

/-- A step, with what it leads to rendered by the plain recursion. -/
def takeStep (renderer : Renderer) (depth : Nat) : Step → RenderM Unit
  | .enter id => renderer.renderTree depth id
  | .exit id => renderer.exit (renderer.renderTree depth) id

def takeSteps (renderer : Renderer) (depth : Nat) : List Step → RenderM Unit
  | [] => return
  | step :: rest => do
    renderer.takeStep depth step
    renderer.takeSteps depth rest

private theorem approximates_takeSteps (depth : Nat) (stack : List Step) :
    Approximates (renderer.takeSteps depth stack) fun more => renderer.takeSteps more stack := by
  induction stack with
  | nil => exact .refl _
  | cons step rest ih =>
    refine .bind ?_ fun _ => ih
    cases step with
    | enter id => exact approximates_renderTree depth id
    | exit id => exact approximates_exit (approximates_renderTree depth) id

private theorem takeSteps_append (depth : Nat) (first second : List Step) :
    renderer.takeSteps depth (first ++ second) =
      (do renderer.takeSteps depth first; renderer.takeSteps depth second) := by
  induction first with
  | nil => simp [takeSteps]
  | cons step rest ih => simp [takeSteps, ih]

private theorem takeSteps_enter (depth : Nat) (ids : List NodeId) :
    renderer.takeSteps depth (ids.map .enter) = ids.forM (renderer.renderTree depth) := by
  induction ids with
  | nil => rfl
  | cons id ids ih => exact congrArg (renderer.renderTree depth id >>= fun _ => ·) ih

private theorem takeSteps_descend (depth : Nat) (id : NodeId) :
    renderer.takeSteps depth (renderer.descend id) = (do
      (renderer.inPlace id).forM (renderer.renderTree depth)
      renderer.exit (renderer.renderTree depth) id) := by
  rw [descend, takeSteps_append, takeSteps_enter]
  simp [takeSteps, takeStep, inPlace]

/-- What the stack comes to within a budget, the recursion comes to within some depth. -/
theorem approximates_run (budget : Nat) (stack : List Step) :
    Approximates (renderer.run budget stack) fun depth => renderer.takeSteps depth stack := by
  induction budget generalizing stack with
  | zero =>
    cases stack with
    | nil => exact .refl _
    | cons step rest => exact .exhausted _
  | succ budget ih =>
    cases stack with
    | nil => exact .refl _
    | cons step rest =>
      have each : ∀ id, Approximates (renderer.run budget [.enter id]) fun depth => renderer.renderTree depth id := by
        intro id
        simpa [takeSteps, takeStep] using ih [.enter id]
      unfold run
      cases step with
      | exit id =>
        simp only [perform, bind_assoc, pure_bind, List.nil_append, takeSteps, takeStep]
        exact .bind (approximates_exit each id) fun _ => ih rest
      | enter id =>
        apply Approximates.of_succ
        simp only [perform, takeSteps, takeStep, renderTree]
        cases renderer.document.type? id with
        | none => simpa using (ih rest).succ
        | some type =>
          simp only
          cases renderer.rules.renderRule? type with
          | some rule =>
            simp only [bind_assoc, pure_bind, List.nil_append]
            exact .bind (approximates_runRule each id type rule) fun _ => (ih rest).succ
          | none =>
            simp only [bind_assoc]
            refine .bind (.refl _) fun descent => ?_
            cases descent with
            | done => simpa using (ih rest).succ
            | children =>
              simp only [pure_bind, bind_assoc]
              refine (ih (renderer.descend id ++ rest)).trans fun depth => ?_
              simp only [takeSteps_append, takeSteps_descend, bind_assoc]
              exact .bind (.forM _ (approximates_renderTree depth)) fun _ =>
                .bind (approximates_exit (approximates_renderTree depth) id) fun _ =>
                  (approximates_takeSteps depth rest).succ

private theorem approximates_children {depth : Nat} {rest : List Step} {tail : RenderM Unit}
    (each : ∀ id rest tail, (Approximates tail fun budget => renderer.run budget rest) →
      Approximates (do renderer.renderTree depth id; tail) fun budget => renderer.run budget (.enter id :: rest))
    (below : Approximates tail fun budget => renderer.run budget rest) (ids : List NodeId) :
    Approximates (do ids.forM (renderer.renderTree depth); tail)
      fun budget => renderer.run budget (ids.map .enter ++ rest) := by
  -- Children that the recursion renders one after another lie on the stack one above another.
  induction ids with
  | nil =>
    simp only [List.forM, pure_bind]
    exact below
  | cons id ids ih =>
    simp only [List.forM, bind_assoc]
    exact each id _ _ ih

theorem run_nil (budget : Nat) : renderer.run budget [] = pure () := by cases budget <;> rfl

private theorem approximates_nil : Approximates (pure ()) fun budget => renderer.run budget [] := by
  simp only [run_nil]
  exact .refl _

theorem run_cons (budget : Nat) (step : Step) (rest : List Step) :
    renderer.run (budget + 1) (step :: rest) = (do
      let steps ← renderer.perform (fun id => renderer.run budget [.enter id]) step
      renderer.run budget (steps ++ rest)) := rfl

/-- What the recursion comes to within a depth, the stack comes to from some budget on, and then goes on
with the steps below. -/
theorem approximates_renderTree_run (depth : Nat) (id : NodeId) (rest : List Step) (tail : RenderM Unit)
    (below : Approximates tail fun budget => renderer.run budget rest) :
    Approximates (do renderer.renderTree depth id; tail) fun budget => renderer.run budget (.enter id :: rest) := by
  induction depth generalizing id rest tail with
  | zero => exact .exhausted _
  | succ depth ih =>
    have each : ∀ id, Approximates (renderer.renderTree depth id) fun budget => renderer.run budget [.enter id] := by
      intro id
      simpa using ih id [] (pure ()) approximates_nil
    apply Approximates.of_succ
    simp only [run_cons, perform, renderTree]
    cases renderer.document.type? id with
    | none => simpa using below
    | some type =>
      simp only
      cases renderer.rules.renderRule? type with
      | some rule =>
        simp only [bind_assoc, pure_bind, List.nil_append]
        exact .bind (approximates_runRule each id type rule) fun _ => below
      | none =>
        simp only [bind_assoc]
        refine .bind (.refl _) fun descent => ?_
        cases descent with
        | done => simpa using below
        | children =>
          simp only [pure_bind, bind_assoc, descend, List.append_assoc, List.singleton_append]
          refine approximates_children ih ?_ (renderer.inPlace id)
          apply Approximates.of_succ
          simp only [run_cons, perform, bind_assoc, pure_bind, List.nil_append]
          exact .bind (approximates_exit each id) fun _ => below

theorem approximates_render (depth : Nat) (id : NodeId) :
    Approximates (renderer.renderTree depth id) fun budget => renderer.render budget id := by
  simpa [render] using approximates_renderTree_run depth id [] (pure ()) approximates_nil

theorem render_approximated (budget : Nat) (id : NodeId) :
    Approximates (renderer.render budget id) fun depth => renderer.renderTree depth id := by
  simpa [render, takeSteps, takeStep] using approximates_run budget [.enter id]

/-- Two budgets that are both enough make no difference. -/
theorem render_unique {first second : Nat} {id : NodeId} {state : RenderState} {left right : Outcome Unit}
    (ranFirst : renderer.render first id state = some left) (ranSecond : renderer.render second id state = some right) :
    left = right :=
  (render_approximated first id state left ranFirst).unique (render_approximated second id state right ranSecond)

end MarkdownHtml.Renderer
