import MarkdownHtml.Proofs.Pieces

/-! A rendering as a plan that can be looked through: what is written, where it is read what has been written, each
time that a tag is decorated for a node, and each call of a rule of a caller. To carry a plan out is to render. To
follow it comes to the same, and shows all this on the way, also where it or all of the result is lost later on. -/

namespace MarkdownHtml.Renderer
open Html RenderM

/-- A call of a rule of a caller, by what the rule is called for. -/
inductive Callback where
  | attributes (node : NodeId) (type : NodeType) (tag : String)
  | render (node : NodeId) (type : NodeType)
  deriving DecidableEq

namespace Callback

def node : Callback → NodeId
  | .attributes node _ _ | .render node _ => node

def type : Callback → NodeType
  | .attributes _ type _ | .render _ type => type

/-- The error that is made of what a callback fails with. -/
def error : Callback → CallbackError → Error
  | .attributes _ type tag => Error.ofCallback (.attributes type tag)
  | .render _ type => Error.ofCallback (.render type)

end Callback

inductive CallbackEvent where
  | began (callback : Callback)
  | ended (callback : Callback) (result : CallbackResult)

inductive Plan (α : Type) where
  | done (result : Except Error α)
  | exhausted
  | write (call : Write) (next : Plan α)
  | output (next : String → Plan α)
  /-- Tag and attributes are decorated for a node. What comes of it is handed to the rules of a caller. -/
  | decorate (id : NodeId) (tag : String) (base : AttributeSet) (next : AttributeSet → Plan α)
  | callback (event : CallbackEvent) (next : Plan α)

namespace Plan

def bind (plan : Plan α) (next : α → Plan β) : Plan β :=
  match plan with
  | .done (.ok value) => next value
  | .done (.error error) => .done (.error error)
  | .exhausted => .exhausted
  | .write call rest => .write call (rest.bind next)
  | .output rest => .output fun html => (rest html).bind next
  | .decorate id tag base rest => .decorate id tag base fun handed => (rest handed).bind next
  | .callback event rest => .callback event (rest.bind next)

instance : Monad Plan where
  pure value := .done (.ok value)
  bind := bind

/-- The error of a plan becomes its value. A plan that is given up stays so. -/
def reify : Plan α → Plan (Except CallbackError α)
  | .done (.ok value) => .done (.ok (.ok value))
  | .done (.error error) => .done (.ok (.error (.nested error)))
  | .exhausted => .exhausted
  | .write call rest => .write call rest.reify
  | .output rest => .output fun html => (rest html).reify
  | .decorate id tag base rest => .decorate id tag base fun handed => (rest handed).reify
  | .callback event rest => .callback event rest.reify

end Plan

def carryOut (renderer : Renderer) : Plan α → RenderM α
  | .done result => fun state => some (result, state)
  | .exhausted => RenderM.exhausted
  | .write call next => do
    RenderM.write call
    renderer.carryOut next
  | .output next => do
    renderer.carryOut (next (← get).writer.html)
  | .decorate id _ base next => do
    renderer.carryOut (next (← renderer.decorateBuiltin id base))
  | .callback _ next => renderer.carryOut next

/-- A decoration that has taken place, with the attributes that the first rule of a caller is handed. -/
structure Decoration where
  node : NodeId
  tag : String
  handed : AttributeSet

/-- What is seen of a plan: its decorations, its calls to the writer and the events of its callbacks, each in order, its
result unless it is given up, and the state it leaves. -/
structure Observation (α : Type) where
  decorations : List Decoration := []
  calls : List Write := []
  events : List CallbackEvent := []
  result : Option (Except Error α)
  state : RenderState

def Observation.outcome (observation : Observation α) : Option (Outcome α) :=
  observation.result.map fun result => (result, observation.state)

def follow (renderer : Renderer) : Plan α → RenderState → Observation α
  | .done result, state => { result := some result, state }
  | .exhausted, state => { result := none, state }
  | .write call next, state =>
    let rest := renderer.follow next { state with writer := state.writer.perform call }
    { rest with calls := call :: rest.calls }
  | .output next, state => renderer.follow (next state.writer.html) state
  | .decorate id tag base next, state =>
    match renderer.decorateBuiltin id base state with
    | some (.ok handed, after) =>
      let rest := renderer.follow (next handed) after
      { rest with decorations := ⟨id, tag, handed⟩ :: rest.decorations }
    | some (.error error, after) => { result := some (.error error), state := after }
    | none => { result := none, state }
  | .callback event next, state =>
    let rest := renderer.follow next state
    { rest with events := event :: rest.events }

/-! The plan of each part of a rendering. -/

section
variable (renderer : Renderer)

def applyRulesPlan (id : NodeId) (type : NodeType) (tag : String) (attributes : AttributeSet) :
    List AttributeRule → Plan AttributeSet
  | [] => return attributes
  | rule :: rest =>
    let callback := Callback.attributes id type tag
    .callback (.began callback) <|
      match rule.apply (renderer.node id) tag attributes with
      | .ok attributes => .callback (.ended callback (.ok ())) (applyRulesPlan id type tag attributes rest)
      | .error error => .callback (.ended callback (.error error)) (.done (.error (callback.error error)))

def attributesPlan (id : NodeId) (tag : String) (base : AttributeSet) : Plan AttributeSet :=
  .decorate id tag base fun handed =>
    match renderer.document.type? id with
    | none => return handed
    | some type => renderer.applyRulesPlan id type tag handed (renderer.rules.attributeRulesFor type)

def piecePlan : Piece → Plan Unit
  | .write call => .write call (return)
  | .openTag id tag base => do
    let attributes ← renderer.attributesPlan id tag base
    .write (.tagWith tag attributes) (return)
  | .voidTag id tag base => do
    let attributes ← renderer.attributesPlan id tag base
    .write (.voidTag tag attributes) (return)

def piecesPlan : List Piece → Plan Unit
  | [] => return
  | piece :: rest => do
    renderer.piecePlan piece
    piecesPlan rest

def enterPlan (id : NodeId) : Plan Descent :=
  match renderer.document.kind? id with
  | none => return .done
  | some kind => do
    renderer.piecesPlan (renderer.opening id kind)
    return descent kind

def exitPlan (render : NodeId → Plan Unit) (id : NodeId) : Plan Unit :=
  match renderer.document.kind? id with
  | none => return
  | some .document =>
    if (renderer.deferred id).isEmpty then return
    else do
      renderer.piecesPlan (sectionOpening id)
      (renderer.deferred id).forM render
      renderer.piecesPlan sectionClosing
  | some kind => renderer.piecesPlan (renderer.closing id kind)

def execPlan (render : NodeId → Plan Unit) (id : NodeId) : RenderProgram α → Plan α
  | .done value => return value
  | .write call next => .write call (execPlan render id next)
  | .output next => .output fun html => execPlan render id (next html)
  | .renderChildren node next => do
    let result ← Plan.reify ((renderer.document.childIds node).forM render)
    execPlan render id (next result)
  | .render node next => do
    let result ← (render node).reify
    execPlan render id (next result)
  | .attributes tag base next => do
    let result ← (renderer.attributesPlan id tag base).reify
    execPlan render id (next result)

/-- The end of a render rule: its error becomes that of the rendering. -/
def concludePlan (callback : Callback) (result : CallbackResult) : Plan Unit :=
  .callback (.ended callback result) <|
    match result with
    | .ok () => return
    | .error error => .done (.error (callback.error error))

def rulePlan (render : NodeId → Plan Unit) (id : NodeId) (type : NodeType) (rule : RenderRule) : Plan Unit :=
  .callback (.began (.render id type)) do
    concludePlan (.render id type) (← renderer.execPlan render id (rule (renderer.node id)))

def stepPlan (render : NodeId → Plan Unit) : Step → Plan (List Step)
  | .exit id => do
    renderer.exitPlan render id
    return []
  | .enter id =>
    match renderer.document.type? id with
    | none => return []
    | some type =>
      match renderer.rules.renderRule? type with
      | some rule => do
        renderer.rulePlan render id type rule
        return []
      | none => do
        match ← renderer.enterPlan id with
        | .children => return renderer.descend id
        | .done => return []

def runPlan : Nat → List Step → Plan Unit
  | _, [] => return
  | 0, _ :: _ => .exhausted
  | budget + 1, step :: rest => do
    let steps ← renderer.stepPlan (fun id => runPlan budget [.enter id]) step
    runPlan budget (steps ++ rest)

/-- The rendering of a node within a budget, from a fresh state on, with all that is decorated on the way. -/
def observe (budget : Nat) (id : NodeId) : Observation Unit := renderer.follow (renderer.runPlan budget [.enter id]) {}

end

variable {renderer : Renderer}

/-- What holds of a step that is followed by something, if it holds of the renderings that the step starts and of what
follows, holds of a whole stack of steps. -/
theorem forall_runPlan {holds : Plan Unit → Prop} (ended : holds (return)) (exhausted : holds .exhausted)
    (next : ∀ render step following, (∀ id, holds (render id)) → (∀ steps, holds (following steps)) →
      holds (renderer.stepPlan render step >>= following)) (budget : Nat) (stack : List Step) :
    holds (renderer.runPlan budget stack) := by
  induction budget generalizing stack with
  | zero =>
    cases stack with
    | nil => exact ended
    | cons step rest => exact exhausted
  | succ budget ih =>
    cases stack with
    | nil => exact ended
    | cons step rest =>
      -- The renderings that the step starts have less of the budget.
      apply next
      · exact fun id => ih [.enter id]
      · exact fun steps => ih (steps ++ rest)

theorem decorateBuiltin_ok (id : NodeId) (base : AttributeSet) (state : RenderState) :
    ∃ handed after, renderer.decorateBuiltin id base state = some (.ok handed, after) := by
  obtain ⟨handed, after, ran, _⟩ := settles_decorateBuiltin id base state
  exact ⟨handed, after, ran⟩

/-! Each plan, carried out, is its part of the rendering. -/

theorem follow_decorate {id : NodeId} {tag : String} {base handed : AttributeSet} {next : AttributeSet → Plan α}
    {state after : RenderState} (decorated : renderer.decorateBuiltin id base state = some (.ok handed, after)) :
    renderer.follow (.decorate id tag base next) state =
      { renderer.follow (next handed) after with
        decorations := ⟨id, tag, handed⟩ :: (renderer.follow (next handed) after).decorations } := by
  rw [follow, decorated]

private theorem carryOut_follow (plan : Plan α) (state : RenderState) :
    renderer.carryOut plan state = (renderer.follow plan state).outcome := by
  induction plan generalizing state with
  | done result => rfl
  | exhausted => rfl
  | write call rest ih => exact ih _
  | output rest ih => exact ih _ state
  | decorate id tag base rest ih =>
    obtain ⟨handed, after, decorated⟩ := @decorateBuiltin_ok renderer id base state
    rw [follow_decorate decorated, carryOut, bind_apply, decorated]
    exact ih handed after
  | callback event rest ih => exact ih state

private theorem carryOut_bind (plan : Plan α) (next : α → Plan β) :
    renderer.carryOut (plan >>= next) = renderer.carryOut plan >>= fun value => renderer.carryOut (next value) := by
  change renderer.carryOut (plan.bind next) = _
  induction plan with
  | done result =>
    funext state
    rw [bind_apply]
    cases result <;> rfl
  | exhausted => rfl
  | write call rest ih => simp only [Plan.bind, carryOut, ih, bind_assoc]
  | output rest ih => simp only [Plan.bind, carryOut, ih, bind_assoc]
  | decorate id tag base rest ih => simp only [Plan.bind, carryOut, ih, bind_assoc]
  | callback event rest ih => exact ih

private theorem carryOut_pure (value : α) : renderer.carryOut (pure value) = pure value := rfl

private theorem reify_bind {first : RenderM α} (fine : ∀ state, ∃ value after, first state = some (.ok value, after))
    (next : α → RenderM β) : (first >>= next).reify = first >>= fun value => (next value).reify := by
  funext state
  obtain ⟨value, after, ran⟩ := fine state
  rw [bind_apply, ran, RenderM.reify, bind_apply, ran]
  rfl

private theorem carryOut_reify (plan : Plan α) : renderer.carryOut plan.reify = (renderer.carryOut plan).reify := by
  induction plan with
  | done result => cases result <;> rfl
  | exhausted => rfl
  | write call rest ih =>
    have fine : ∀ state, ∃ value after, RenderM.write call state = some (.ok value, after) :=
      fun state => ⟨(), _, rfl⟩
    simp only [Plan.reify, carryOut, ih, reify_bind fine]
  | output rest ih =>
    have fine : ∀ state, ∃ value after, (get : RenderM RenderState) state = some (.ok value, after) :=
      fun state => ⟨state, state, rfl⟩
    simp only [Plan.reify, carryOut, ih, reify_bind fine]
  | decorate id tag base rest ih => simp only [Plan.reify, carryOut, ih, reify_bind (decorateBuiltin_ok id base)]
  | callback event rest ih => exact ih

private theorem carryOut_forM (ids : List NodeId) (render : NodeId → Plan Unit) :
    renderer.carryOut (ids.forM render) = ids.forM fun id => renderer.carryOut (render id) := by
  induction ids with
  | nil => rfl
  | cons id ids ih =>
    change renderer.carryOut (render id >>= fun _ => ids.forM render) = _
    rw [carryOut_bind, ih]
    rfl

private theorem carryOut_applyRules (id : NodeId) (type : NodeType) (tag : String) (attributes : AttributeSet)
    (rules : List AttributeRule) (state : RenderState) :
    renderer.carryOut (renderer.applyRulesPlan id type tag attributes rules) state =
      some (applyRules (renderer.node id) type tag attributes rules, state) := by
  induction rules generalizing attributes with
  | nil => rfl
  | cons rule rest ih =>
    rw [applyRulesPlan, applyRules]
    dsimp only [carryOut]
    cases rule.apply (renderer.node id) tag attributes with
    | ok attributes => exact ih attributes
    | error error => rfl

private theorem carryOut_attributes (id : NodeId) (tag : String) (base : AttributeSet) :
    renderer.carryOut (renderer.attributesPlan id tag base) = renderer.attributes id tag base := by
  unfold attributesPlan attributes
  rw [carryOut]
  congr 1
  funext handed
  cases renderer.document.type? id with
  | none => rfl
  | some type =>
    funext state
    simp only [carryOut_applyRules]
    cases applyRules (renderer.node id) type tag handed (renderer.rules.attributeRulesFor type) <;> rfl

private theorem carryOut_piece (piece : Piece) :
    renderer.carryOut (renderer.piecePlan piece) = renderer.emitPiece piece := by
  cases piece with
  | write call => rfl
  | openTag id tag base =>
    rw [piecePlan, carryOut_bind, carryOut_attributes]
    rfl
  | voidTag id tag base =>
    rw [piecePlan, carryOut_bind, carryOut_attributes]
    rfl

private theorem carryOut_pieces (pieces : List Piece) :
    renderer.carryOut (renderer.piecesPlan pieces) = renderer.emit pieces := by
  induction pieces with
  | nil => rfl
  | cons piece rest ih => rw [piecesPlan, carryOut_bind, carryOut_piece, ih, emit]

private theorem carryOut_enter (id : NodeId) : renderer.carryOut (renderer.enterPlan id) = renderer.enter id := by
  unfold enterPlan
  cases found : renderer.document.kind? id with
  | none =>
    unfold enter
    rw [found]
    rfl
  | some kind =>
    simp only [carryOut_bind, carryOut_pieces, enter_eq found, carryOut_pure]

section
variable {plan : NodeId → Plan Unit} {render : NodeId → RenderM Unit}
  (each : ∀ id, renderer.carryOut (plan id) = render id)
include each

private theorem carryOut_exit (id : NodeId) :
    renderer.carryOut (renderer.exitPlan plan id) = renderer.exit render id := by
  unfold exitPlan
  cases found : renderer.document.kind? id with
  | none => exact (exit_none found render).symm
  | some kind =>
    by_cases document : kind = .document
    · subst document
      rw [exit_document found]
      simp only
      split
      · rfl
      · simp only [carryOut_bind, carryOut_pieces, carryOut_forM, each]
    · rw [exit_eq found document]
      cases kind <;> first | exact absurd rfl document | exact carryOut_pieces _

private theorem carryOut_exec (id : NodeId) (program : RenderProgram α) :
    renderer.carryOut (renderer.execPlan plan id program) = renderer.exec render id program := by
  induction program with
  | done value => rfl
  | write call next ih => simp only [execPlan, carryOut, exec, ih]
  | output next ih => simp only [execPlan, carryOut, exec, ih]
  | renderChildren node next ih => simp only [execPlan, exec, carryOut_bind, carryOut_reify, carryOut_forM, each, ih]
  | render node next ih => simp only [execPlan, exec, carryOut_bind, carryOut_reify, each, ih]
  | attributes tag base next ih => simp only [execPlan, exec, carryOut_bind, carryOut_reify, carryOut_attributes, ih]

private theorem carryOut_rule (id : NodeId) (type : NodeType) (rule : RenderRule) :
    renderer.carryOut (renderer.rulePlan plan id type rule) = renderer.runRule render id type rule := by
  unfold rulePlan runRule
  rw [carryOut, carryOut_bind, carryOut_exec each]
  congr 1
  funext result
  cases result <;> rfl

private theorem carryOut_step (step : Step) :
    renderer.carryOut (renderer.stepPlan plan step) = renderer.perform render step := by
  cases step with
  | exit id => simp only [stepPlan, perform, carryOut_bind, carryOut_exit each, carryOut_pure]
  | enter id =>
    simp only [stepPlan, perform]
    cases renderer.document.type? id with
    | none => rfl
    | some type =>
      simp only
      cases renderer.rules.renderRule? type with
      | some rule => simp only [carryOut_bind, carryOut_rule each, carryOut_pure]
      | none =>
        simp only [carryOut_bind, carryOut_enter]
        congr 1
        funext descent
        cases descent <;> rfl

end

private theorem carryOut_run (budget : Nat) (stack : List Step) :
    renderer.carryOut (renderer.runPlan budget stack) = renderer.run budget stack := by
  induction budget generalizing stack with
  | zero => cases stack <;> rfl
  | succ budget ih =>
    cases stack with
    | nil => rfl
    | cons step rest => simp only [runPlan, run, carryOut_bind, carryOut_step fun id => ih [.enter id], ih]

/-- To observe a rendering changes nothing about it. -/
theorem render_observed (budget : Nat) (id : NodeId) :
    renderer.render budget id {} = (renderer.observe budget id).outcome := by
  rw [render, ← carryOut_run, carryOut_follow, observe]

/-! A larger budget goes on where a smaller one gives up, and changes nothing before. -/

/-- The second plan is the first one, with something in place of the points where the first is given up. -/
inductive Prolongs : Plan α → Plan α → Prop
  | exhausted (plan : Plan α) : Prolongs .exhausted plan
  | done (result : Except Error α) : Prolongs (.done result) (.done result)
  | write (call : Write) {plan longer : Plan α} (rest : Prolongs plan longer) :
    Prolongs (.write call plan) (.write call longer)
  | output {plan longer : String → Plan α} (rest : ∀ html, Prolongs (plan html) (longer html)) :
    Prolongs (.output plan) (.output longer)
  | decorate (id : NodeId) (tag : String) (base : AttributeSet) {plan longer : AttributeSet → Plan α}
    (rest : ∀ handed, Prolongs (plan handed) (longer handed)) :
    Prolongs (.decorate id tag base plan) (.decorate id tag base longer)
  | callback (event : CallbackEvent) {plan longer : Plan α} (rest : Prolongs plan longer) :
    Prolongs (.callback event plan) (.callback event longer)

namespace Prolongs

theorem refl (plan : Plan α) : Prolongs plan plan := by
  induction plan with
  | done result => exact .done result
  | exhausted => exact .exhausted _
  | write call rest ih => exact .write call ih
  | output rest ih => exact .output ih
  | decorate id tag base rest ih => exact .decorate id tag base ih
  | callback event rest ih => exact .callback event ih

theorem bind {plan longer : Plan α} {next nexts : α → Plan β} (first : Prolongs plan longer)
    (second : ∀ value, Prolongs (next value) (nexts value)) : Prolongs (plan >>= next) (longer >>= nexts) := by
  change Prolongs (plan.bind next) (longer.bind nexts)
  induction first with
  | exhausted longer => exact .exhausted _
  | done result =>
    cases result with
    | ok value => exact second value
    | error error => exact .done _
  | write call rest ih => exact .write call ih
  | output rest ih => exact .output ih
  | decorate id tag base rest ih => exact .decorate id tag base ih
  | callback event rest ih => exact .callback event ih

private theorem reify {plan longer : Plan α} (prolongs : Prolongs plan longer) : Prolongs plan.reify longer.reify := by
  induction prolongs with
  | exhausted longer => exact .exhausted _
  | done result => exact .refl _
  | write call rest ih => exact .write call ih
  | output rest ih => exact .output ih
  | decorate id tag base rest ih => exact .decorate id tag base ih
  | callback event rest ih => exact .callback event ih

section
variable {plan longer : NodeId → Plan Unit} (each : ∀ id, Prolongs (plan id) (longer id))
include each

theorem forM (ids : List NodeId) : Prolongs (ids.forM plan) (ids.forM longer) := by
  induction ids with
  | nil => exact .refl _
  | cons id ids ih => exact (each id).bind fun _ => ih

private theorem exit (id : NodeId) : Prolongs (renderer.exitPlan plan id) (renderer.exitPlan longer id) := by
  unfold exitPlan
  split
  · exact .refl _
  · split
    · exact .refl _
    · exact .bind (.refl _) fun _ => .bind (forM each _) fun _ => .refl _
  · exact .refl _

private theorem exec (id : NodeId) (program : RenderProgram α) :
    Prolongs (renderer.execPlan plan id program) (renderer.execPlan longer id program) := by
  induction program with
  | done value => exact .refl _
  | write call next ih => exact .write call ih
  | output next ih => exact .output ih
  | renderChildren node next ih => exact .bind (forM each _).reify ih
  | render node next ih => exact .bind (each node).reify ih
  | attributes tag base next ih => exact .bind (.refl _) ih

theorem step (step : Step) : Prolongs (renderer.stepPlan plan step) (renderer.stepPlan longer step) := by
  cases step with
  | exit id => exact .bind (exit each id) fun _ => .refl _
  | enter id =>
    simp only [stepPlan]
    cases renderer.document.type? id with
    | none => exact .refl _
    | some type =>
      simp only
      cases renderer.rules.renderRule? type with
      | some rule =>
        exact .bind (.callback _ (.bind (exec each id _) fun _ => .refl _)) fun _ => .refl _
      | none => exact .refl _

end

theorem run {budget more : Nat} (enough : budget ≤ more) (stack : List Step) :
    Prolongs (renderer.runPlan budget stack) (renderer.runPlan more stack) := by
  induction budget generalizing more stack with
  | zero =>
    cases stack with
    | nil => cases more <;> exact .refl _
    | cons step rest => exact .exhausted _
  | succ budget ih =>
    obtain ⟨more, rfl⟩ : ∃ less, more = less + 1 := ⟨more - 1, by omega⟩
    have enough : budget ≤ more := by omega
    cases stack with
    | nil => exact .refl _
    | cons first rest =>
      exact .bind (step (fun id => ih enough [.enter id]) first) fun steps => ih enough (steps ++ rest)

end Prolongs

end MarkdownHtml.Renderer
