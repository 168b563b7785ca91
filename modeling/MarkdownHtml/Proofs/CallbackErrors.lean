import MarkdownHtml.Proofs.Dispatch
import MarkdownHtml.Proofs.RenderPlans
import MarkdownHtml.Proofs.RenderedHtml

/-! Which callback an error names. Callbacks and built-in rules lie around one another to any depth, and an error goes
through all of them. Where every callback passes on what it has got, the error of a rendering is that of the callback
that failed first, and nothing has been called since. -/

namespace MarkdownHtml

/-- A program that ends with this error, with nothing called on the way. -/
def RenderProgram.GivesUp (error : CallbackError) : RenderProgram CallbackResult → Prop
  | .done result => result = .error error
  | .write _ next => next.GivesUp error
  | .output next => ∀ html, (next html).GivesUp error
  | .renderChildren .. | .render .. | .attributes .. => False

/-- A program that gives up with every error that a call ends with, and makes no error of the pipeline itself. -/
def RenderProgram.PassesOn : RenderProgram CallbackResult → Prop
  | .done result => ∀ error, result ≠ .error (.nested error)
  | .write _ next => next.PassesOn
  | .output next => ∀ html, (next html).PassesOn
  | .renderChildren _ next | .render _ next =>
    (next (.ok ())).PassesOn ∧ ∀ error, (next (.error (.nested error))).GivesUp (.nested error)
  | .attributes _ _ next =>
    (∀ attributes, (next (.ok attributes)).PassesOn) ∧
      ∀ error, (next (.error (.nested error))).GivesUp (.nested error)

/-- No callback makes an error of the pipeline itself, or keeps one from its caller. -/
structure RuleSet.PassesOn (rules : RuleSet) : Prop where
  attributes : ∀ rule ∈ rules.attributeRules, ∀ node tag base error, rule.apply node tag base ≠ .error (.nested error)
  render : ∀ type rule, rules.renderRule? type = some rule → ∀ node, (rule node).PassesOn

namespace Renderer
open Html RenderM

variable {renderer : Renderer}

/-- The error of a rendering that names a callback and has its message. -/
def Callback.raised : Callback → String → Error
  | .attributes _ type tag, message => .attributes type tag (.own message)
  | .render _ type, message => .render type (.own message)

private theorem Callback.source_raised (callback : Callback) (message : String) :
    (callback.raised message).source = .own message := by
  cases callback <;> rfl

/-- A callback begins, or ends without an error. -/
def CallbackEvent.Fine : CallbackEvent → Prop
  | .began _ => True
  | .ended _ result => result = .ok ()

/-- A callback ends with the error of another one. -/
def CallbackEvent.Passes (error : Error) : CallbackEvent → Prop
  | .began _ => False
  | .ended _ result => result = .error (.nested error)

/-- A plan for after a failure: nothing is called any more, what is still running ends with the error of the failure, and
so does the plan. -/
def Plan.Fails (error : Error) (result : Except Error α) : Plan α → Prop
  | .done ending => ending = result
  | .exhausted => True
  | .write _ next => next.Fails error result
  | .output next => ∀ html, (next html).Fails error result
  | .decorate _ _ _ next => ∀ handed, (next handed).Fails error result
  | .callback event next => event.Passes error ∧ next.Fails error result

/-- A plan that ends with a value that is wanted, or else fails as soon as a callback has an error of its own. How it ends
then depends on who gets to see the error. -/
def Plan.Sound (renderer : Renderer) (wanted : α → Prop) (failed : Error → Except Error α) : Plan α → Prop
  | .done (.ok value) => wanted value
  | .done (.error _) => False
  | .exhausted => True
  | .write _ next => next.Sound renderer wanted failed
  | .output next => ∀ html, (next html).Sound renderer wanted failed
  | .decorate _ _ _ next => ∀ handed, (next handed).Sound renderer wanted failed
  | .callback event next =>
    event.Fine ∧ next.Sound renderer wanted failed ∨
      ∃ callback message, event = .ended callback (.error (.own message)) ∧
        renderer.document.type? callback.node = some callback.type ∧
        next.Fails (callback.raised message) (failed (callback.raised message))

/-- A plan that ends with an error if one of its callbacks does. -/
abbrev Plan.Raises (renderer : Renderer) (plan : Plan α) : Prop := plan.Sound renderer (fun _ => True) .error

/-- How an error looks to whoever has asked for what has failed. -/
def caught (error : Error) : Except Error (Except CallbackError α) := .ok (.error (.nested error))

namespace Plan

theorem Fails.bind {error : Error} {plan : Plan α} {next : α → Plan β} {result : Except Error α} {final : Except Error β}
    (first : plan.Fails error result) (passed : ∀ other, result = .error other → final = .error other)
    (second : ∀ value, result = .ok value → (next value).Fails error final) : (plan >>= next).Fails error final := by
  change (plan.bind next).Fails error final
  induction plan with
  | done ending =>
    cases first
    cases result with
    | ok value => exact second value rfl
    | error other => exact (passed other rfl).symm
  | exhausted => trivial
  | write call rest ih => exact ih first
  | output rest ih => exact fun html => ih html (first html)
  | decorate id tag base rest ih => exact fun handed => ih handed (first handed)
  | callback event rest ih => exact ⟨first.1, ih first.2⟩

private theorem Fails.reify {error : Error} {plan : Plan α} (fails : plan.Fails error (.error error)) :
    plan.reify.Fails error (caught error) := by
  induction plan with
  | done ending =>
    cases fails
    rfl
  | exhausted => trivial
  | write call rest ih => exact ih fails
  | output rest ih => exact fun html => ih html (fails html)
  | decorate id tag base rest ih => exact fun handed => ih handed (fails handed)
  | callback event rest ih => exact ⟨fails.1, ih fails.2⟩

namespace Sound

variable {wanted : α → Prop} {final : β → Prop} {failed : Error → Except Error α} {ending : Error → Except Error β}

theorem bind {plan : Plan α} {next : α → Plan β} (first : plan.Sound renderer wanted failed)
    (second : ∀ value, wanted value → (next value).Sound renderer final ending)
    (passed : ∀ error other, failed error = .error other → ending error = .error other)
    (seen : ∀ error value, failed error = .ok value → (next value).Fails error (ending error)) :
    (plan >>= next).Sound renderer final ending := by
  change (plan.bind next).Sound renderer final ending
  induction plan with
  | done result =>
    cases result with
    | ok value => exact second value first
    | error error => exact first.elim
  | exhausted => trivial
  | write call rest ih => exact ih first
  | output rest ih => exact fun html => ih html (first html)
  | decorate id tag base rest ih => exact fun handed => ih handed (first handed)
  | callback event rest ih =>
    rcases first with ⟨fine, rest⟩ | ⟨callback, message, same, typed, fails⟩
    · exact .inl ⟨fine, ih rest⟩
    · exact .inr ⟨callback, message, same, typed, fails.bind (passed _) (seen _)⟩

private theorem andThen {plan : Plan α} {next : α → Plan β} (first : plan.Sound renderer wanted .error)
    (second : ∀ value, wanted value → (next value).Sound renderer final .error) :
    (plan >>= next).Sound renderer final .error :=
  first.bind second (fun _ _ same => congrArg Except.error (Except.error.inj same)) (fun _ _ same => by cases same)

private theorem reify {plan : Plan α} (sound : plan.Sound renderer wanted .error) :
    plan.reify.Sound renderer (fun result => ∃ value, result = .ok value ∧ wanted value) caught := by
  induction plan with
  | done result =>
    cases result with
    | ok value => exact ⟨value, rfl, sound⟩
    | error error => exact sound.elim
  | exhausted => trivial
  | write call rest ih => exact ih sound
  | output rest ih => exact fun html => ih html (sound html)
  | decorate id tag base rest ih => exact fun handed => ih handed (sound handed)
  | callback event rest ih =>
    rcases sound with ⟨fine, rest⟩ | ⟨callback, message, same, typed, fails⟩
    · exact .inl ⟨fine, ih rest⟩
    · exact .inr ⟨callback, message, same, typed, fails.reify⟩

theorem forM {plan : NodeId → Plan Unit} (each : ∀ id, (plan id).Raises renderer) (ids : List NodeId) :
    (ids.forM plan : Plan Unit).Raises renderer := by
  induction ids with
  | nil => trivial
  | cons id ids ih => exact (each id).andThen fun _ _ => ih

end Sound

end Plan

/-! The plan of each part of a rendering is sound. -/

private theorem fails_execPlan (plan : NodeId → Plan Unit) (id : NodeId) {program : RenderProgram CallbackResult}
    {error : Error} (gives : program.GivesUp (.nested error)) :
    (renderer.execPlan plan id program).Fails error (caught error) := by
  induction program with
  | done result => exact congrArg Except.ok gives
  | write call next ih => exact ih gives
  | output next ih => exact fun html => ih html (gives html)
  | renderChildren | render | attributes => exact gives.elim

private theorem sound_call {plan : Plan α} (raises : plan.Raises renderer)
    {next : Except CallbackError α → Plan CallbackResult} {wanted : CallbackResult → Prop}
    (fine : ∀ value, (next (.ok value)).Sound renderer wanted caught)
    (passed : ∀ error, (next (.error (.nested error))).Fails error (caught error)) :
    (plan.reify >>= next).Sound renderer wanted caught := by
  refine raises.reify.bind ?_ (fun _ _ same => by cases same) ?_
  · rintro result ⟨value, rfl, _⟩
    exact fine value
  · intro error result same
    cases same
    exact passed error

section
variable (passes : renderer.rules.PassesOn)
include passes

private theorem raises_applyRulesPlan {id : NodeId} {type : NodeType} (typed : renderer.document.type? id = some type)
    (tag : String) (attributes : AttributeSet) {rules : List AttributeRule}
    (known : ∀ rule ∈ rules, rule ∈ renderer.rules.attributeRules) :
    (renderer.applyRulesPlan id type tag attributes rules).Raises renderer := by
  induction rules generalizing attributes with
  | nil => trivial
  | cons rule rest ih =>
    refine .inl ⟨trivial, ?_⟩
    cases ran : rule.apply (renderer.node id) tag attributes with
    | ok attributes => exact .inl ⟨rfl, ih attributes fun other member => known other (List.mem_cons_of_mem rule member)⟩
    | error error =>
      cases error with
      | own message => exact .inr ⟨.attributes id type tag, message, rfl, typed, rfl⟩
      | nested error => exact absurd ran (passes.attributes rule (known rule List.mem_cons_self) _ tag attributes error)

private theorem raises_attributesPlan (id : NodeId) (tag : String) (base : AttributeSet) :
    (renderer.attributesPlan id tag base).Raises renderer := by
  intro handed
  cases typed : renderer.document.type? id with
  | none => trivial
  | some type =>
    refine raises_applyRulesPlan passes typed tag handed fun rule member => ?_
    exact Array.mem_def.mpr (List.mem_of_mem_filter member)

private theorem raises_piecesPlan (pieces : List Piece) : (renderer.piecesPlan pieces).Raises renderer := by
  induction pieces with
  | nil => trivial
  | cons piece rest ih =>
    have first : (renderer.piecePlan piece).Raises renderer := by
      cases piece with
      | write call => trivial
      | openTag id tag base | voidTag id tag base =>
        exact (raises_attributesPlan passes id tag base).andThen fun attributes _ => trivial
    exact first.andThen fun _ _ => ih

private theorem raises_enterPlan (id : NodeId) : (renderer.enterPlan id).Raises renderer := by
  unfold enterPlan
  cases renderer.document.kind? id with
  | none => trivial
  | some kind => exact (raises_piecesPlan passes _).andThen fun _ _ => trivial

private theorem raises_exitPlan {plan : NodeId → Plan Unit} (each : ∀ id, (plan id).Raises renderer) (id : NodeId) :
    (renderer.exitPlan plan id).Raises renderer := by
  unfold exitPlan
  split
  · trivial
  · split
    · trivial
    · exact (raises_piecesPlan passes _).andThen fun _ _ =>
        (Plan.Sound.forM each _).andThen fun _ _ => raises_piecesPlan passes _
  · exact raises_piecesPlan passes _

private theorem sound_execPlan {plan : NodeId → Plan Unit} (each : ∀ id, (plan id).Raises renderer) (id : NodeId)
    {program : RenderProgram CallbackResult} (passesOn : program.PassesOn) :
    (renderer.execPlan plan id program).Sound renderer (fun result => ∀ error, result ≠ .error (.nested error))
      caught := by
  induction program with
  | done result => exact passesOn
  | write call next ih => exact ih passesOn
  | output next ih => exact fun html => ih html (passesOn html)
  | renderChildren node next ih =>
    exact sound_call (Plan.Sound.forM each _) (fun _ => ih _ passesOn.1) fun error => fails_execPlan plan id (passesOn.2 error)
  | render node next ih =>
    exact sound_call (each node) (fun _ => ih _ passesOn.1) fun error => fails_execPlan plan id (passesOn.2 error)
  | attributes tag base next ih =>
    exact sound_call (raises_attributesPlan passes id tag base) (fun attributes => ih _ (passesOn.1 attributes))
      fun error => fails_execPlan plan id (passesOn.2 error)

private theorem raises_rulePlan {plan : NodeId → Plan Unit} (each : ∀ id, (plan id).Raises renderer) {id : NodeId}
    {type : NodeType} (typed : renderer.document.type? id = some type) {rule : RenderRule}
    (passesOn : (rule (renderer.node id)).PassesOn) : (renderer.rulePlan plan id type rule).Raises renderer := by
  refine .inl ⟨trivial, (sound_execPlan passes each id passesOn).bind ?_ (fun _ _ same => by cases same) ?_⟩
  · intro result own
    cases result with
    | ok value => exact .inl ⟨rfl, trivial⟩
    | error error =>
      cases error with
      | own message => exact .inr ⟨.render id type, message, rfl, typed, rfl⟩
      | nested error => exact absurd rfl (own error)
  · intro error result same
    cases same
    exact ⟨rfl, rfl⟩

private theorem raises_stepPlan {plan : NodeId → Plan Unit} (each : ∀ id, (plan id).Raises renderer) (step : Step) :
    (renderer.stepPlan plan step).Raises renderer := by
  cases step with
  | exit id => exact (raises_exitPlan passes each id).andThen fun _ _ => trivial
  | enter id =>
    simp only [stepPlan]
    cases typed : renderer.document.type? id with
    | none => trivial
    | some type =>
      simp only
      cases taken : renderer.rules.renderRule? type with
      | some rule =>
        exact (raises_rulePlan passes each typed (passes.render type rule taken _)).andThen fun _ _ => trivial
      | none => exact (raises_enterPlan passes id).andThen fun descent _ => by cases descent <;> trivial

theorem raises_runPlan (budget : Nat) (stack : List Step) : (renderer.runPlan budget stack).Raises renderer := by
  apply forall_runPlan
  · trivial
  · trivial
  · intro render step following each later
    exact (raises_stepPlan passes each step).andThen fun steps _ => later steps

end

/-! What is seen of a sound plan. -/

/-- Among these events, a callback is the first to fail, and does so with an error of its own. What runs around it passes
the error on, and nothing is called any more. -/
def FirstFailure (events : List CallbackEvent) (callback : Callback) (message : String) : Prop :=
  ∃ before after, events = before ++ .ended callback (.error (.own message)) :: after ∧
    (∀ event ∈ before, event.Fine) ∧ ∀ event ∈ after, event.Passes (callback.raised message)

theorem FirstFailure.cons {events : List CallbackEvent} {callback : Callback} {message : String}
    (first : FirstFailure events callback message) {event : CallbackEvent} (fine : event.Fine) :
    FirstFailure (event :: events) callback message := by
  obtain ⟨before, after, rfl, quiet, passed⟩ := first
  exact ⟨event :: before, after, rfl, List.forall_mem_cons.mpr ⟨fine, quiet⟩, passed⟩

theorem Plan.Fails.follow {error : Error} {result : Except Error α} {plan : Plan α} (fails : plan.Fails error result)
    (renderer : Renderer) (state : RenderState) :
    (∀ event ∈ (renderer.follow plan state).events, event.Passes error) ∧
      ∀ ending, (renderer.follow plan state).result = some ending → ending = result := by
  induction plan generalizing state with
  | done ending => exact ⟨nofun, fun other same => (Option.some.inj same).symm.trans fails⟩
  | exhausted => exact ⟨nofun, nofun⟩
  | write call rest ih => exact ih fails _
  | output rest ih => exact ih _ (fails _) state
  | decorate id tag base rest ih =>
    obtain ⟨handed, after, decorated⟩ := @decorateBuiltin_ok renderer id base state
    rw [follow_decorate decorated]
    exact ih handed (fails handed) after
  | callback event rest ih =>
    obtain ⟨events, result⟩ := ih fails.2 state
    exact ⟨List.forall_mem_cons.mpr ⟨fails.1, events⟩, result⟩

/-- Either nothing fails, or the result is made from the first failure. -/
theorem Plan.Sound.follow {wanted : α → Prop} {failed : Error → Except Error α} {plan : Plan α}
    (sound : plan.Sound renderer wanted failed) (state : RenderState) :
    let seen := renderer.follow plan state
    ((∀ event ∈ seen.events, event.Fine) ∧ ∀ ending, seen.result = some ending → ∃ value, ending = .ok value) ∨
      ∃ callback message, FirstFailure seen.events callback message ∧
        renderer.document.type? callback.node = some callback.type ∧
        ∀ ending, seen.result = some ending → ending = failed (callback.raised message) := by
  induction plan generalizing state with
  | done ending =>
    cases ending with
    | ok value => exact .inl ⟨nofun, fun other same => ⟨value, (Option.some.inj same).symm⟩⟩
    | error error => exact sound.elim
  | exhausted => exact .inl ⟨nofun, nofun⟩
  | write call rest ih => exact ih sound _
  | output rest ih => exact ih _ (sound _) state
  | decorate id tag base rest ih =>
    obtain ⟨handed, after, decorated⟩ := @decorateBuiltin_ok renderer id base state
    rw [follow_decorate decorated]
    exact ih handed (sound handed) after
  | callback event rest ih =>
    rcases sound with ⟨fine, rest⟩ | ⟨callback, message, rfl, typed, fails⟩
    · rcases ih rest state with ⟨events, result⟩ | ⟨callback, message, first, typed, result⟩
      · exact .inl ⟨List.forall_mem_cons.mpr ⟨fine, events⟩, result⟩
      · exact .inr ⟨callback, message, first.cons fine, typed, result⟩
    · obtain ⟨events, result⟩ := fails.follow renderer state
      exact .inr ⟨callback, message, ⟨[], _, rfl, nofun, events⟩, typed, result⟩

/-- If the callbacks pass on every error that they get, and a document fails, its error is made from the callback that was
the first to fail: it names the type of the node of that callback, and the tag if attributes were decorated, and its
source is that callback's own error. Nothing has been called since. -/
theorem renderDocument_firstFailure {doc : Document} {extensions : List Extension} {options : RendererOptions}
    {rules : RuleSet} (passes : rules.PassesOn) {error : Error}
    (failed : renderDocument doc extensions options rules = some (.error error)) :
    let events := ((ofExtensions doc extensions options rules).observe (defaultBudget doc) Document.root).events
    ∃ callback message, FirstFailure events callback message ∧ doc.type? callback.node = some callback.type ∧
      error = callback.raised message ∧ error.source = .own message := by
  intro events
  obtain ⟨⟨ending, final⟩, ran, same⟩ := Option.map_eq_some_iff.mp failed
  obtain rfl : ending = .error error := by
    cases ending with
    | ok value => cases same
    | error other => exact congrArg Except.error (Except.error.inj same)
  rw [render_observed] at ran
  obtain ⟨result, seen, shown⟩ := Option.map_eq_some_iff.mp ran
  obtain rfl : result = .error error := congrArg Prod.fst shown
  have passes : (ofExtensions doc extensions options rules).rules.PassesOn := passes
  rcases (raises_runPlan passes _ _).follow {} with
    ⟨_, fine⟩ | ⟨callback, message, first, typed, raised⟩
  · obtain ⟨value, impossible⟩ := fine _ seen
    cases impossible
  · obtain rfl := Except.error.inj (raised _ seen)
    exact ⟨callback, message, first, typed, rfl, callback.source_raised message⟩

/-- Two rules that pass on what happens below them lie around the one that fails. -/
theorem renderDocument_firstFailure_nested :
    let quoted := ((Document.empty.appendNew Document.root .blockQuote).2.appendNew ⟨1⟩ .paragraph).2
    let doc := ((quoted.appendNew ⟨2⟩ .strongEmphasis).2.appendNew ⟨3⟩ .emphasis).2
    let around : RenderRule := fun node => .renderChildren node.id .done
    let fails : RenderRule := fun _ => .done (.error (.own "inner"))
    let rules := RuleSet.addRenderRules {} [(.ofList [.blockQuote, .strongEmphasis], around), (.singleton .emphasis, fails)]
    let events := ((ofExtensions doc [] {} rules).observe (defaultBudget doc) Document.root).events
    let error := Error.render .emphasis (.own "inner")
    rules.PassesOn ∧ renderDocument doc [] {} rules = some (.error error) ∧
      ∃ callback message, FirstFailure events callback message ∧ doc.type? callback.node = some callback.type ∧
        error = callback.raised message ∧ error.source = .own message := by
  intro quoted doc around fails rules events error
  have linked : doc.Linked :=
    (((Document.Linked.empty.appendNew (by decide) _).appendNew (by decide) _).appendNew (by decide) _).appendNew
      (by decide) _
  have known : ∀ type rule, rules.renderRule? type = some rule → rule = around ∨ rule = fails := by
    intro type rule found
    rcases RuleSet.registered_of_renderRule? (.start #[]) found with ⟨types, member, _⟩ | none
    · rcases List.mem_cons.mp member with same | member
      · exact .inl (congrArg Prod.snd same)
      · exact .inr (congrArg Prod.snd (List.mem_singleton.mp member))
    · cases none
  have passes : rules.PassesOn := by
    refine ⟨fun rule member => ?_, fun type rule found node => ?_⟩
    · rw [RuleSet.attributeRules_addRenderRules] at member
      exact absurd member (Array.not_mem_empty rule)
    rcases known type rule found with rfl | rfl
    · exact ⟨nofun, fun _ => rfl⟩
    · exact nofun
  have descends : (ofExtensions doc [] {} rules).RulesDescend := by
    intro type rule found id _
    rcases known type rule found with rfl | rfl
    · exact ⟨.refl, fun _ => trivial⟩
    · trivial
  obtain ⟨result, failed⟩ := exists_renderDocument linked.wellFormed descends
  let view : Except Error String → Option (NodeType × String)
    | .error (.render type (.own message)) => some (type, message)
    | _ => none
  have output : ((ofExtensions doc [] {} rules).render 9 Document.root {}).map
      (fun outcome => view (outcome.1.map fun _ => outcome.2.writer.html)) = some (some (.emphasis, "inner")) := by
    decide +kernel
  have seen := view_of_render failed output
  have same : result = .error error := by
    unfold view at seen
    split at seen
    · cases seen
      rfl
    · cases seen
  rw [same] at failed
  exact ⟨passes, failed, renderDocument_firstFailure passes failed⟩

end Renderer

end MarkdownHtml
