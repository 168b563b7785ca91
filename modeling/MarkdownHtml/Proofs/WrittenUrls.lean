import MarkdownHtml.Proofs.RenderPlans
import MarkdownHtml.Proofs.RenderedHtml

/-! The destinations that a rendering writes. While destinations are sanitized, every link and every source has a safe
protocol or none. What decorates a tag later on could overwrite them, but has other names. -/

namespace MarkdownHtml.Renderer
open Html RenderM

variable {renderer : Renderer}

/-! Attributes. -/

def imageEntries : NodeKind → List (String × String)
  | .imageAttributes attributes => attributes
  | _ => []

/-- The attributes of images have no other names than those that are read for them. -/
def SizedImages (doc : Document) : Prop :=
  ∀ node ∈ doc.nodes.toList, ∀ entry ∈ imageEntries node.kind, entry.1 = "width" ∨ entry.1 = "height"

instance (doc : Document) : Decidable (SizedImages doc) := List.decidableBAll _ doc.nodes.toList

private theorem safeLinks_imageAttributes (sized : SizedImages renderer.document) (id : NodeId) :
    ∀ entry ∈ imageAttributesOf renderer.document id, SafeLink entry.1 entry.2 := by
  intro entry member
  obtain ⟨child, _, member⟩ := List.mem_flatMap.mp member
  split at member
  next attributes found =>
    obtain ⟨node, held, kind⟩ := Option.map_eq_some_iff.mp found
    have inside : entry ∈ imageEntries node.kind := kind ▸ member
    refine .other ?_ _
    rcases sized node (Array.mem_def.mp (Array.mem_of_getElem? held)) entry inside with name | name <;> rw [name] <;> decide
  next => cases member

def Yields (wanted : α → Prop) (computation : RenderM α) : Prop :=
  ∀ state value after, computation state = some (.ok value, after) → wanted value

theorem Yields.pure {wanted : α → Prop} {value : α} (fine : wanted value) : Yields wanted (Pure.pure value) := by
  rintro state _ after ⟨⟩
  exact fine

theorem Yields.bind {wanted : β → Prop} {first : RenderM α} {next : α → RenderM β}
    (each : ∀ value, Yields wanted (next value)) : Yields wanted (first >>= next) := by
  intro state value after ran
  obtain ⟨middle, between, _, rest⟩ := ok_of_bind ran
  exact each middle between value after rest

private theorem SafeLinks.decorateBuiltin (sized : SizedImages renderer.document) (id : NodeId) {base : AttributeSet}
    (safe : SafeLinks base) : Yields SafeLinks (renderer.decorateBuiltin id base) := by
  unfold Renderer.decorateBuiltin
  split
  · split
    · exact .bind fun anchor => .pure (safe.insert (.other (by decide) anchor))
    · exact .pure safe
  · split
    · exact .pure (.foldl (safeLinks_imageAttributes sized id) safe)
    · exact .pure safe
  · exact .pure safe

/-! Plans. -/

/-- A plan that writes only what is allowed, if what its tags begin with and what becomes of that is clean. A value that
it ends with is as wanted. -/
def Plan.Writes (allowed : Write → Prop) (clean : AttributeSet → Prop) (wanted : α → Prop) : Plan α → Prop
  | .done (.ok value) => wanted value
  | .done (.error _) | .exhausted => True
  | .write call next => allowed call ∧ next.Writes allowed clean wanted
  | .output next => ∀ html, (next html).Writes allowed clean wanted
  | .decorate _ _ base next => clean base ∧ ∀ handed, clean handed → (next handed).Writes allowed clean wanted
  | .callback _ next => next.Writes allowed clean wanted

namespace Plan.Writes

variable {allowed : Write → Prop} {clean : AttributeSet → Prop}

theorem bind {plan : Plan α} {next : α → Plan β} {wanted : α → Prop} {final : β → Prop}
    (first : plan.Writes allowed clean wanted) (second : ∀ value, wanted value → (next value).Writes allowed clean final) :
    (plan >>= next).Writes allowed clean final := by
  change (plan.bind next).Writes allowed clean final
  induction plan with
  | done result =>
    cases result with
    | ok value => exact second value first
    | error error => trivial
  | exhausted => trivial
  | write call rest ih => exact ⟨first.1, ih first.2⟩
  | output rest ih => exact fun html => ih html (first html)
  | decorate id tag base rest ih => exact ⟨first.1, fun handed ok => ih handed (first.2 handed ok)⟩
  | callback event rest ih => exact ih first

theorem forM {plan : NodeId → Plan Unit} (each : ∀ id, (plan id).Writes allowed clean fun _ => True)
    (ids : List NodeId) : (ids.forM plan).Writes allowed clean fun _ => True := by
  induction ids with
  | nil => trivial
  | cons id ids ih => exact (each id).bind fun _ _ => ih

/-- The calls that are seen of such a plan are allowed, and what they write is the output. -/
theorem follow {plan : Plan α} {wanted : α → Prop} (writes : plan.Writes allowed clean wanted)
    (kept : ∀ id base, clean base → Yields clean (renderer.decorateBuiltin id base)) (state : RenderState) :
    ∀ call ∈ (renderer.follow plan state).calls, allowed call := by
  induction plan generalizing state with
  | done result => exact fun _ member => absurd member List.not_mem_nil
  | exhausted => exact fun _ member => absurd member List.not_mem_nil
  | write call rest ih => exact List.forall_mem_cons.mpr ⟨writes.1, ih writes.2 _⟩
  | output rest ih => exact ih _ (writes _) state
  | decorate id tag base rest ih =>
    obtain ⟨handed, after, decorated⟩ := @decorateBuiltin_ok renderer id base state
    rw [follow_decorate decorated]
    exact ih handed (writes.2 handed (kept id base writes.1 state handed after decorated)) after
  | callback event rest ih => exact ih writes state

end Plan.Writes

private theorem writer_follow (plan : Plan α) (state : RenderState) :
    (renderer.follow plan state).state.writer = (renderer.follow plan state).calls.foldl Writer.perform state.writer := by
  induction plan generalizing state with
  | done result => rfl
  | exhausted => rfl
  | write call rest ih => exact ih _
  | output rest ih => exact ih _ state
  | decorate id tag base rest ih =>
    obtain ⟨handed, after, ran, same⟩ := @settles_decorateBuiltin renderer id base state
    rw [follow_decorate ran, ← same]
    exact ih handed after
  | callback event rest ih => exact ih state

private theorem writer_observe {budget : Nat} {id : NodeId} {outcome : Outcome Unit}
    (ran : renderer.render budget id {} = some outcome) :
    outcome.2.writer = (renderer.observe budget id).calls.foldl Writer.perform {} := by
  rw [render_observed] at ran
  obtain ⟨result, _, rfl⟩ := Option.map_eq_some_iff.mp ran
  exact writer_follow (renderer.runPlan budget [.enter id]) {}

/-! What the built-in rules write. -/

/-- A call that writes no unsafe link. Besides the tags with their attributes, only plain text, what stands for a line
break, and the HTML of the document itself are written as they are. -/
def Harmless (renderer : Renderer) : Write → Prop
  | .tagWith name attributes | .voidTag name attributes => KnownTag renderer.document name ∧ SafeLinks attributes
  | .closeTag name => KnownTag renderer.document name
  | .raw text => PlainText text ∨ text = renderer.options.softbreak ∨
    ∃ id, renderer.document.kind? id = some (.htmlBlock text) ∨ renderer.document.kind? id = some (.htmlInline text)
  | .text _ | .line => True
  | .tag _ => False

def Piece.Harmless (renderer : Renderer) : Piece → Prop
  | .write call => renderer.Harmless call
  | .openTag _ name base | .voidTag _ name base => KnownTag renderer.document name ∧ SafeLinks base

/-- A plan that writes nothing but harmless calls. -/
abbrev Plan.Harmless (renderer : Renderer) (plan : Plan α) : Prop := plan.Writes renderer.Harmless SafeLinks fun _ => True

private theorem Piece.Builtin.harmless (sanitizes : renderer.options.sanitizeUrls = true) {piece : Piece}
    (builtin : piece.Builtin renderer) : piece.Harmless renderer := by
  cases piece with
  | openTag id name base => exact ⟨builtin.1, builtin.2 sanitizes⟩
  | voidTag id name base => exact ⟨builtin.1, builtin.2 sanitizes⟩
  | write call =>
    cases call with
    | raw text =>
      rcases builtin with text | line | ⟨_, own⟩
      · exact .inl text
      · exact .inr (.inl line)
      · exact .inr (.inr own)
    | tagWith name attributes => exact builtin.elim
    | voidTag name attributes => exact builtin.elim
    | _ => exact builtin

/-! Whole renderings. -/

private theorem harmless_attributesPlan (noRules : renderer.rules = {}) (id : NodeId) (tag : String)
    {base : AttributeSet} (safe : SafeLinks base) :
    (renderer.attributesPlan id tag base).Writes renderer.Harmless SafeLinks SafeLinks := by
  refine ⟨safe, fun handed fine => ?_⟩
  cases renderer.document.type? id with
  | none => exact fine
  | some type =>
    have noRule : renderer.rules.attributeRulesFor type = [] := by rw [noRules]; rfl
    simp only [noRule, applyRulesPlan]
    exact fine

private theorem harmless_piecesPlan (noRules : renderer.rules = {}) (sanitizes : renderer.options.sanitizeUrls = true)
    {pieces : List Piece} (builtin : ∀ piece ∈ pieces, piece.Builtin renderer) :
    (renderer.piecesPlan pieces).Harmless renderer := by
  induction pieces with
  | nil => trivial
  | cons piece rest ih =>
    have later := ih fun other member => builtin other (List.mem_cons_of_mem piece member)
    have given := (builtin piece List.mem_cons_self).harmless sanitizes
    have first : (renderer.piecePlan piece).Harmless renderer := by
      cases piece with
      | write call => exact ⟨given, trivial⟩
      | openTag id tag base =>
        exact (harmless_attributesPlan noRules id tag given.2).bind fun attributes safe => ⟨⟨given.1, safe⟩, trivial⟩
      | voidTag id tag base =>
        exact (harmless_attributesPlan noRules id tag given.2).bind fun attributes safe => ⟨⟨given.1, safe⟩, trivial⟩
    exact first.bind fun _ _ => later

private theorem harmless_exitPlan (noRules : renderer.rules = {}) (sanitizes : renderer.options.sanitizeUrls = true)
    {plan : NodeId → Plan Unit} (each : ∀ id, (plan id).Harmless renderer) (id : NodeId) :
    (renderer.exitPlan plan id).Harmless renderer := by
  unfold exitPlan
  cases found : renderer.document.kind? id with
  | none => trivial
  | some kind =>
    have closing := harmless_piecesPlan noRules sanitizes (builtin_closing found)
    cases kind with
    | document =>
      dsimp only
      split
      · trivial
      · have before := harmless_piecesPlan noRules sanitizes (builtin_section id).1
        have behind := harmless_piecesPlan noRules sanitizes (builtin_section id).2
        exact before.bind fun _ _ => (Plan.Writes.forM each _).bind fun _ _ => behind
    | _ => exact closing

private theorem harmless_stepPlan (noRules : renderer.rules = {}) (sanitizes : renderer.options.sanitizeUrls = true)
    {plan : NodeId → Plan Unit} (each : ∀ id, (plan id).Harmless renderer) (step : Step) :
    (renderer.stepPlan plan step).Harmless renderer := by
  cases step with
  | exit id => exact (harmless_exitPlan noRules sanitizes each id).bind fun _ _ => trivial
  | enter id =>
    simp only [stepPlan]
    cases renderer.document.type? id with
    | none => trivial
    | some type =>
      have noRule : renderer.rules.renderRule? type = none := by rw [noRules]; rfl
      simp only [noRule, enterPlan]
      have entered : (renderer.enterPlan id).Harmless renderer := by
        unfold enterPlan
        cases found : renderer.document.kind? id with
        | none => trivial
        | some kind => exact (harmless_piecesPlan noRules sanitizes (builtin_opening found)).bind fun _ _ => trivial
      exact entered.bind fun descent _ => by cases descent <;> trivial

private theorem harmless_runPlan (noRules : renderer.rules = {}) (sanitizes : renderer.options.sanitizeUrls = true)
    (budget : Nat) (stack : List Step) : (renderer.runPlan budget stack).Harmless renderer := by
  apply forall_runPlan
  · trivial
  · trivial
  · intro render step following each later
    exact (harmless_stepPlan noRules sanitizes each step).bind fun steps _ => later steps

private theorem harmless_observe (sized : SizedImages renderer.document) (noRules : renderer.rules = {})
    (sanitizes : renderer.options.sanitizeUrls = true) (budget : Nat) (id : NodeId) :
    ∀ call ∈ (renderer.observe budget id).calls, renderer.Harmless call :=
  (harmless_runPlan noRules sanitizes budget [.enter id]).follow (fun id _ safe => safe.decorateBuiltin sized id) {}

/-- While destinations are sanitized and no caller has rules, nothing but harmless calls is written, and if a document
has HTML, they are what writes it. -/
theorem harmless_calls (doc : Document) (sized : SizedImages doc) (extensions : List Extension)
    {options : RendererOptions} (sanitizes : options.sanitizeUrls = true) :
    let renderer := ofExtensions doc extensions options {}
    let calls := (renderer.observe (defaultBudget doc) Document.root).calls
    (∀ html, renderDocument doc extensions options {} = some (.ok html) → html = (calls.foldl Writer.perform {}).html) ∧
      ∀ call ∈ calls, renderer.Harmless call := by
  intro renderer calls
  refine ⟨fun html same => ?_, harmless_observe sized rfl sanitizes _ _⟩
  obtain ⟨⟨value, final⟩, ran, same⟩ := Option.map_eq_some_iff.mp same
  cases value with
  | error error => cases same
  | ok value => exact (Except.ok.inj same).symm.trans (congrArg Writer.html (writer_observe ran))

theorem harmless_calls_mixed :
    let linking := ((Document.empty.appendNew Document.root .paragraph).2.appendNew ⟨1⟩ (.link " JavaScript:a" none)).2
    let pictured := (linking.appendNew ⟨1⟩ (.image "HTTPS:é/b c" none)).2
    let doc := (pictured.appendNew ⟨3⟩ (.imageAttributes [("width", "5")])).2
    let options : RendererOptions := { sanitizeUrls := true, percentEncodeUrls := true }
    let renderer := ofExtensions doc [.imageAttributes] options {}
    let html := "<p><a rel=\"nofollow\" href=\"\"></a><img src=\"HTTPS:%C3%A9/b%20c\" alt=\"\" width=\"5\" /></p>\n"
    SizedImages doc ∧ options.sanitizeUrls = true ∧
      renderDocument doc [.imageAttributes] options {} = some (.ok html) ∧
      ∀ call ∈ (renderer.observe (defaultBudget doc) Document.root).calls, renderer.Harmless call := by
  intro linking pictured doc options renderer html
  have linked : doc.Linked :=
    (((Document.Linked.empty.appendNew (by decide) _).appendNew (by decide) _).appendNew (by decide) _).appendNew
      (by decide) _
  have sized : SizedImages doc := by decide
  have sanitizes : options.sanitizeUrls = true := rfl
  have output : (renderer.render 8 Document.root {}).map
      (fun outcome => (outcome.1.map fun _ => outcome.2.writer.html).toOption) = some (some html) := by decide +kernel
  have noRule : ∀ type, renderer.rules.renderRule? type = none := fun _ => rfl
  obtain ⟨result, same⟩ := exists_renderDocument linked.wellFormed (rulesDescend_of_none noRule)
  obtain rfl := ok_of_render same output
  exact ⟨sized, sanitizes, same, (harmless_calls doc sized [.imageAttributes] sanitizes).2⟩

end MarkdownHtml.Renderer
