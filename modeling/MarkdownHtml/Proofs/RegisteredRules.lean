import MarkdownHtml.Pipeline
import MarkdownHtml.Proofs.ChangedRules
import Mathlib.Data.List.Induction
import Mathlib.Data.List.Nodup

/-! What a pipeline makes of a history of render rules. The table of places, the rules behind the places and what is
reported all go back to the lists of types that the rules were registered for: a type belongs to the last list that has
it, and the list that takes it over reports the one that had it until then. -/

namespace MarkdownHtml

/-- A word for every set of types that has a method of its own. -/
inductive Shorthand
  | block | inline | listBlock | codeBlock
  | only (type : NodeType)

/-- Small letters, with a line before every capital but the first letter. -/
def underscored (name : String) : String :=
  String.ofList (name.toList.flatMap fun c => if c.isUpper then ['_', c.toLower] else [c]).tail

namespace Shorthand

def name : Shorthand → String
  | block => "block"
  | inline => "inline"
  | listBlock => "list_block"
  | codeBlock => "code_block"
  | only type => underscored type.name

def types : Shorthand → List NodeType
  | block => NodeType.all.filter NodeType.isBlock
  | inline => NodeType.all.filter NodeType.isInline
  | listBlock => [.bulletList, .orderedList]
  | codeBlock => [.fencedCodeBlock, .indentedCodeBlock]
  | only type => [type]

private theorem lookup_name (shorthand : Shorthand) :
    Pipeline.namedTypes.lookup shorthand.name = some (NodeTypeSet.ofList shorthand.types) := by
  cases shorthand with
  | only type => cases type <;> decide +kernel
  | _ => decide +kernel

end Shorthand

/-- How the types of a render rule are given: as a list, or by the method that registers the rule. -/
inductive Selection
  | listed (types : List NodeType)
  | named (shorthand : Shorthand)

def Selection.types : Selection → List NodeType
  | listed types => types
  | named shorthand => shorthand.types

/-- The place of the last list that has a type. -/
def lastWith? (lists : List (List NodeType)) (type : NodeType) : Option Nat :=
  (lists.zipIdx.reverse.find? fun entry => decide (type ∈ entry.1)).map (·.2)

/-- What is reported when a list is registered behind others: every type of its own that one of them has, and the last
one of these. -/
def shadowing (earlier : List (List NodeType)) (types : List NodeType) : List Event :=
  NodeType.all.filterMap fun type =>
    if type ∈ types then (lastWith? earlier type).map (.shadowed earlier.length · type) else none

/-- The rule registered last among those whose list has a type. -/
def lastRule? (history : List (Selection × RenderRule)) (type : NodeType) : Option RenderRule :=
  (lastWith? (history.map (·.1.types)) type).bind fun place => (history.map (·.2))[place]?

/-- The step into a node whose type has the given rule, or none. -/
def Renderer.enterBy (renderer : Renderer) (render : NodeId → RenderM Unit) (id : NodeId) (type : NodeType) :
    Option RenderRule → RenderM (List Renderer.Step)
  | some rule => do
    renderer.runRule render id type rule
    return []
  | none => do
    match ← renderer.enter id with
    | .children => return renderer.descend id
    | .done => return []

def Event.isShadowed : Event → Bool
  | .shadowed .. => true
  | _ => false

namespace NodeTypeSet

private theorem contains_foldl_insert (types : NodeTypeSet) (added : List NodeType) (type : NodeType) :
    (added.foldl insert types).contains type = (types.contains type || decide (type ∈ added)) := by
  induction added generalizing types with
  | nil => simp
  | cons first added ih =>
    rw [List.foldl_cons, ih, contains_insert, Bool.eq_iff_iff]
    simp [or_assoc]

private theorem contains_ofList (types : List NodeType) (type : NodeType) :
    (ofList types).contains type = decide (type ∈ types) := by
  rw [ofList, contains_foldl_insert, contains_empty, Bool.false_or]

end NodeTypeSet

private theorem lastWith?_append (lists : List (List NodeType)) (types : List NodeType) (type : NodeType) :
    lastWith? (lists ++ [types]) type = if type ∈ types then some lists.length else lastWith? lists type := by
  have last : (lists ++ [types]).zipIdx.reverse = (types, lists.length) :: lists.zipIdx.reverse := by
    simp [List.zipIdx_append]
  rw [lastWith?, last, List.find?_cons]
  by_cases taken : type ∈ types <;> simp [taken, lastWith?]

private theorem lastWith?_eq_none {lists : List (List NodeType)} {type : NodeType} :
    lastWith? lists type = none ↔ ∀ types ∈ lists, type ∉ types := by
  induction lists using List.reverseRecOn with
  | nil => simp [lastWith?]
  | append_singleton lists types ih =>
    rw [lastWith?_append]
    by_cases taken : type ∈ types
    · simp [taken]
    · rw [if_neg taken, ih, List.forall_mem_append]
      simp [taken]

private theorem lt_of_lastWith? {lists : List (List NodeType)} {type : NodeType} {place : Nat}
    (last : lastWith? lists type = some place) : place < lists.length := by
  obtain ⟨entry, found, rfl⟩ := Option.map_eq_some_iff.mp last
  have member := List.mem_reverse.mp (List.mem_of_find?_eq_some found)
  exact (List.getElem?_eq_some_iff.mp (List.mk_mem_zipIdx_iff_getElem?.mp member)).1

private theorem lastRule?_eq_none {history : List (Selection × RenderRule)} {type : NodeType} :
    lastRule? history type = none ↔ ∀ types ∈ history.map (·.1.types), type ∉ types := by
  rw [← lastWith?_eq_none, lastRule?]
  cases last : lastWith? (history.map (·.1.types)) type with
  | none => exact iff_of_true rfl rfl
  | some place =>
    have inside := lt_of_lastWith? last
    rw [List.length_map] at inside
    simp [inside]

namespace DispatchTable

private theorem events_foldl (rule : Nat) {types : List NodeType} (distinct : types.Nodup)
    (state : DispatchTable × List Event) : (types.foldl (registerType rule) state).2 =
      state.2 ++ types.filterMap fun type => (state.1.lookup type).map (.shadowed rule · type) := by
  induction types generalizing state with
  | nil => simp
  | cons taken types ih =>
    obtain ⟨fresh, distinct⟩ := List.nodup_cons.mp distinct
    have here : (registerType rule state taken).2 =
        state.2 ++ ((state.1.lookup taken).map (.shadowed rule · taken)).toList := by
      cases found : state.1.lookup taken <;> simp [registerType, found]
    have later : ∀ type ∈ types, (registerType rule state taken).1.lookup type = state.1.lookup type := by
      intro type member
      rw [lookup_registerType, if_neg (ne_of_mem_of_not_mem member fresh)]
    rw [List.foldl_cons, ih distinct, here, List.append_assoc,
      List.filterMap_congr fun type member => by rw [later type member]]
    cases found : state.1.lookup taken <;> simp [found]

private theorem events_register (table : DispatchTable) (types : NodeTypeSet) (rule : Nat) :
    (table.register types rule).2 = NodeType.all.filterMap fun type =>
      if types.contains type then (table.lookup type).map (.shadowed rule · type) else none := by
  have distinct : types.toList.Nodup := List.Nodup.filter _ (by decide)
  rw [register, events_foldl rule distinct, List.nil_append, NodeTypeSet.toList, List.filterMap_filter]

end DispatchTable

namespace Pipeline
variable {σ : Type}

/-- Register a render rule the way its types are given. -/
def register? (pipeline : Pipeline σ) (rule : RenderRule) : Selection → Option (Pipeline σ × List Event)
  | .listed types => some (pipeline.addRenderRule (.ofList types) rule)
  | .named shorthand => pipeline.addNamedRule? shorthand.name rule

/-- Register rules one after another, and keep what is reported. -/
def registerAll? (pipeline : Pipeline σ) (history : List (Selection × RenderRule)) : Option (Pipeline σ × List Event) :=
  history.foldlM (fun state entry => (state.1.register? entry.2 entry.1).map fun next => (next.1, state.2 ++ next.2))
    (pipeline, [])

private theorem register?_eq (pipeline : Pipeline σ) (rule : RenderRule) (selection : Selection) :
    pipeline.register? rule selection = some (pipeline.addRenderRule (.ofList selection.types) rule) := by
  cases selection with
  | listed types => rfl
  | named shorthand =>
    rw [register?, addNamedRule?, shorthand.lookup_name]
    rfl

/-- What a history leads to: the places in the table, the rules behind them and what is reported of shadows. -/
structure Registered (history : List (Selection × RenderRule)) (pipeline : Pipeline σ) (log : List Event) : Prop where
  lookup : ∀ type, pipeline.rules.dispatch.lookup type = lastWith? (history.map (·.1.types)) type
  renderRules : pipeline.rules.renderRules.toList = history.map (·.2)
  shadows : log.filter Event.isShadowed = (history.map (·.1.types)).zipIdx.flatMap fun entry =>
    shadowing ((history.map (·.1.types)).take entry.2) entry.1

theorem Registered.start (base : Pipeline σ) (attributeRules : Array AttributeRule) :
    Registered [] { base with rules := { attributeRules } } [] := ⟨fun _ => rfl, rfl, rfl⟩

private theorem filter_shadowing (earlier : List (List NodeType)) (types : List NodeType) :
    (shadowing earlier types).filter Event.isShadowed = shadowing earlier types := by
  refine List.filter_eq_self.mpr fun event member => ?_
  obtain ⟨type, _, made⟩ := List.mem_filterMap.mp member
  obtain ⟨_, made⟩ := Option.ite_none_right_eq_some.mp made
  obtain ⟨previous, _, rfl⟩ := Option.map_eq_some_iff.mp made
  rfl

private theorem shadows_append (lists : List (List NodeType)) (types : List NodeType) :
    ((lists ++ [types]).zipIdx.flatMap fun entry => shadowing ((lists ++ [types]).take entry.2) entry.1) =
      (lists.zipIdx.flatMap fun entry => shadowing (lists.take entry.2) entry.1) ++ shadowing lists types := by
  have before : ∀ entry ∈ lists.zipIdx, (lists ++ [types]).take entry.2 = lists.take entry.2 := by
    intro entry member
    have inside := (List.getElem?_eq_some_iff.mp (List.mk_mem_zipIdx_iff_getElem?.mp member)).1
    exact List.take_append_of_le_length (Nat.le_of_lt inside)
  rw [List.zipIdx_append, List.flatMap_append, List.flatMap_congr fun entry member => by rw [before entry member]]
  simp

private theorem Registered.addRenderRule {history : List (Selection × RenderRule)} {pipeline : Pipeline σ}
    {log : List Event} (registered : Registered history pipeline log) (selection : Selection) (rule : RenderRule) :
    Registered (history ++ [(selection, rule)]) (pipeline.addRenderRule (.ofList selection.types) rule).1
      (log ++ (pipeline.addRenderRule (.ofList selection.types) rule).2) := by
  have size : pipeline.rules.renderRules.size = (history.map (·.1.types)).length := by
    rw [← Array.length_toList, registered.renderRules, List.length_map, List.length_map]
  refine ⟨fun type => ?_, ?_, ?_⟩
  · have taken := pipeline.rules.lookup_addRenderRule (.ofList selection.types) rule type
    rw [NodeTypeSet.contains_ofList, size, registered.lookup] at taken
    rw [List.map_append, List.map_singleton, lastWith?_append]
    exact taken.trans (by simp)
  · rw [List.map_append, ← registered.renderRules]
    exact Array.toList_push
  · have reported : (pipeline.addRenderRule (.ofList selection.types) rule).2 =
        .registeredRenderRule (.ofList selection.types) :: shadowing (history.map (·.1.types)) selection.types := by
      have shadows := pipeline.rules.dispatch.events_register (.ofList selection.types) pipeline.rules.renderRules.size
      simp only [NodeTypeSet.contains_ofList, size, registered.lookup, decide_eq_true_eq] at shadows
      have whole : (pipeline.addRenderRule (.ofList selection.types) rule).2 =
          .registeredRenderRule (.ofList selection.types) ::
            (pipeline.rules.dispatch.register (.ofList selection.types) pipeline.rules.renderRules.size).2 := rfl
      rw [whole, size, shadows, shadowing]
    rw [List.filter_append, registered.shadows, reported, List.filter_cons_of_neg (by simp [Event.isShadowed]),
      filter_shadowing, List.map_append, List.map_singleton, shadows_append]

private theorem exists_registered (base : Pipeline σ) (attributeRules : Array AttributeRule)
    (history : List (Selection × RenderRule)) : ∃ pipeline log,
      registerAll? { base with rules := { attributeRules } } history = some (pipeline, log) ∧
        Registered history pipeline log := by
  induction history using List.reverseRecOn with
  | nil => exact ⟨_, _, rfl, .start base attributeRules⟩
  | append_singleton history entry ih =>
    obtain ⟨pipeline, log, made, registered⟩ := ih
    refine ⟨_, _, ?_, registered.addRenderRule entry.1 entry.2⟩
    simp only [registerAll?, List.foldlM_append] at made ⊢
    rw [made]
    simp [register?_eq]

/-- Each type is rendered by the rule registered last among those whose list has it, and by what is built in if no list
has it. Each list reports, in the order of all types, which rules its types were rendered by until then. -/
theorem renderRules_registered (base : Pipeline σ) (attributeRules : Array AttributeRule)
    (history : List (Selection × RenderRule)) :
    let lists := history.map (·.1.types)
    ∃ pipeline log, registerAll? { base with rules := { attributeRules } } history = some (pipeline, log) ∧
      (∀ type, pipeline.rules.renderRule? type = lastRule? history type ∧
        (lastRule? history type = none ↔ ∀ types ∈ lists, type ∉ types)) ∧
      (∀ (renderer : Renderer) (render : NodeId → RenderM Unit) (id : NodeId),
        (renderer.withRules pipeline.rules).perform render (.enter id) = match renderer.document.type? id with
          | none => return []
          | some type => (renderer.withRules pipeline.rules).enterBy render id type (lastRule? history type)) ∧
      log.filter Event.isShadowed = lists.zipIdx.flatMap fun entry => shadowing (lists.take entry.2) entry.1 := by
  intro lists
  obtain ⟨pipeline, log, made, registered⟩ := exists_registered base attributeRules history
  have chosen : ∀ type, pipeline.rules.renderRule? type = lastRule? history type := by
    intro type
    rw [RuleSet.renderRule?, registered.lookup, lastRule?, ← registered.renderRules]
    exact Option.bind_congr fun place _ => Array.getElem?_toList.symm
  refine ⟨pipeline, log, made, fun type => ⟨chosen type, lastRule?_eq_none⟩, fun renderer render id => ?_,
    registered.shadows⟩
  rw [Renderer.perform]
  cases found : renderer.document.type? id with
  | none => simp only [Renderer.withRules, found]
  | some type =>
    simp only [Renderer.withRules, found, chosen]
    cases lastRule? history type <;> rfl

example :
    let rule : RenderRule := fun _ => .done (.ok ())
    (registerAll? ({} : Pipeline Unit) [(.listed [.text, .heading], rule), (.named (.only .heading), rule),
        (.listed [.text, .heading, .text], rule)]).map (fun made => (made.2.filter Event.isShadowed).map Event.message) =
      some ["Render rule #1 shadows rule #0 for Heading", "Render rule #2 shadows rule #1 for Heading",
        "Render rule #2 shadows rule #0 for Text"] := by
  decide +kernel

end Pipeline

end MarkdownHtml
