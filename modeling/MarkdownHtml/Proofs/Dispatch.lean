import MarkdownHtml.Render.Rules
import Mathlib.Data.List.Basic

/-! Which render rule is chosen for a type. A registration takes over the types of its set and no others, so of
several registrations the last one that has a type renders it. -/

namespace MarkdownHtml

private theorem NodeType.mem_all (type : NodeType) : type ∈ NodeType.all := by cases type <;> decide

private theorem NodeType.index_lt (type : NodeType) : type.index < 33 := List.idxOf_lt_length_of_mem type.mem_all

private theorem NodeType.index_inj {first second : NodeType} : first.index = second.index ↔ first = second :=
  List.idxOf_inj first.mem_all

namespace NodeTypeSet

private theorem mem_toList {types : NodeTypeSet} {type : NodeType} : type ∈ types.toList ↔ types.contains type := by
  simp [toList, type.mem_all]

@[simp] theorem contains_empty (type : NodeType) : empty.contains type = false := by
  simp [empty, contains]

@[simp] theorem contains_insert (types : NodeTypeSet) (added type : NodeType) :
    (types.insert added).contains type = (types.contains type || type == added) := by
  have same : decide (type.index = added.index) = (type == added) := by
    rw [Bool.eq_iff_iff, decide_eq_true_iff, beq_iff_eq, NodeType.index_inj]
  simp [insert, contains, type.index_lt, same]

theorem contains_singleton (only type : NodeType) : (singleton only).contains type = (type == only) := by
  simp [singleton]

end NodeTypeSet

namespace DispatchTable

theorem lookup_registerType (rule : Nat) (state : DispatchTable × List Event) (taken type : NodeType) :
    (registerType rule state taken).1.lookup type = if type = taken then some rule else state.1.lookup type := by
  by_cases same : type = taken
  · simp [registerType, lookup, same]
  · simp [registerType, lookup, List.lookup_cons, beq_eq_false_iff_ne.mpr same, same]

private theorem lookup_foldl (rule : Nat) (types : List NodeType) (state : DispatchTable × List Event)
    (type : NodeType) : (types.foldl (registerType rule) state).1.lookup type =
      if type ∈ types then some rule else state.1.lookup type := by
  induction types generalizing state with
  | nil => simp
  | cons taken types ih =>
    rw [List.foldl_cons, ih, lookup_registerType]
    by_cases later : type ∈ types <;> simp [later]

private theorem lookup_register (table : DispatchTable) (types : NodeTypeSet) (rule : Nat) (type : NodeType) :
    (table.register types rule).1.lookup type = if types.contains type then some rule else table.lookup type := by
  rw [register, lookup_foldl]
  simp only [NodeTypeSet.mem_toList]

end DispatchTable

namespace RuleSet

def Placed (rules : RuleSet) : Prop :=
  ∀ type place, rules.dispatch.lookup type = some place → place < rules.renderRules.size

theorem Placed.start (attributeRules : Array AttributeRule) : Placed { attributeRules } := nofun

variable {rules : RuleSet}

theorem lookup_addRenderRule (rules : RuleSet) (types : NodeTypeSet) (rule : RenderRule) (type : NodeType) :
    (rules.addRenderRule types rule).1.dispatch.lookup type =
      if types.contains type then some rules.renderRules.size else rules.dispatch.lookup type :=
  rules.dispatch.lookup_register types _ type

theorem Placed.addRenderRule (placed : rules.Placed) (types : NodeTypeSet) (rule : RenderRule) :
    (rules.addRenderRule types rule).1.Placed := by
  intro type place found
  have larger : (rules.addRenderRule types rule).1.renderRules.size = rules.renderRules.size + 1 :=
    Array.size_push rule
  rw [lookup_addRenderRule] at found
  rw [larger]
  split at found
  · cases found
    exact Nat.lt_succ_self _
  · exact Nat.lt_succ_of_lt (placed type place found)

/-- A rule that is registered renders its types from then on, and no other type is affected. -/
theorem renderRule?_addRenderRule (placed : rules.Placed) (types : NodeTypeSet) (rule : RenderRule) (type : NodeType) :
    (rules.addRenderRule types rule).1.renderRule? type =
      if types.contains type then some rule else rules.renderRule? type := by
  have grown : (rules.addRenderRule types rule).1.renderRules = rules.renderRules.push rule := rfl
  unfold renderRule?
  rw [lookup_addRenderRule, grown]
  split
  · exact Array.getElem?_push_size
  · cases found : rules.dispatch.lookup type with
    | none => rfl
    | some place =>
      have inside := placed type place found
      simp only [Option.bind_some]
      rw [Array.getElem?_push_lt inside, Array.getElem?_eq_getElem inside]

/-- Registrations one after another. -/
def addRenderRules (rules : RuleSet) (registrations : List (NodeTypeSet × RenderRule)) : RuleSet :=
  registrations.foldl (fun rules entry => (rules.addRenderRule entry.1 entry.2).1) rules

theorem attributeRules_addRenderRules (registrations : List (NodeTypeSet × RenderRule)) (rules : RuleSet) :
    (rules.addRenderRules registrations).attributeRules = rules.attributeRules := by
  induction registrations generalizing rules with
  | nil => rfl
  | cons entry rest ih => exact ih _

/-- Of several registrations, the last one that has a type renders it. -/
theorem renderRule?_addRenderRules (registrations : List (NodeTypeSet × RenderRule)) (placed : rules.Placed)
    (type : NodeType) :
    (rules.addRenderRules registrations).renderRule? type =
      ((registrations.reverse.find? fun entry => entry.1.contains type).map (·.2)).or (rules.renderRule? type) := by
  induction registrations generalizing rules with
  | nil => rfl
  | cons entry rest ih =>
    refine (ih (placed.addRenderRule entry.1 entry.2)).trans ?_
    rw [renderRule?_addRenderRule placed, List.reverse_cons, List.find?_append]
    cases rest.reverse.find? fun entry => entry.1.contains type with
    | some later => rfl
    | none => cases taken : entry.1.contains type <;> simp [taken]

/-- A rule that renders a type has been registered for it. -/
theorem registered_of_renderRule? {registrations : List (NodeTypeSet × RenderRule)} (placed : rules.Placed)
    {type : NodeType} {rule : RenderRule} (found : (rules.addRenderRules registrations).renderRule? type = some rule) :
    (∃ types, (types, rule) ∈ registrations ∧ types.contains type) ∨ rules.renderRule? type = some rule := by
  rw [renderRule?_addRenderRules registrations placed] at found
  rcases Option.or_eq_some_iff.mp found with last | ⟨_, older⟩
  · obtain ⟨entry, taken, rfl⟩ := Option.map_eq_some_iff.mp last
    have contained : entry.1.contains type = true := by simpa using List.find?_some taken
    exact .inl ⟨entry.1, List.mem_reverse.mp (List.mem_of_find?_eq_some taken), contained⟩
  · exact .inr older

end RuleSet

end MarkdownHtml
