import MarkdownHtml.Proofs.Dispatch
import MarkdownHtml.Proofs.WrittenCalls

/-! Render rules that write the same whatever node they are given. Where all rules are of this kind and headings have
no anchors, every call of the writer is made for what a node is, and none for what has been rendered before. -/

namespace MarkdownHtml
open Html

/-- A rule that writes the same for every node, and calls nothing else. -/
def fixedRule (calls : List Write) : RenderRule := fun _ => calls.foldr .write (.done (.ok ()))

/-- The rules of a caller are render rules for some types, and the rule for a type only writes its text. -/
structure RuleSet.Fixed (rules : RuleSet) (texts : NodeType → Option (List Write)) : Prop where
  attributeRules : rules.attributeRules = #[]
  renderRule : ∀ type, rules.renderRule? type = (texts type).map fixedRule

theorem RuleSet.fixed_addRenderRules (registrations : List (NodeTypeSet × List Write)) :
    RuleSet.Fixed (RuleSet.addRenderRules {} (registrations.map fun entry => (entry.1, fixedRule entry.2)))
      fun type => (registrations.reverse.find? fun entry => entry.1.contains type).map (·.2) where
  attributeRules := attributeRules_addRenderRules _ _
  renderRule type := by
    rw [renderRule?_addRenderRules _ (.start #[]), ← List.map_reverse, List.find?_map, Option.map_map, Option.map_map]
    exact Option.or_none

namespace Renderer
open RenderM

variable {renderer : Renderer} {texts : NodeType → Option (List Write)}

private theorem emit_writes (calls : List Write) : renderer.emit (calls.map .write) = calls.forM RenderM.write := by
  induction calls with
  | nil => rfl
  | cons call rest ih => exact congrArg (RenderM.write call >>= fun _ => ·) ih

private theorem exec_fixedRule (render : NodeId → RenderM Unit) (id : NodeId) (calls : List Write) :
    renderer.exec render id (fixedRule calls (renderer.node id)) =
      (do calls.forM RenderM.write; return .ok ()) := by
  unfold fixedRule
  induction calls with
  | nil => rfl
  | cons call rest ih =>
    rw [List.foldr_cons, exec, ih]
    simp only [List.forM, bind_assoc]

private theorem runRule_fixedRule (render : NodeId → RenderM Unit) (id : NodeId) (type : NodeType)
    (calls : List Write) : renderer.runRule render id type (fixedRule calls) = renderer.emit (calls.map .write) := by
  rw [runRule, exec_fixedRule, emit_writes]
  simp only [bind_assoc, pure_bind, bind_pure_unit]

private theorem descends_fixedRule (doc : Document) (id : NodeId) (node : NodeRef) (calls : List Write) :
    Descends doc id (fixedRule calls node) := by
  unfold fixedRule
  induction calls with
  | nil => trivial
  | cons call rest ih => exact ih

private theorem rulesDescend_of_fixed (fixed : renderer.rules.Fixed texts) : renderer.RulesDescend := by
  intro type rule found id _
  rw [fixed.renderRule] at found
  obtain ⟨calls, _, rfl⟩ := Option.map_eq_some_iff.mp found
  exact descends_fixedRule _ _ _ _

/-- What a node writes, given what its children write, if the nodes of some types write fixed texts. -/
def fixedFrom (renderer : Renderer) (texts : NodeType → Option (List Write)) (below : NodeId → List Piece)
    (id : NodeId) : List Piece :=
  match (renderer.document.type? id).bind texts with
  | some calls => calls.map .write
  | none => renderer.piecesFrom below id

def fixedPieces (renderer : Renderer) (texts : NodeType → Option (List Write)) : NodeId → List Piece :=
  renderer.document.value (renderer.fixedFrom texts)

theorem fixedPieces_eq (wellFormed : renderer.document.WellFormed) {id : NodeId} (held : renderer.document.Holds id) :
    renderer.fixedPieces texts id = renderer.fixedFrom texts (renderer.fixedPieces texts) id := by
  refine wellFormed.value_eq (fun first second id same => ?_) held
  unfold fixedFrom
  split
  · rfl
  · exact piecesFrom_congr same

/-- The recursion emits the text of each node whose type has one, and what the built-in rules make of the others. -/
theorem renderTree_emits_fixed (wellFormed : renderer.document.WellFormed) (fixed : renderer.rules.Fixed texts)
    {rank : NodeId → Nat} (falls : ∀ parent child, renderer.document.IsParent parent child → rank child < rank parent)
    {depth : Nat} {id : NodeId} (held : renderer.document.Holds id) (enough : rank id < depth) :
    renderer.renderTree depth id = renderer.emit (renderer.fixedPieces texts id) := by
  induction depth generalizing id with
  | zero => omega
  | succ depth ih =>
    obtain ⟨kind, found⟩ := Document.holds_iff_kind.mp held
    have type : renderer.document.type? id = some kind.type := by rw [Document.type?, found]; rfl
    rw [fixedPieces_eq wellFormed held, fixedFrom, type, Option.bind_some]
    have rule := fixed.renderRule kind.type
    cases given : texts kind.type with
    | some calls =>
      rw [given] at rule
      simp only [renderTree, type, rule, Option.map_some]
      exact runRule_fixedRule _ id kind.type calls
    | none =>
      rw [given] at rule
      refine renderTree_emits_node found rule fun child member => ?_
      have under := wellFormed.mem_childIds.mp member
      have lower := falls id child under
      exact ih (Document.holds_of_parent under) (by omega)

/-- The attributes of a tag, where headings have no anchors. -/
def decorated (renderer : Renderer) (id : NodeId) (base : AttributeSet) : AttributeSet :=
  match renderer.document.kind? id with
  | some (.image ..) =>
    if renderer.imageAttributes then
      (imageAttributesOf renderer.document id).foldl (fun set entry => set.insert entry.1 entry.2) base
    else base
  | _ => base

/-- The call that writes a piece, where headings have no anchors. -/
def settled (renderer : Renderer) : Piece → Write
  | .write call => call
  | .openTag id tag base => .tagWith tag (renderer.decorated id base)
  | .voidTag id tag base => .voidTag tag (renderer.decorated id base)

section
variable (noAttributeRules : renderer.rules.attributeRules = #[]) (noAnchors : renderer.headingAnchors = false)
include noAttributeRules noAnchors

private theorem attributes_eq_decorated (id : NodeId) (tag : String) (base : AttributeSet) :
    renderer.attributes id tag base = pure (renderer.decorated id base) := by
  rw [attributes_eq noAttributeRules, decorateBuiltin, decorated]
  cases renderer.document.kind? id with
  | none => rfl
  | some kind =>
    cases kind with
    | heading level =>
      simp only [noAnchors]
      rfl
    | image destination title =>
      simp only
      split <;> rfl
    | _ => rfl

private theorem calls_eq_settled (pieces : List Piece) (state : RenderState) :
    (renderer.calls pieces state).map (·.2) = pieces.map renderer.settled := by
  induction pieces generalizing state with
  | nil => rfl
  | cons piece rest ih =>
    obtain ⟨owner, made⟩ : ∃ owner, renderer.call piece = pure (owner, renderer.settled piece) := by
      cases piece with
      | write call => exact ⟨_, rfl⟩
      | openTag id tag base => exact ⟨some id, by rw [call, attributes_eq_decorated noAttributeRules noAnchors]; rfl⟩
      | voidTag id tag base => exact ⟨some id, by rw [call, attributes_eq_decorated noAttributeRules noAnchors]; rfl⟩
    rw [calls, made]
    exact congrArg (renderer.settled piece :: ·) (ih _)

end

def htmlBy (calls : List Write) : String := (calls.foldl Writer.perform {}).html

/-- With fixed rules only, the HTML of a document is what its nodes write by themselves. -/
theorem renderDocument_fixed {doc : Document} (wellFormed : doc.WellFormed) (held : doc.Holds Document.root)
    {extensions : List Extension} (noAnchors : Extension.headingAnchors ∉ extensions) (options : RendererOptions)
    {rules : RuleSet} (fixed : rules.Fixed texts) :
    renderDocument doc extensions options rules = some (.ok (htmlBy
      (((ofExtensions doc extensions options rules).fixedPieces texts Document.root).map
        (ofExtensions doc extensions options rules).settled))) := by
  have inside : ∀ parent child, doc.IsParent parent child → doc.Holds child := fun _ _ => Document.holds_of_parent
  obtain ⟨rank, falls, _⟩ := Document.exists_rank inside wellFormed.noOwnAncestor
  have off : (ofExtensions doc extensions options rules).headingAnchors = false := by
    simpa [ofExtensions] using noAnchors
  have fixedHere : (ofExtensions doc extensions options rules).rules.Fixed texts := fixed
  rw [renderDocument_emitted wellFormed fixed.attributeRules (rulesDescend_of_fixed fixedHere) fun depth enough =>
    renderTree_emits_fixed wellFormed fixedHere falls held enough]
  rw [htmlOf, calls_eq_settled fixed.attributeRules off, htmlBy]

end Renderer

end MarkdownHtml
