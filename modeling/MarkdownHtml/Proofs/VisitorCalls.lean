import MarkdownHtml.Proofs.EditRuns
import MarkdownHtml.Proofs.Preorder
import MarkdownHtml.Visitor

/-! Which calls the visitors of a document get. Each visitor is shown the nodes of the document in pre-order, one round
after another, and the first error ends everything. What a visitor answers depends on what it has been shown and on
nothing that the others do, so whether it fails can be said of each one alone. -/

namespace MarkdownHtml.Visitor
open Document (root)

/-- A visitor, by its place among all of them, is shown a node. -/
structure Call where
  visitor : Nat
  node : NodeId
  deriving DecidableEq, Repr

variable {σ : Type} {doc : Document}

/-- Calls are made one after another. Each one changes the state of the visitor that is called and of no other, and
only the last one may be refused. -/
inductive Makes (doc : Document) : List (Visitor σ) → List Call → Option (Nat × CallbackError) → List (Visitor σ) → Prop
  | nothing {visitors : List (Visitor σ)} : Makes doc visitors [] none visitors
  | accepted {visitors after : List (Visitor σ)} {visitor : Visitor σ} {index : Nat} {id : NodeId} {state : σ}
      {calls : List Call} {failure : Option (Nat × CallbackError)} (called : visitors[index]? = some visitor)
      (answer : visitor.visit ⟨doc, id⟩ visitor.state = (.ok (), state))
      (later : Makes doc (visitors.set index { visitor with state }) calls failure after) :
      Makes doc visitors (⟨index, id⟩ :: calls) failure after
  | refused {visitors : List (Visitor σ)} {visitor : Visitor σ} {index : Nat} {id : NodeId} {state : σ}
      {error : CallbackError} (called : visitors[index]? = some visitor)
      (answer : visitor.visit ⟨doc, id⟩ visitor.state = (.error error, state)) :
      Makes doc visitors [⟨index, id⟩] (some (index, error)) (visitors.set index { visitor with state })

/-- The calls that show nodes to one visitor. -/
def showing (index : Nat) (ids : List NodeId) : List Call := ids.map (Call.mk index)

/-- The calls that show all nodes to one visitor after another. -/
def rounds (first count : Nat) (nodes : List NodeId) : List Call :=
  (List.range' first count).flatMap fun index => showing index nodes

/-- A visitor that has been shown nodes, whatever it answered. -/
def shown (doc : Document) (visitor : Visitor σ) (ids : List NodeId) : Visitor σ :=
  { visitor with state := ids.foldl (fun state id => (visitor.visit ⟨doc, id⟩ state).2) visitor.state }

def answer (doc : Document) (visitor : Visitor σ) (id : NodeId) : Except CallbackError Unit :=
  (visitor.visit ⟨doc, id⟩ visitor.state).1

/-- A visitor that is shown nodes accepts every one of them. -/
def Accepts (doc : Document) (visitor : Visitor σ) (ids : List NodeId) : Prop :=
  ∀ seen id, seen ++ [id] <+: ids → (visitor.shown doc seen).answer doc id = .ok ()

/-- A visitor accepts nodes, and then fails at the next one. -/
structure FailsAt (doc : Document) (visitor : Visitor σ) (seen : List NodeId) (id : NodeId) (error : CallbackError) :
    Prop where
  accepts : visitor.Accepts doc seen
  refuses : (visitor.shown doc seen).answer doc id = .error error

/-! One visitor. -/

private theorem shown_cons (visitor : Visitor σ) (id : NodeId) (ids : List NodeId) :
    visitor.shown doc (id :: ids) = (visitor.shown doc [id]).shown doc ids := rfl

private theorem shown_append (visitor : Visitor σ) (front back : List NodeId) :
    visitor.shown doc (front ++ back) = (visitor.shown doc front).shown doc back := by
  rw [shown, List.foldl_append]
  rfl

private theorem visit_eq (visitor : Visitor σ) (id : NodeId) :
    visitor.visit ⟨doc, id⟩ visitor.state = (visitor.answer doc id, (visitor.shown doc [id]).state) := rfl

private theorem accepts_nil (visitor : Visitor σ) : visitor.Accepts doc [] := by
  intro seen id inside
  exact absurd (List.prefix_nil.mp inside) (by simp)

private theorem accepts_cons {visitor : Visitor σ} {id : NodeId} {ids : List NodeId} :
    visitor.Accepts doc (id :: ids) ↔
      visitor.answer doc id = .ok () ∧ (visitor.shown doc [id]).Accepts doc ids := by
  constructor
  · intro accepts
    refine ⟨accepts [] id ⟨ids, rfl⟩, fun seen other inside => ?_⟩
    exact accepts (id :: seen) other (List.prefix_cons_inj id |>.mpr inside)
  · rintro ⟨first, later⟩ seen other inside
    cases seen with
    | nil =>
      obtain ⟨rfl, _⟩ := List.cons_prefix_cons.mp inside
      exact first
    | cons start seen =>
      obtain ⟨rfl, behind⟩ := List.cons_prefix_cons.mp inside
      exact later seen other behind

private theorem exists_failsAt {visitor : Visitor σ} {ids : List NodeId} (fails : ¬visitor.Accepts doc ids) :
    ∃ seen id rest error, ids = seen ++ id :: rest ∧ visitor.FailsAt doc seen id error := by
  induction ids generalizing visitor with
  | nil => exact absurd (accepts_nil visitor) fails
  | cons id ids ih =>
    cases first : visitor.answer doc id with
    | error error => exact ⟨[], id, ids, error, rfl, accepts_nil visitor, first⟩
    | ok value =>
      obtain ⟨seen, other, rest, error, rfl, later⟩ := ih fun accepts => fails (accepts_cons.mpr ⟨first, accepts⟩)
      exact ⟨id :: seen, other, rest, error, rfl, accepts_cons.mpr ⟨first, later.accepts⟩, later.refuses⟩

private theorem runOn_cons (visitor : Visitor σ) (id : NodeId) (ids : List NodeId) :
    visitor.runOn doc (id :: ids) = match visitor.answer doc id with
      | .ok () => (visitor.shown doc [id]).runOn doc ids
      | .error error => (.error error, visitor.shown doc [id]) := rfl

private theorem runOn_append {visitor : Visitor σ} {seen : List NodeId} (accepts : visitor.Accepts doc seen)
    (rest : List NodeId) : visitor.runOn doc (seen ++ rest) = (visitor.shown doc seen).runOn doc rest := by
  induction seen generalizing visitor with
  | nil => rfl
  | cons id seen ih =>
    obtain ⟨first, later⟩ := accepts_cons.mp accepts
    rw [List.cons_append, runOn_cons, first, shown_cons]
    exact ih later

private theorem runOn_accepts {visitor : Visitor σ} {ids : List NodeId} (accepts : visitor.Accepts doc ids) :
    visitor.runOn doc ids = (.ok (), visitor.shown doc ids) := by
  rw [← List.append_nil ids, runOn_append accepts, List.append_nil]
  rfl

private theorem FailsAt.runOn {visitor : Visitor σ} {seen : List NodeId} {id : NodeId} {error : CallbackError}
    (fails : visitor.FailsAt doc seen id error) (rest : List NodeId) :
    visitor.runOn doc (seen ++ id :: rest) = (.error error, visitor.shown doc (seen ++ [id])) := by
  rw [runOn_append fails.accepts, runOn_cons, fails.refuses, shown_append]

/-! All visitors. -/

private theorem Makes.showing {visitors after : List (Visitor σ)} {visitor : Visitor σ} {index : Nat}
    {ids : List NodeId} {calls : List Call} {failure : Option (Nat × CallbackError)}
    (called : visitors[index]? = some visitor) (accepts : visitor.Accepts doc ids)
    (later : Makes doc (visitors.set index (visitor.shown doc ids)) calls failure after) :
    Makes doc visitors (showing index ids ++ calls) failure after := by
  induction ids generalizing visitors visitor with
  | nil =>
    obtain ⟨inside, rfl⟩ := List.getElem?_eq_some_iff.mp called
    rwa [show visitors[index].shown doc [] = visitors[index] from rfl, List.set_getElem_self] at later
  | cons id ids ih =>
    obtain ⟨first, rest⟩ := accepts_cons.mp accepts
    have again : (visitors.set index (visitor.shown doc [id]))[index]? = some (visitor.shown doc [id]) :=
      List.getElem?_set_self (List.getElem?_eq_some_iff.mp called).1
    refine .accepted called (first ▸ visitor.visit_eq id) (ih again rest ?_)
    rw [shown_cons] at later
    rwa [List.set_set]

/-- The visitors before the ones that are called have been shown everything. -/
theorem Makes.rounds {done before rest after : List (Visitor σ)} {nodes : List NodeId} {calls : List Call}
    {failure : Option (Nat × CallbackError)} (accepts : ∀ visitor ∈ before, visitor.Accepts doc nodes)
    (later : Makes doc (done ++ before.map (·.shown doc nodes) ++ rest) calls failure after) :
    Makes doc (done ++ before ++ rest) (rounds done.length before.length nodes ++ calls) failure after := by
  induction before generalizing done with
  | nil => exact later
  | cons visitor before ih =>
    obtain ⟨here, others⟩ := List.forall_mem_cons.mp accepts
    have called : (done ++ visitor :: before ++ rest)[done.length]? = some visitor := by simp
    have replaced : (done ++ visitor :: before ++ rest).set done.length (visitor.shown doc nodes) =
        (done ++ [visitor.shown doc nodes]) ++ before ++ rest := by simp
    have split : Visitor.rounds done.length (visitor :: before).length nodes ++ calls =
        Visitor.showing done.length nodes ++
          (Visitor.rounds (done ++ [visitor.shown doc nodes]).length before.length nodes ++ calls) := by
      simp [Visitor.rounds, List.range'_succ]
    rw [split]
    refine .showing called here ?_
    rw [replaced]
    exact ih others (by simpa using later)

private theorem runFrom_append {before : List (Visitor σ)}
    (accepts : ∀ visitor ∈ before, visitor.Accepts doc (doc.descendants root)) (index : Nat) (rest : List (Visitor σ)) :
    runFrom doc index (before ++ rest) = ((runFrom doc (index + before.length) rest).1,
      before.map (·.shown doc (doc.descendants root)) ++ (runFrom doc (index + before.length) rest).2) := by
  induction before generalizing index with
  | nil => rfl
  | cons visitor before ih =>
    obtain ⟨here, others⟩ := List.forall_mem_cons.mp accepts
    rw [List.cons_append, runFrom, runOn_accepts here]
    dsimp only
    rw [ih others, List.length_cons, Nat.add_right_comm, ← Nat.add_assoc]
    rfl

private theorem exists_first_failing {nodes : List NodeId} {visitors : List (Visitor σ)}
    (fails : ¬∀ visitor ∈ visitors, visitor.Accepts doc nodes) :
    ∃ before failing behind, visitors = before ++ failing :: behind ∧
      (∀ visitor ∈ before, visitor.Accepts doc nodes) ∧ ¬failing.Accepts doc nodes := by
  induction visitors with
  | nil => exact absurd (List.forall_mem_nil _) fails
  | cons visitor visitors ih =>
    by_cases here : visitor.Accepts doc nodes
    · obtain ⟨before, failing, behind, rfl, accept, refuses⟩ :=
        ih fun later => fails (List.forall_mem_cons.mpr ⟨here, later⟩)
      exact ⟨visitor :: before, failing, behind, rfl, List.forall_mem_cons.mpr ⟨here, accept⟩, refuses⟩
    · exact ⟨[], visitor, visitors, rfl, List.forall_mem_nil _, here⟩

/-- The error of a visitor under the index of the visitor, unless it has come from the pipeline itself. -/
def reported (index : Nat) : CallbackError → Error
  | .own message => .visitor index (.own message)
  | .nested error => error

private theorem ofCallback_visitor (index : Nat) (error : CallbackError) :
    Error.ofCallback (.visitor index) error = reported index error := by cases error <;> rfl

section
variable (wellFormed : doc.WellFormed) (held : doc.Holds root)
include wellFormed held

private theorem runAll_accepts {visitors : List (Visitor σ)}
    (accepts : ∀ visitor ∈ visitors, visitor.Accepts doc (doc.subtree root)) : ∃ after,
      Makes doc visitors (rounds 0 visitors.length (doc.subtree root)) none after ∧
        runAll doc visitors = (.ok (), after, [.ranVisitors visitors.length]) := by
  refine ⟨visitors.map (·.shown doc (doc.subtree root)), ?_, ?_⟩
  · have last : Makes doc ([] ++ visitors.map (·.shown doc (doc.subtree root)) ++ []) [] none
        (visitors.map (·.shown doc (doc.subtree root))) := by simpa using .nothing
    simpa using Makes.rounds accepts last
  · rw [← wellFormed.descendants_eq_subtree held] at accepts ⊢
    have ran := runFrom_append accepts 0 []
    rw [List.append_nil, runFrom, List.append_nil] at ran
    rw [runAll, ran]

private theorem runAll_failsAt {before : List (Visitor σ)} (behind : List (Visitor σ)) {failing : Visitor σ}
    {seen rest : List NodeId} {id : NodeId} {error : CallbackError} (accepts : ∀ visitor ∈ before, visitor.Accepts doc (doc.subtree root))
    (listed : doc.subtree root = seen ++ id :: rest) (fails : failing.FailsAt doc seen id error) : ∃ after,
      Makes doc (before ++ failing :: behind)
          (rounds 0 before.length (doc.subtree root) ++ showing before.length (seen ++ [id]))
          (some (before.length, error)) after ∧
        runAll doc (before ++ failing :: behind) = (.error (reported before.length error), after, []) := by
  let reached := before.map (·.shown doc (doc.subtree root))
  refine ⟨reached ++ failing.shown doc (seen ++ [id]) :: behind, ?_, ?_⟩
  · have called : (reached ++ failing :: behind)[before.length]? = some failing := by simp [reached]
    have again : (reached ++ failing.shown doc seen :: behind)[before.length]? = some (failing.shown doc seen) := by
      simp [reached]
    have last : Makes doc (reached ++ failing.shown doc seen :: behind) [⟨before.length, id⟩]
        (some (before.length, error))
        ((reached ++ failing.shown doc seen :: behind).set before.length (failing.shown doc (seen ++ [id]))) := by
      rw [shown_append]
      exact .refused again (fails.refuses ▸ (failing.shown doc seen).visit_eq id)
    rw [show showing before.length (seen ++ [id]) = showing before.length seen ++ [⟨before.length, id⟩] by simp [showing]]
    have front : Makes doc ([] ++ reached ++ failing :: behind)
        (showing before.length seen ++ [⟨before.length, id⟩]) (some (before.length, error))
        (reached ++ failing.shown doc (seen ++ [id]) :: behind) := by
      refine .showing called fails.accepts ?_
      simpa [reached] using last
    exact Makes.rounds accepts front
  · have walked := wellFormed.descendants_eq_subtree held
    rw [← walked] at accepts
    have ran := runFrom_append accepts 0 (failing :: behind)
    have stopped := fails.runOn rest
    rw [← listed, ← walked] at stopped
    simp only [runFrom, stopped, Nat.zero_add, ofCallback_visitor] at ran
    rw [runAll, ran, walked]

/-- Visitors are shown the nodes of the document in pre-order, one round for each, until one fails. -/
theorem runAll_calls (visitors : List (Visitor σ)) :
    let nodes := doc.subtree root
    (nodes.Nodup ∧ ∀ id, id ∈ nodes ↔ doc.Within root id) ∧
      ((runAll doc visitors).1 = .ok () ↔ ∀ visitor ∈ visitors, visitor.Accepts doc nodes) ∧
      ((∀ visitor ∈ visitors, visitor.Accepts doc nodes) ∧ (∃ after,
          Makes doc visitors (rounds 0 visitors.length nodes) none after ∧
            runAll doc visitors = (.ok (), after, [.ranVisitors visitors.length])) ∨
        ∃ before failing behind seen id rest error, visitors = before ++ failing :: behind ∧
          (∀ visitor ∈ before, visitor.Accepts doc nodes) ∧ nodes = seen ++ id :: rest ∧
          failing.FailsAt doc seen id error ∧ ∃ after,
            Makes doc visitors (rounds 0 before.length nodes ++ showing before.length (seen ++ [id]))
                (some (before.length, error)) after ∧
              runAll doc visitors = (.error (reported before.length error), after, [])) := by
  intro nodes
  refine ⟨⟨wellFormed.nodup_subtree held, fun id => wellFormed.mem_subtree held⟩, ?_⟩
  by_cases accepts : ∀ visitor ∈ visitors, visitor.Accepts doc nodes
  · obtain ⟨after, makes, ran⟩ := runAll_accepts wellFormed held accepts
    exact ⟨iff_of_true (by rw [ran]) accepts, .inl ⟨accepts, after, makes, ran⟩⟩
  · obtain ⟨before, failing, behind, rfl, accept, refuses⟩ := exists_first_failing accepts
    obtain ⟨seen, id, rest, error, listed, fails⟩ := exists_failsAt refuses
    obtain ⟨after, makes, ran⟩ := runAll_failsAt wellFormed held behind accept listed fails
    refine ⟨iff_of_false (by simp [ran]) accepts, .inr ?_⟩
    exact ⟨before, failing, behind, seen, id, rest, error, rfl, accept, listed, fails, after, makes, ran⟩

end

/-- Of three visitors that remember what they have been shown, the second one fails at the second node. -/
theorem runAll_calls_second :
    let doc := ((Document.empty.appendNew root .paragraph).2.appendNew ⟨1⟩ (.text "a")).2
    let remembering : (NodeId → Except CallbackError Unit) → Visitor (List NodeId) := fun answer =>
      ⟨fun node seen => (answer node.id, seen ++ [node.id]), []⟩
    let accepting := remembering fun _ => .ok ()
    let visitors := [accepting, remembering fun id => if id = ⟨1⟩ then .error (.own "b") else .ok (), accepting]
    doc.WellFormed ∧ doc.Holds root ∧ (runAll doc visitors).1 = .error (.visitor 1 (.own "b")) ∧
      (runAll doc visitors).2.1.map (·.state) = [[⟨0⟩, ⟨1⟩, ⟨2⟩], [⟨0⟩, ⟨1⟩], []] ∧
      ((runAll doc visitors).1 = .ok () ↔ ∀ visitor ∈ visitors, visitor.Accepts doc (doc.subtree root)) := by
  intro doc remembering accepting visitors
  have linked : doc.Linked := (Document.Linked.empty.appendNew (by decide) _).appendNew (by decide) _
  have held : doc.Holds root := by decide
  exact ⟨linked.wellFormed, held, rfl, by decide, (runAll_calls linked.wellFormed held visitors).2.1⟩

end MarkdownHtml.Visitor
