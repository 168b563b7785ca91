import MarkdownHtml.Render.Run

/-! Computations of a rendering whose bound grows. One such family approximates a computation if it comes
to every outcome of it from some bound on. The parts of a rendering that take a renderer of nodes as an
argument keep this relation, whatever rules there are. -/

namespace MarkdownHtml.RenderM

variable {α β : Type}

/-- What a computation ends with: a value or an error, and the state that is left. -/
abbrev Outcome (α : Type) := Except Error α × RenderState

def EndsIn (family : Nat → RenderM α) (state : RenderState) (outcome : Outcome α) : Prop :=
  ∃ bound, ∀ more, bound ≤ more → family more state = some outcome

theorem EndsIn.unique {family : Nat → RenderM α} {state : RenderState} {first second : Outcome α}
    (left : EndsIn family state first) (right : EndsIn family state second) : first = second := by
  obtain ⟨bound, fromBound⟩ := left
  obtain ⟨later, fromLater⟩ := right
  have same := fromBound (max bound later) (Nat.le_max_left _ _)
  rw [fromLater (max bound later) (Nat.le_max_right _ _)] at same
  exact (Option.some.inj same).symm

def Approximates (computation : RenderM α) (family : Nat → RenderM α) : Prop :=
  ∀ state outcome, computation state = some outcome → EndsIn family state outcome

theorem bind_apply (first : RenderM α) (next : α → RenderM β) (state : RenderState) :
    (first >>= next) state = match first state with
      | none => none
      | some (.ok value, after) => next value after
      | some (.error error, after) => some (.error error, after) := by
  change (first state).bind _ = _
  cases first state with
  | none => rfl
  | some outcome =>
    obtain ⟨result, after⟩ := outcome
    cases result <;> rfl

theorem ok_of_bind {first : RenderM α} {next : α → RenderM β} {state final : RenderState} {value : β}
    (ran : (first >>= next) state = some (.ok value, final)) :
    ∃ middle after, first state = some (.ok middle, after) ∧ next middle after = some (.ok value, final) := by
  rw [bind_apply] at ran
  rcases held : first state with _ | ⟨error | middle, after⟩
  · simp [held] at ran
  · simp [held] at ran
  · simp only [held] at ran
    exact ⟨middle, after, rfl, ran⟩

namespace Approximates

theorem refl (computation : RenderM α) : Approximates computation fun _ => computation :=
  fun _ _ same => ⟨0, fun _ _ => same⟩

theorem exhausted (family : Nat → RenderM α) : Approximates exhausted family := by
  intro state outcome impossible
  cases impossible

theorem of_succ {computation : RenderM α} {family : Nat → RenderM α}
    (approximates : Approximates computation fun bound => family (bound + 1)) : Approximates computation family := by
  intro state outcome same
  obtain ⟨bound, from_⟩ := approximates state outcome same
  refine ⟨bound + 1, fun more enough => ?_⟩
  obtain ⟨more, rfl⟩ : ∃ less, more = less + 1 := ⟨more - 1, by omega⟩
  exact from_ more (by omega)

theorem succ {computation : RenderM α} {family : Nat → RenderM α} (approximates : Approximates computation family) :
    Approximates computation fun bound => family (bound + 1) := by
  intro state outcome same
  obtain ⟨bound, from_⟩ := approximates state outcome same
  exact ⟨bound, fun more enough => from_ (more + 1) (by omega)⟩

theorem trans {computation : RenderM α} {first second : Nat → RenderM α} (left : Approximates computation first)
    (right : ∀ bound, Approximates (first bound) second) : Approximates computation second := by
  intro state outcome same
  obtain ⟨bound, from_⟩ := left state outcome same
  exact right bound state outcome (from_ bound (Nat.le_refl _))

theorem bind {first : RenderM α} {next : α → RenderM β} {families : Nat → RenderM α} {nexts : Nat → α → RenderM β}
    (left : Approximates first families) (right : ∀ value, Approximates (next value) fun bound => nexts bound value) :
    Approximates (first >>= next) fun bound => families bound >>= nexts bound := by
  intro state outcome same
  rw [bind_apply] at same
  cases held : first state with
  | none => simp [held] at same
  | some middle =>
    obtain ⟨bound, from_⟩ := left state middle held
    obtain ⟨result, after⟩ := middle
    simp only [held] at same
    cases result with
    | error error =>
      refine ⟨bound, fun more enough => ?_⟩
      simp only [bind_apply, from_ more enough, same]
    | ok value =>
      obtain ⟨later, fromLater⟩ := right value after outcome same
      refine ⟨max bound later, fun more enough => ?_⟩
      simp only [bind_apply, from_ more (by omega), fromLater more (by omega)]

theorem reify {computation : RenderM α} {family : Nat → RenderM α} (approximates : Approximates computation family) :
    Approximates computation.reify fun bound => (family bound).reify := by
  intro state outcome same
  cases held : computation state with
  | none => simp [RenderM.reify, held] at same
  | some inner =>
    obtain ⟨bound, from_⟩ := approximates state inner held
    refine ⟨bound, fun more enough => ?_⟩
    simpa only [RenderM.reify, held, from_ more enough] using same

theorem forM {action : NodeId → RenderM Unit} {actions : Nat → NodeId → RenderM Unit} (ids : List NodeId)
    (each : ∀ id, Approximates (action id) fun bound => actions bound id) :
    Approximates (ids.forM action) fun bound => ids.forM (actions bound) := by
  induction ids with
  | nil => exact refl _
  | cons id ids ih => exact (each id).bind fun _ => ih

end Approximates

/-- A computation that always comes to an outcome. -/
def Halts (computation : RenderM α) : Prop := ∀ state, ∃ outcome, computation state = some outcome

namespace Halts

theorem pure (value : α) : Halts (pure value) := fun _ => ⟨_, rfl⟩

theorem write (call : Html.Write) : Halts (write call) := fun _ => ⟨_, rfl⟩

theorem bind {first : RenderM α} {next : α → RenderM β} (left : Halts first) (right : ∀ value, Halts (next value)) :
    Halts (first >>= next) := by
  intro state
  obtain ⟨⟨result, after⟩, held⟩ := left state
  rw [bind_apply, held]
  cases result with
  | error error => exact ⟨_, rfl⟩
  | ok value => exact right value after

theorem reify {computation : RenderM α} (halts : Halts computation) : Halts computation.reify := by
  intro state
  obtain ⟨⟨result, after⟩, held⟩ := halts state
  rw [RenderM.reify, held]
  cases result <;> exact ⟨_, rfl⟩

theorem forM {action : NodeId → RenderM Unit} (ids : List NodeId) (each : ∀ id ∈ ids, Halts (action id)) :
    Halts (ids.forM action) := by
  induction ids with
  | nil => exact pure ()
  | cons id ids ih => exact (each id (by simp)).bind fun _ => ih fun other member => each other (by simp [member])

end Halts

/-- A computation that always comes to an outcome and writes nothing on the way. -/
def Silent (computation : RenderM α) : Prop :=
  ∀ state, ∃ outcome, computation state = some outcome ∧ outcome.2.writer = state.writer

namespace Silent

theorem pure (value : α) : Silent (pure value) := fun _ => ⟨_, rfl, rfl⟩

theorem throw (error : Error) : Silent (throw error : RenderM α) := fun _ => ⟨_, rfl, rfl⟩

theorem bind {first : RenderM α} {next : α → RenderM β} (left : Silent first) (right : ∀ value, Silent (next value)) :
    Silent (first >>= next) := by
  intro state
  obtain ⟨⟨result, after⟩, held, kept⟩ := left state
  rw [bind_apply, held]
  cases result with
  | error error => exact ⟨_, rfl, kept⟩
  | ok value =>
    obtain ⟨outcome, ran, keptNext⟩ := right value after
    exact ⟨outcome, ran, keptNext.trans kept⟩

theorem halts {computation : RenderM α} (silent : Silent computation) : Halts computation := by
  intro state
  obtain ⟨outcome, ran, _⟩ := silent state
  exact ⟨outcome, ran⟩

theorem writer_eq {computation : RenderM α} (silent : Silent computation) {state : RenderState} {outcome : Outcome α}
    (ran : computation state = some outcome) : outcome.2.writer = state.writer := by
  obtain ⟨other, ranOther, kept⟩ := silent state
  rw [ran] at ranOther
  cases ranOther
  exact kept

end Silent

/-- A computation that always comes to a value and writes nothing on the way. -/
def Settles (computation : RenderM α) : Prop :=
  ∀ state, ∃ value after, computation state = some (.ok value, after) ∧ after.writer = state.writer

namespace Settles

theorem pure (value : α) : Settles (pure value) := fun state => ⟨value, state, rfl, rfl⟩

theorem bind {first : RenderM α} {next : α → RenderM β} (left : Settles first) (right : ∀ value, Settles (next value)) :
    Settles (first >>= next) := by
  intro state
  obtain ⟨middle, after, ran, kept⟩ := left state
  obtain ⟨value, final, ranNext, keptNext⟩ := right middle after
  refine ⟨value, final, ?_, keptNext.trans kept⟩
  rw [bind_apply, ran]
  exact ranNext

theorem silent {computation : RenderM α} (settles : Settles computation) : Silent computation := by
  intro state
  obtain ⟨value, after, ran, kept⟩ := settles state
  exact ⟨_, ran, kept⟩

end Settles

end MarkdownHtml.RenderM
