import MarkdownHtml.Proofs.FlankedRows

/-! Which runs of a row find a partner, told from their flanks alone. The runs that wait are a stack, and of a stack only
its height matters: a run closes if there is one that waits, and a run that waits opens if it is closed later. -/

namespace MarkdownHtml.Document

/-- What becomes of runs where some runs wait already: whether each of them opens or closes an inserted text or stays
text, and how many of those that wait are closed. -/
def pairUp (waiting : Nat) : List (Flank × Flank) → List (Option Bool) × Nat
  | [] => ([], 0)
  | (before, after) :: runs =>
    if before = .solid ∧ waiting ≠ 0 then
      let (roles, closed) := pairUp (waiting - 1) runs
      (some false :: roles, closed + 1)
    else if after = .solid then
      let (roles, closed) := pairUp (waiting + 1) runs
      (if closed = 0 then (none :: roles, 0) else (some true :: roles, closed - 1))
    else
      let (roles, closed) := pairUp waiting runs
      (none :: roles, closed)

def delimitersAt (places : List (NodeId × Nat)) (roles : List (Option Bool)) : List Delimiter :=
  (places.zip roles).filterMap fun (place, role) => role.map fun opens => ⟨place.1, place.2, opens⟩

theorem delimitersAt_cons (place : NodeId × Nat) (role : Option Bool) (places : List (NodeId × Nat))
    (roles : List (Option Bool)) : delimitersAt (place :: places) (role :: roles) =
      (role.map fun opens => ⟨place.1, place.2, opens⟩).toList ++ delimitersAt places roles := by
  cases role <;> rfl

private theorem delimitersAt_append (first second : List (NodeId × Nat)) (roles : List (Option Bool)) :
    delimitersAt (first ++ second) roles =
      delimitersAt first roles ++ delimitersAt second (roles.drop first.length) := by
  induction first generalizing roles with
  | nil => rfl
  | cons place first ih =>
    cases roles with
    | nil => simp [delimitersAt]
    | cons role roles =>
      rw [List.cons_append, delimitersAt_cons, ih, List.length_cons, List.drop_succ_cons, delimitersAt_cons,
        List.append_assoc]

private theorem sublist_delimitersAt (places : List (NodeId × Nat)) (roles : List (Option Bool)) :
    ((delimitersAt places roles).map Delimiter.place).Sublist places := by
  induction places generalizing roles with
  | nil => exact .slnil
  | cons place places ih =>
    cases roles with
    | nil => exact List.nil_sublist _
    | cons role roles =>
      rw [delimitersAt_cons]
      cases role with
      | none => exact (ih roles).cons place
      | some opens => exact (ih roles).cons_cons place

/-- A run that is read after others. Which text it stands in matters for its place only. -/
def Matching.addMark (state : Matching) (mark : Mark) : Matching :=
  match mark.before, mark.after, state.openers with
  | .solid, _, (node, offset) :: openers =>
    { openers, matched := mark.delimiter false :: ⟨node, offset, true⟩ :: state.matched }
  | _, .solid, openers => { state with openers := mark.place :: openers }
  | _, .blank, _ => state

variable {doc : Document} {container child : NodeId}

private theorem addRun_eq (doc : Document) (text : NodeId) (state : Matching) (run : PlusRun) :
    state.addRun doc text run = state.addMark (doc.markOf text run) := by
  obtain ⟨openers, matched⟩ := state
  unfold Matching.addRun Matching.addMark markOf
  dsimp only
  rcases run.flanks doc text with ⟨before, after⟩
  cases before <;> cases after <;> cases openers <;> rfl

private theorem addChild_eq (doc : Document) (state : Matching) (child : NodeId) :
    state.addChild doc child = (doc.marks child).foldl Matching.addMark state := by
  unfold Matching.addChild marks
  cases doc.kind? child with
  | none => rfl
  | some kind =>
    cases kind with
    | text literal =>
      rw [List.foldl_map]
      exact List.foldl_ext _ _ _ fun state run _ => addRun_eq doc child state run
    | _ => rfl

private theorem matchDelimiters_eq (doc : Document) (container : NodeId) :
    doc.matchDelimiters container = ((doc.marksIn container).foldl Matching.addMark {}).matched := by
  rw [matchDelimiters, marksIn, List.foldl_flatMap]
  exact congrArg Matching.matched (List.foldl_ext _ _ _ fun state child _ => addChild_eq doc state child)

def Mark.sides (mark : Mark) : Flank × Flank := (mark.before, mark.after)

def opening (place : NodeId × Nat) : Delimiter := ⟨place.1, place.2, true⟩

private theorem perm_closes (waiting read found : List Delimiter) (opener closer : Delimiter) :
    (waiting ++ read ++ closer :: opener :: found).Perm (opener :: waiting ++ (closer :: read) ++ found) := by
  rw [List.perm_iff_count]
  intro delimiter
  simp only [List.count_append, List.count_cons]
  omega

private theorem perm_foldl_addMark (marks : List Mark) (openers : List (NodeId × Nat)) (matched : List Delimiter)
    {roles : List (Option Bool)} {closed : Nat} (paired : pairUp openers.length (marks.map Mark.sides) = (roles, closed)) :
    (marks.foldl Matching.addMark ⟨openers, matched⟩).matched.Perm
      ((openers.take closed).map opening ++ delimitersAt (marks.map Mark.place) roles ++ matched) := by
  induction marks generalizing openers matched roles closed with
  | nil =>
    cases paired
    exact .refl _
  | cons mark marks ih =>
    obtain ⟨text, offset, before, after⟩ := mark
    rw [List.map_cons, Mark.sides, pairUp] at paired
    split at paired
    next closes =>
      obtain ⟨rfl, some_⟩ := closes
      obtain ⟨place, openers, rfl⟩ := List.exists_cons_of_ne_nil (List.length_pos_iff.mp (Nat.pos_of_ne_zero some_))
      cases later : pairUp openers.length (marks.map Mark.sides) with
      | mk rest shut =>
        rw [List.length_cons, Nat.add_sub_cancel, later] at paired
        cases paired
        exact (ih openers _ later).trans (perm_closes ..)
    next notCloses =>
      split at paired
      next opens =>
        obtain rfl : after = .solid := opens
        have waits : Matching.addMark ⟨openers, matched⟩ ⟨text, offset, before, .solid⟩ =
            ⟨(text, offset) :: openers, matched⟩ := by
          cases before <;> cases openers <;> first | rfl | exact absurd ⟨rfl, Nat.succ_ne_zero _⟩ notCloses
        cases later : pairUp (openers.length + 1) (marks.map Mark.sides) with
        | mk rest shut =>
          rw [later] at paired
          have read := ih ((text, offset) :: openers) matched later
          rw [List.foldl_cons, waits]
          cases shut with
          | zero =>
            cases paired
            exact read
          | succ shut =>
            cases paired
            refine read.trans ?_
            rw [List.take_succ_cons, List.map_cons, List.map_cons, delimitersAt_cons]
            exact (List.perm_middle.symm.append_right _)
      next shut =>
        have passes : Matching.addMark ⟨openers, matched⟩ ⟨text, offset, before, .blank⟩ = ⟨openers, matched⟩ := by
          cases before <;> cases openers <;> first | rfl | exact absurd ⟨rfl, Nat.succ_ne_zero _⟩ notCloses
        obtain rfl : after = .blank := by cases after <;> first | rfl | exact absurd rfl shut
        cases later : pairUp openers.length (marks.map Mark.sides) with
        | mk rest closed =>
          rw [later] at paired
          cases paired
          rw [List.foldl_cons, passes]
          exact ih openers matched later

def textFlanks (left right : Flank) : NodeKind → List (Flank × Flank)
  | .text literal => (flankedRuns 0 left right literal.toList).map Prod.snd
  | _ => []

/-- The runs of a row behind a flank, by what the nodes of the row are. -/
def flanksOf (left : Flank) : List NodeKind → List (Flank × Flank)
  | [] => []
  | kind :: rest =>
    textFlanks left ((rest.head?.map (kindFlank List.head?)).getD .blank) kind ++
      flanksOf (kindFlank List.getLast? kind) rest

private theorem flanksOf_map_kindOf (left : Flank) (ids : List NodeId) :
    flanksOf left (ids.map doc.kindOf) = rowFlanks left .blank (ids.map doc.asItem) := by
  induction ids generalizing left with
  | nil => rfl
  | cons id ids ih =>
    have next : headFlank (ids.map doc.asItem) .blank =
        ((ids.map doc.kindOf).head?.map (kindFlank List.head?)).getD .blank := by
      cases ids with
      | nil => rfl
      | cons next _ => exact leading_asItem next
    rw [List.map_cons, List.map_cons, flanksOf, rowFlanks, trailing_asItem, ih, next]
    refine congrArg (· ++ _) ?_
    unfold asItem
    cases doc.kindOf id <;> rfl

/-- What becomes of the runs in a row. -/
def rolesOf (kinds : List NodeKind) : List (Option Bool) := (pairUp 0 (flanksOf .blank kinds)).1

private theorem Linked.perm_matchDelimiters (linked : doc.Linked) (container : NodeId) :
    (doc.matchDelimiters container).Perm
    (delimitersAt ((doc.childIds container).flatMap doc.runPlaces) (rolesOf ((doc.childIds container).map doc.kindOf))) := by
  have sides : (doc.marksIn container).map Mark.sides = flanksOf .blank ((doc.childIds container).map doc.kindOf) := by
    rw [flanksOf_map_kindOf, ← linked.map_flanked_marksIn]
    rfl
  rw [matchDelimiters_eq, ← map_place_marksIn, rolesOf, ← sides]
  have perm := perm_foldl_addMark (doc.marksIn container) [] [] rfl
  rwa [List.take_nil, List.append_nil] at perm

theorem Linked.delimitersOf_child (linked : doc.Linked) {front rest : List NodeId}
    (row : doc.childIds container = front ++ child :: rest) :
    delimitersOf (doc.matchDelimiters container) child = delimitersAt (doc.runPlaces child)
      ((rolesOf ((doc.childIds container).map doc.kindOf)).drop (front.flatMap doc.runPlaces).length) := by
  have perm := linked.perm_matchDelimiters container
  have member : child ∈ doc.childIds container := row ▸ List.mem_append_right _ (List.mem_cons_self ..)
  have own := ((linked.flatMap_delimitersOf (sublist_delimitersAt _ _) perm).2 child member).1
  have distinct := linked.nodup_childIds container
  rw [row, List.nodup_middle, List.nodup_cons, List.mem_append, not_or] at distinct
  rw [own, row, List.flatMap_append, List.flatMap_cons, delimitersAt_append, delimitersAt_append, within, List.filter_append,
    List.filter_append, ← within, ← within, ← within, within_eq_nil distinct.1.1 (sublist_delimitersAt _ _),
    within_eq_nil distinct.1.2 (sublist_delimitersAt _ _), within_eq_self (sublist_delimitersAt _ _), List.nil_append,
    List.append_nil]

end MarkdownHtml.Document
