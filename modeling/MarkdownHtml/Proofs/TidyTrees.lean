import MarkdownHtml.Proofs.NodeTrees

/-! Trees in which it makes no difference how a text is cut into nodes: empty texts are dropped, and texts that meet
are joined. What is left of a row is told by its letters, where every node that is no text is one letter. -/

namespace MarkdownHtml.NodeTree

def isEmptyText : NodeTree → Bool
  | node (.text literal) [] => literal.isEmpty
  | _ => false

/-- A row without empty texts, in which texts that meet have become one. -/
def tidied (trees : List NodeTree) : List NodeTree := joined (trees.filter fun tree => !tree.isEmptyText)

mutual

/-- A tree whose rows are tidied, on every level. -/
def tidy : NodeTree → NodeTree
  | node kind children => node kind (tidied (tidyAll children))

def tidyAll : List NodeTree → List NodeTree
  | [] => []
  | tree :: rest => tree.tidy :: tidyAll rest

end

theorem tidyAll_eq_map (trees : List NodeTree) : tidyAll trees = trees.map tidy := by
  induction trees with
  | nil => rfl
  | cons tree rest ih => rw [tidyAll, ih, List.map_cons]

/-- What a row is made of: the characters of its texts, and other nodes. -/
inductive Letter
  | char (c : Char)
  | tree (tree : NodeTree)

def chars (literal : String) : List Letter := literal.toList.map .char

def letters : NodeTree → List Letter
  | node (.text literal) _ => chars literal
  | tree => [.tree tree]

def pushLetter (before : List NodeTree) : Letter → List NodeTree
  | .char c => push before (text (String.singleton c))
  | .tree tree => push before tree

def grouped (letters : List Letter) : List NodeTree := letters.foldl pushLetter []

def Plain (trees : List NodeTree) : Prop := ∀ literal children, node (.text literal) children ∈ trees → children = []

theorem Plain.map_tidy {trees : List NodeTree} (plain : Plain trees) : Plain (trees.map tidy) := by
  intro literal children member
  obtain ⟨⟨kind, below⟩, inside, same⟩ := List.mem_map.mp member
  obtain ⟨rfl, rfl⟩ := NodeTree.node.inj same
  obtain rfl := plain literal below inside
  rfl

private theorem push_text_append (before : List NodeTree) (first second : String) :
    push before (text (first ++ second)) = push (push before (text first)) (text second) := by
  by_cases isText : ∃ front literal above, before = front ++ [node (.text literal) above]
  · obtain ⟨front, literal, above, rfl⟩ := isText
    rw [push_text, push_text, push_text, String.append_assoc]
  · have noText : ∀ kind children, before.getLast? = some (node kind children) → kind.type ≠ .text := by
      intro kind children found isLast
      obtain ⟨literal, rfl⟩ := NodeKind.type_eq_text_iff.mp isLast
      obtain ⟨front, same⟩ := List.getLast?_eq_some_iff.mp found
      exact isText ⟨front, literal, children, same⟩
    rw [push_of_getLast? noText, push_of_getLast? noText]
    exact (push_text before [] first second).symm

private theorem foldl_chars (before : List NodeTree) (first : Char) (rest : List Char) :
    ((first :: rest).map Letter.char).foldl pushLetter before = push before (text (String.ofList (first :: rest))) := by
  induction rest generalizing before first with
  | nil => rfl
  | cons second rest ih =>
    have split : String.ofList (first :: second :: rest) = String.singleton first ++ String.ofList (second :: rest) := by
      apply String.toList_inj.mp
      simp
    rw [split, push_text_append, ← ih]
    rfl

private theorem foldl_letters {tree : NodeTree} (plain : Plain [tree]) (before : List NodeTree) :
    tree.letters.foldl pushLetter before = if tree.isEmptyText then before else push before tree := by
  obtain ⟨kind, children⟩ := tree
  by_cases isText : ∃ literal, kind = .text literal
  · obtain ⟨literal, rfl⟩ := isText
    obtain rfl := plain literal children (List.mem_singleton_self _)
    rw [letters, chars]
    rcases spelled : literal.toList with _ | ⟨first, rest⟩
    · obtain rfl : literal = "" := String.toList_eq_nil_iff.mp spelled
      rfl
    · obtain rfl : literal = String.ofList (first :: rest) := String.toList_inj.mp (spelled.trans (by simp))
      rw [foldl_chars, if_neg]
      · rfl
      · simp [isEmptyText]
  · cases kind with
    | text literal => exact absurd ⟨literal, rfl⟩ isText
    | _ => rfl

/-- A row is what its letters say. -/
theorem tidied_eq_grouped {trees : List NodeTree} (plain : Plain trees) :
    tidied trees = grouped (trees.flatMap letters) := by
  suffices each : ∀ before, (trees.filter fun tree => !tree.isEmptyText).foldl push before =
      (trees.flatMap letters).foldl pushLetter before from each []
  induction trees with
  | nil => exact fun _ => rfl
  | cons tree rest ih =>
    intro before
    have first : Plain [tree] := fun literal children member =>
      plain literal children (List.mem_cons.mpr (.inl (List.mem_singleton.mp member)))
    have later : Plain rest := fun literal children member => plain literal children (List.mem_cons_of_mem _ member)
    rw [List.flatMap_cons, List.foldl_append, foldl_letters first, ← ih later, List.filter_cons]
    cases tree.isEmptyText <;> rfl

end MarkdownHtml.NodeTree
