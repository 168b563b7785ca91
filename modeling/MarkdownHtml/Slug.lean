import MarkdownHtml.Text.Lowercase
import MarkdownHtml.Text.WordChar

/-! Anchor ids of headings: the slug of the heading's text, made unique by appended counters. -/

namespace MarkdownHtml

def isSlugChar (c : Char) : Bool := Text.isWord c || c == '-' || c == '_'

/-- Lowercase, with dashes for spaces, and nothing else kept but word characters and dashes. -/
def slugify (text : String) : String :=
  let dashed := (Text.lowercase text).toList.map fun c => if c = ' ' then '-' else c
  String.ofList (dashed.filter isSlugChar)

/-- The ids given so far, each with the counter that the next equal slug gets. -/
structure AnchorIds where
  seen : List (String × Nat) := []
  deriving Repr

namespace AnchorIds

/-- The id of a heading whose slug is empty. -/
def fallback : String := "id"

def counter? (seen : List (String × Nat)) (id : String) : Option Nat := seen.lookup id

/-- The ids given so far that are at least as long as the one in question. -/
def longer (seen : List (String × Nat)) (id : String) : Nat :=
  seen.countP fun entry => decide (id.length ≤ entry.1.length)

theorem mem_of_lookup {seen : List (String × Nat)} {id : String} {count : Nat}
    (found : seen.lookup id = some count) : (id, count) ∈ seen := by
  induction seen with
  | nil => simp at found
  | cons entry rest ih =>
    obtain ⟨key, value⟩ := entry
    rw [List.lookup_cons] at found
    split at found
    · rename_i same
      have same : id = key := by simpa using same
      simp_all
    · exact List.mem_cons_of_mem _ (ih found)

theorem longer_lt {seen : List (String × Nat)} {id : String} {count next : Nat}
    (found : seen.lookup id = some count) :
    longer ((id, next) :: seen) (id ++ "-" ++ toString count) < longer seen id := by
  have grown : id.length < (id ++ "-" ++ toString count).length := by
    simp only [String.length_append]
    have : "-".length = 1 := by decide
    omega
  generalize (id ++ "-" ++ toString count) = candidate at grown
  have step : ∀ rest : List (String × Nat), (id, count) ∈ rest → longer rest candidate < longer rest id := by
    intro rest member
    obtain ⟨before, after, rfl⟩ := List.append_of_mem member
    have le : ∀ part : List (String × Nat), longer part candidate ≤ longer part id := by
      intro part
      refine List.countP_mono_left fun entry _ bound => ?_
      simp only [decide_eq_true_eq] at bound ⊢
      omega
    have first := le before
    have second := le after
    simp only [longer, List.countP_append, List.countP_cons] at first second ⊢
    have no : ¬ candidate.length ≤ id.length := by omega
    simp only [no, decide_false, Nat.le_refl, decide_true, if_true, Bool.false_eq_true, if_false]
    omega
  have bound := step seen (mem_of_lookup found)
  have no : ¬ candidate.length ≤ id.length := by omega
  simp only [longer, List.countP_cons, no, decide_false, Bool.false_eq_true, if_false] at bound ⊢
  omega

/-- The first free id in the chain that appends the counters of the ids already given. -/
def unique (seen : List (String × Nat)) (id : String) : String × List (String × Nat) :=
  match _found : counter? seen id with
  | some count => unique ((id, count + 1) :: seen) (id ++ "-" ++ toString count)
  | none => (id, (id, 1) :: seen)
termination_by longer seen id
decreasing_by exact longer_lt _found

def generate (ids : AnchorIds) (text : String) : String × AnchorIds :=
  let slug := slugify text
  let (id, seen) := unique ids.seen (if slug.isEmpty then fallback else slug)
  (id, ⟨seen⟩)

end AnchorIds

end MarkdownHtml
