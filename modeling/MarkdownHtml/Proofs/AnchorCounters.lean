import MarkdownHtml.Proofs.HeadingAnchors
import MarkdownHtml.Proofs.TagNesting

/-! The ids of a row of headings. A text whose slug is in use gets a counter behind it, and the candidate that comes of
this may be in use as well. Each candidate is longer than the one before it, so none is tried twice, and there are no
more of them than ids in use. -/

namespace MarkdownHtml.AnchorIds

/-- What the id of a heading begins with: the slug of its text, or the fallback where the slug is empty. -/
def stem (text : String) : String := if (slugify text).isEmpty then fallback else slugify text

/-- An id with a counter behind it. -/
def numbered (id : String) (count : Nat) : String := id ++ "-" ++ toString count

/-- From a candidate on, candidates are passed over, each with its counter behind it for the next one, until a free one
is met. -/
inductive Tries : List (String × Nat) → String → List String → String → Prop
  | free {seen : List (String × Nat)} {id : String} (fresh : counter? seen id = none) : Tries seen id [] id
  | taken {seen : List (String × Nat)} {id last : String} {passed : List String} {count : Nat}
      (found : counter? seen id = some count) (later : Tries ((id, count + 1) :: seen) (numbered id count) passed last) :
      Tries seen id (id :: passed) last

/-- The ids of headings that come one after the other. -/
def generateAll (ids : AnchorIds) : List String → List String × AnchorIds
  | [] => ([], ids)
  | text :: texts =>
    let (id, ids) := ids.generate text
    let (later, ids) := ids.generateAll texts
    (id :: later, ids)

def Counting (seen : List (String × Nat)) : Prop := ∀ entry ∈ seen, 1 ≤ entry.2

variable {seen : List (String × Nat)} {id last : String} {passed : List String} {count : Nat}

private theorem length_lt_numbered (id : String) (count : Nat) : id.length < (numbered id count).length := by
  rw [numbered, String.length_append, String.length_append]
  exact Nat.lt_add_right _ (Nat.lt_add_of_pos_right (by decide))

private theorem exists_tries (seen : List (String × Nat)) (id : String) :
    ∃ passed, Tries seen id passed (unique seen id).1 := by
  fun_induction unique seen id with
  | case1 seen id count found ih =>
    obtain ⟨passed, later⟩ := ih
    exact ⟨id :: passed, .taken found later⟩
  | case2 seen id fresh => exact ⟨[], .free fresh⟩

namespace Tries

private theorem increasing (tries : Tries seen id passed last) :
    passed.Pairwise (fun first second => first.length < second.length) ∧ ∀ other ∈ passed, id.length ≤ other.length := by
  induction tries with
  | free => exact ⟨.nil, nofun⟩
  | @taken seen id last passed count _ _ ih =>
    have longer := length_lt_numbered id count
    obtain ⟨increasing, above⟩ := ih
    refine ⟨List.pairwise_cons.mpr ⟨fun other member => Nat.lt_of_lt_of_le longer (above other member), increasing⟩, ?_⟩
    exact List.forall_mem_cons.mpr ⟨Nat.le_refl _, fun other member => Nat.le_trans (Nat.le_of_lt longer) (above other member)⟩

private theorem nodup (tries : Tries seen id passed last) : passed.Nodup := by
  refine tries.increasing.1.imp fun {first second} shorter same => ?_
  rw [same] at shorter
  exact Nat.lt_irrefl _ shorter

private theorem isSome_counter? (tries : Tries seen id passed last) :
    ∀ other ∈ passed, (counter? seen other).isSome := by
  induction tries with
  | free => exact nofun
  | @taken seen id last passed count found _ ih =>
    refine List.forall_mem_cons.mpr ⟨by rw [found]; rfl, fun other member => ?_⟩
    have used := ih other member
    rw [counter?, lookup_cons_eq] at used
    split at used
    next same => rw [same, found]; rfl
    · exact used

private theorem exists_counters (tries : Tries seen id passed last) (counting : Counting seen) :
    ∃ counts : List Nat, (∀ count ∈ counts, 1 ≤ count) ∧ last = counts.foldl numbered id := by
  induction tries with
  | free => exact ⟨[], nofun, rfl⟩
  | @taken seen id last passed count found _ ih =>
    obtain ⟨counts, positive, same⟩ := ih (List.forall_mem_cons.mpr ⟨Nat.le_add_left 1 count, counting⟩)
    exact ⟨count :: counts, List.forall_mem_cons.mpr ⟨counting _ (mem_of_lookup found), positive⟩, same⟩

end Tries

theorem Counting.unique (counting : Counting seen) (id : String) : Counting (unique seen id).2 := by
  fun_induction AnchorIds.unique seen id with
  | case1 seen id count _ ih => exact ih (List.forall_mem_cons.mpr ⟨Nat.le_add_left 1 count, counting⟩)
  | case2 seen id _ => exact List.forall_mem_cons.mpr ⟨Nat.le_refl 1, counting⟩

private theorem generateAll_state (texts : List String) (ids : AnchorIds) (counting : Counting ids.seen) :
    Counting (ids.generateAll texts).2.seen ∧
      ∀ id, (ids.generateAll texts).2.Taken id ↔ ids.Taken id ∨ id ∈ (ids.generateAll texts).1 := by
  induction texts generalizing ids with
  | nil => exact ⟨counting, fun id => (or_iff_left List.not_mem_nil).symm⟩
  | cons text texts ih =>
    obtain ⟨later, taken⟩ := ih (ids.generate text).2 (counting.unique (stem text))
    refine ⟨later, fun id => (taken id).trans ?_⟩
    rw [taken_generate, or_assoc, or_left_comm, ← List.mem_cons]
    rfl

private theorem isSlugChar_of_isDigit {c : Char} (digit : c.isDigit) : isSlugChar c := by
  have digits : ∀ n ≤ 9, isSlugChar (Char.ofNat ('0'.toNat + n)) = true := by decide +kernel
  simp only [Char.isDigit, Bool.and_eq_true, decide_eq_true_eq] at digit
  obtain ⟨low, high⟩ := digit
  have bounds : '0'.toNat ≤ c.toNat ∧ c.toNat ≤ '9'.toNat := ⟨low, high⟩
  have nine : '9'.toNat = '0'.toNat + 9 := rfl
  have here := digits (c.toNat - '0'.toNat) (by omega)
  rwa [Nat.add_sub_cancel' bounds.1, Char.ofNat_toNat] at here

private theorem isSlugChar_of_mem_stem {text : String} {c : Char} (member : c ∈ (stem text).toList) : isSlugChar c := by
  unfold stem at member
  split at member
  · have letters : fallback.toList.all isSlugChar = true := by decide +kernel
    exact List.all_eq_true.mp letters c member
  · rw [slugify, String.toList_ofList] at member
    exact (List.mem_filter.mp member).2

private theorem isSlugChar_of_mem_numbered {counts : List Nat} {id : String} (letters : ∀ c ∈ id.toList, isSlugChar c) :
    ∀ c ∈ (counts.foldl numbered id).toList, isSlugChar c := by
  induction counts generalizing id with
  | nil => exact letters
  | cons count counts ih =>
    refine ih fun c member => ?_
    simp only [numbered, String.toList_append, List.mem_append] at member
    rcases member with (inside | dash) | digits
    · exact letters c inside
    · obtain rfl : c = '-' := List.mem_singleton.mp dash
      simp [isSlugChar]
    · exact isSlugChar_of_isDigit (Renderer.isDigit_of_mem_toString digits)

private theorem stem_ne_empty (text : String) : stem text ≠ "" := by
  unfold stem
  split
  · decide
  next some_ => exact fun none_ => some_ (String.isEmpty_iff.mpr none_)

private theorem numbered_ne_empty {id : String} (some_ : id ≠ "") (counts : List Nat) :
    counts.foldl numbered id ≠ "" := by
  induction counts generalizing id with
  | nil => exact some_
  | cons count counts ih =>
    refine ih fun none_ => ?_
    have longer := length_lt_numbered id count
    rw [none_] at longer
    exact Nat.not_lt_zero _ longer

/-- Whatever headings have come before, the search for the id of the next one ends: it passes over different ids, all of
them given before. The id that it ends with is new, it is not empty and has the letters of slugs only, and it is the stem
of the text with counters behind it. -/
theorem generate_afterAll (texts : List String) (text : String) :
    let given := (AnchorIds.generateAll {} texts).1
    let id := ((AnchorIds.generateAll {} texts).2.generate text).1
    (∃ passed, Tries (AnchorIds.generateAll {} texts).2.seen (stem text) passed id ∧ passed.Nodup ∧ passed ⊆ given) ∧
      id ∉ given ∧ id ≠ "" ∧ (∀ c ∈ id.toList, Text.isWord c ∨ c = '-' ∨ c = '_') ∧
      ∃ counts : List Nat, (∀ count ∈ counts, 1 ≤ count) ∧ id = counts.foldl numbered (stem text) := by
  intro given id
  obtain ⟨counting, taken⟩ := generateAll_state texts {} nofun
  have inUse : ∀ other, (AnchorIds.generateAll {} texts).2.Taken other ↔ other ∈ given := fun other =>
    (taken other).trans (or_iff_right nofun)
  obtain ⟨passed, tries⟩ := exists_tries (AnchorIds.generateAll {} texts).2.seen (stem text)
  obtain ⟨counts, positive, same⟩ := tries.exists_counters counting
  change id = counts.foldl numbered (stem text) at same
  refine ⟨⟨passed, tries, tries.nodup, fun other member => (inUse other).mp (tries.isSome_counter? other member)⟩,
    fun member => not_taken_generate _ text ((inUse id).mpr member), ?_, fun c member => ?_, counts, positive, same⟩
  · rw [same]
    exact numbered_ne_empty (stem_ne_empty text) counts
  · rw [same] at member
    have letter := isSlugChar_of_mem_numbered (fun c => isSlugChar_of_mem_stem) c member
    simpa only [isSlugChar, Bool.or_eq_true, beq_iff_eq, or_assoc] using letter

/-- A counter makes an id that a later text asks for, and a text that is made of nothing but marks gets the fallback. -/
example : (AnchorIds.generateAll {} ["A", "a", "A-1", "?", "a"]).1 = ["a", "a-1", "a-1-1", "id", "a-2"] := by
  decide +kernel

end MarkdownHtml.AnchorIds
