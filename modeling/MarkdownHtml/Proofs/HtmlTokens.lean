import MarkdownHtml.Html.Writer
import Mathlib.Data.List.Chain

/-! HTML as a reader takes it apart: texts between tags, and tags from one bracket to the next. A text can be
taken apart in one way only, so it makes sense to speak of its tags and of how they are nested. -/

namespace MarkdownHtml.Html

inductive Token
  | text (run : List Char)
  | tag (inside : List Char)
  deriving DecidableEq, Repr

/-- A character that neither begins nor ends a tag nor an attribute. -/
def Plain (c : Char) : Prop := c ≠ '<' ∧ c ≠ '>' ∧ c ≠ '"'

instance (c : Char) : Decidable (Plain c) := inferInstanceAs (Decidable (_ ∧ _ ∧ _))

namespace Token

def print : Token → List Char
  | text run => run
  | tag inside => '<' :: inside ++ ['>']

def Sound : Token → Prop
  | text run => ∀ c ∈ run, Plain c
  | tag inside => ∀ c ∈ inside, c ≠ '<' ∧ c ≠ '>'

def isText : Token → Bool
  | text _ => true
  | tag _ => false

end Token

def printAll (tokens : List Token) : List Char := tokens.flatMap Token.print

/-- What stands between the brackets of each tag. -/
def insides (tokens : List Token) : List (List Char) :=
  tokens.filterMap fun
    | .text _ => none
    | .tag inside => some inside

/-- A text taken apart. No run of text is empty, and no two of them meet. -/
structure Splits (html : String) (tokens : List Token) : Prop where
  printed : printAll tokens = html.toList
  sound : ∀ token ∈ tokens, token.Sound
  filled : .text [] ∉ tokens
  apart : tokens.IsChain fun first second => ¬ (first.isText ∧ second.isText)

/-- The name of a tag, whether it opens or closes. -/
def tagName : List Char → String
  | '/' :: rest => String.ofList (rest.takeWhile (· ≠ ' '))
  | inside => String.ofList (inside.takeWhile (· ≠ ' '))

def closes (inside : List Char) : Bool := inside.head? == some '/'

/-- Tags that have no end: those that are closed where they stand, and inputs. -/
def isVoid (inside : List Char) : Bool := [' ', '/'].isSuffixOf inside || tagName inside == "input"

/-- The tags that are open behind a tag, innermost first. -/
def nestTag (stack : List String) (inside : List Char) : Option (List String) :=
  if closes inside then
    match stack with
    | top :: below => if top = tagName inside then some below else none
    | [] => none
  else if isVoid inside then some stack
  else some (tagName inside :: stack)

/-- Every tag that is opened is closed, in the reverse order. -/
def Nested (tokens : List Token) : Prop := (insides tokens).foldlM nestTag [] = some []

theorem printAll_append (first second : List Token) : printAll (first ++ second) = printAll first ++ printAll second :=
  List.flatMap_append

theorem insides_append (first second : List Token) : insides (first ++ second) = insides first ++ insides second :=
  List.filterMap_append

/-- A list is cut in one way only where a property of its elements first fails. -/
theorem cut_unique {α : Type} {property : α → Prop} {left right after behind : List α}
    (allLeft : ∀ a ∈ left, property a) (allRight : ∀ a ∈ right, property a)
    (stopLeft : ∀ a, after.head? = some a → ¬ property a) (stopRight : ∀ a, behind.head? = some a → ¬ property a)
    (same : left ++ after = right ++ behind) : left = right ∧ after = behind := by
  induction left generalizing right with
  | nil =>
    cases right with
    | nil => exact ⟨rfl, same⟩
    | cons a right =>
      have head : after.head? = some a := by
        rw [show after = a :: right ++ behind from same]
        rfl
      exact absurd (allRight a (List.mem_cons_self ..)) (stopLeft a head)
  | cons a left ih =>
    cases right with
    | nil =>
      have head : behind.head? = some a := by
        rw [show behind = a :: left ++ after from same.symm]
        rfl
      exact absurd (allLeft a (List.mem_cons_self ..)) (stopRight a head)
    | cons b right =>
      rw [List.cons_append, List.cons_append] at same
      obtain ⟨rfl, remaining⟩ := List.cons.inj same
      obtain ⟨rfl, rest⟩ := ih (fun c member => allLeft c (List.mem_cons_of_mem _ member))
        (fun c member => allRight c (List.mem_cons_of_mem _ member)) remaining
      exact ⟨rfl, rest⟩

private theorem head?_printAll {run : List Char} {rest : List Token}
    (apart : (.text run :: rest).IsChain fun first second : Token => ¬ (first.isText ∧ second.isText)) (c : Char)
    (head : (printAll rest).head? = some c) : ¬ Plain c := by
  cases rest with
  | nil => cases head
  | cons token rest =>
    cases token with
    | text later => exact absurd ⟨rfl, rfl⟩ (List.isChain_cons_cons.mp apart).1
    | tag inside =>
      obtain rfl : '<' = c := Option.some.inj head
      exact fun plain => plain.1 rfl

theorem Splits.unique {html : String} {first second : List Token} (left : Splits html first)
    (right : Splits html second) : first = second := by
  obtain ⟨printedLeft, soundLeft, filledLeft, apartLeft⟩ := left
  obtain ⟨printedRight, soundRight, filledRight, apartRight⟩ := right
  have same := printedLeft.trans printedRight.symm
  clear printedLeft printedRight
  -- A text begins with a plain character and a tag with a bracket, so both sides begin with the same token.
  induction first generalizing second with
  | nil =>
    cases second with
    | nil => rfl
    | cons token rest =>
      rcases token with (_ | ⟨c, run⟩) | inside
      · exact absurd (List.mem_cons_self ..) filledRight
      · cases same
      · cases same
  | cons token rest ih =>
    cases second with
    | nil =>
      rcases token with (_ | ⟨c, run⟩) | inside
      · exact absurd (List.mem_cons_self ..) filledLeft
      · cases same
      · cases same
    | cons other others =>
      obtain ⟨here, soundLeft⟩ := List.forall_mem_cons.mp soundLeft
      obtain ⟨there, soundRight⟩ := List.forall_mem_cons.mp soundRight
      have tail := ih soundLeft (fun member => filledLeft (List.mem_cons_of_mem _ member)) apartLeft.tail
        soundRight (fun member => filledRight (List.mem_cons_of_mem _ member)) apartRight.tail
      cases token with
      | text run =>
        cases other with
        | text run' =>
          obtain ⟨rfl, remaining⟩ := cut_unique here there (head?_printAll apartLeft) (head?_printAll apartRight) same
          rw [tail remaining]
        | tag inside =>
          cases run with
          | nil => exact absurd (List.mem_cons_self ..) filledLeft
          | cons c run =>
            obtain rfl : c = '<' := (List.cons.inj same).1
            exact absurd rfl (here '<' (List.mem_cons_self ..)).1
      | tag inside =>
        cases other with
        | text run =>
          cases run with
          | nil => exact absurd (List.mem_cons_self ..) filledRight
          | cons c run =>
            obtain rfl : '<' = c := (List.cons.inj same).1
            exact absurd rfl (there '<' (List.mem_cons_self ..)).1
        | tag inside' =>
          have bracket : ∀ (rest : List Char) (a : Char), ('>' :: rest).head? = some a → ¬ a ≠ '>' := by
            rintro rest a ⟨⟩ different
            exact different rfl
          have cut : inside ++ '>' :: printAll rest = inside' ++ '>' :: printAll others := by
            simpa [printAll, Token.print] using same
          obtain ⟨rfl, remaining⟩ := cut_unique (fun c member => (here c member).2)
            (fun c member => (there c member).2) (bracket _) (bracket _) cut
          rw [tail (List.cons.inj remaining).2]

/-- Runs of text that meet become one, and empty ones go. -/
def merge : List Token → List Token
  | [] => []
  | .tag inside :: rest => .tag inside :: merge rest
  | .text run :: rest =>
    match merge rest with
    | .text later :: others => .text (run ++ later) :: others
    | others => if run = [] then others else .text run :: others

/-- The one way in which tokens and their merged form grow together, from the end on. -/
inductive Merges : List Token → List Token → Prop
  | nil : Merges [] []
  | tag {rest merged : List Token} (inside : List Char) (merges : Merges rest merged) :
    Merges (.tag inside :: rest) (.tag inside :: merged)
  | join {rest others : List Token} {later : List Char} (run : List Char) (merges : Merges rest (.text later :: others)) :
    Merges (.text run :: rest) (.text (run ++ later) :: others)
  | skip {rest merged : List Token} (merges : Merges rest merged) : Merges (.text [] :: rest) merged
  | start {rest merged : List Token} {run : List Char} (filled : run ≠ [])
    (ended : ∀ token ∈ merged.head?, ¬ token.isText) (merges : Merges rest merged) :
    Merges (.text run :: rest) (.text run :: merged)

private theorem merges_merge (tokens : List Token) : Merges tokens (merge tokens) := by
  induction tokens with
  | nil => exact .nil
  | cons token rest ih =>
    cases token with
    | tag inside => exact .tag inside ih
    | text run =>
      unfold merge
      split
      next later others held =>
        rw [held] at ih
        exact .join run ih
      next noText =>
        split
        next blank =>
          subst blank
          exact .skip ih
        next filled =>
          refine .start filled (fun token member => ?_) ih
          cases token with
          | text later =>
            obtain ⟨others, held⟩ := List.head?_eq_some_iff.mp member
            exact absurd held (noText later others)
          | tag inside => exact Bool.false_ne_true

namespace Merges

variable {tokens merged : List Token}

private theorem printAll_eq (merges : Merges tokens merged) : printAll merged = printAll tokens := by
  induction merges with
  | nil => rfl
  | tag inside _ ih => simpa [printAll] using ih
  | join run _ ih =>
    simp only [printAll, List.flatMap_cons, Token.print] at ih ⊢
    rw [← ih, List.append_assoc]
  | skip _ ih => exact ih
  | start _ _ _ ih => simpa [printAll] using ih

private theorem insides_eq (merges : Merges tokens merged) : insides merged = insides tokens := by
  induction merges with
  | nil => rfl
  | tag inside _ ih => simpa [insides] using ih
  | join run _ ih => simpa [insides] using ih
  | skip _ ih => exact ih
  | start _ _ _ ih => simpa [insides] using ih

private theorem sound (merges : Merges tokens merged) (sound : ∀ token ∈ tokens, token.Sound) :
    ∀ token ∈ merged, token.Sound := by
  induction merges with
  | nil => exact nofun
  | tag inside _ ih =>
    obtain ⟨here, rest⟩ := List.forall_mem_cons.mp sound
    exact List.forall_mem_cons.mpr ⟨here, ih rest⟩
  | join run _ ih =>
    obtain ⟨here, rest⟩ := List.forall_mem_cons.mp sound
    obtain ⟨there, others⟩ := List.forall_mem_cons.mp (ih rest)
    refine List.forall_mem_cons.mpr ⟨fun c member => ?_, others⟩
    exact (List.mem_append.mp member).elim (here c) (there c)
  | skip _ ih => exact ih (List.forall_mem_cons.mp sound).2
  | start _ _ _ ih =>
    obtain ⟨here, rest⟩ := List.forall_mem_cons.mp sound
    exact List.forall_mem_cons.mpr ⟨here, ih rest⟩

private theorem filled (merges : Merges tokens merged) : .text [] ∉ merged := by
  induction merges with
  | nil => exact nofun
  | tag inside _ ih => simpa using ih
  | join run _ ih =>
    intro member
    rcases List.mem_cons.mp member with blank | member
    · obtain ⟨rfl, rfl⟩ := List.append_eq_nil_iff.mp (Token.text.inj blank).symm
      exact ih (List.mem_cons_self ..)
    · exact ih (List.mem_cons_of_mem _ member)
  | skip _ ih => exact ih
  | start filled _ _ ih =>
    intro member
    rcases List.mem_cons.mp member with blank | member
    · exact filled (Token.text.inj blank).symm
    · exact ih member

private theorem apart (merges : Merges tokens merged) :
    merged.IsChain fun first second => ¬ (first.isText ∧ second.isText) := by
  induction merges with
  | nil => exact .nil
  | tag inside _ ih =>
    rw [List.isChain_cons]
    exact ⟨fun _ _ both => Bool.noConfusion both.1, ih⟩
  | join run _ ih =>
    rw [List.isChain_cons] at ih ⊢
    exact ih
  | skip _ ih => exact ih
  | start _ ended _ ih =>
    rw [List.isChain_cons]
    exact ⟨fun token member both => ended token member both.2, ih⟩

end Merges

theorem insides_merge (tokens : List Token) : insides (merge tokens) = insides tokens :=
  (merges_merge tokens).insides_eq

/-- Loose tokens make up a proper split of what they print. -/
theorem splits_merge {html : String} {tokens : List Token} (printed : printAll tokens = html.toList)
    (sound : ∀ token ∈ tokens, token.Sound) : Splits html (merge tokens) where
  printed := (merges_merge tokens).printAll_eq.trans printed
  sound := (merges_merge tokens).sound sound
  filled := (merges_merge tokens).filled
  apart := (merges_merge tokens).apart

end MarkdownHtml.Html
