import MarkdownHtml.Document.ImageAttributes
import Mathlib.Data.List.Basic
import Mathlib.Data.List.TakeWhile

/-! Blocks of image attributes. A block is read if and only if its words have the form of attributes, and a text that
begins with a block is the block and what is left of the text, byte by byte. -/

namespace MarkdownHtml.Text

/-- The words of a text: white space is passed over, and a word goes on up to the next white space. -/
inductive Parted : List Char → List (List Char) → Prop
  | nil : Parted [] []
  | space {c : Char} {rest : List Char} {words : List (List Char)} (blank : isSpace c = true) (later : Parted rest words) :
      Parted (c :: rest) words
  | word {word rest : List Char} {words : List (List Char)} (some_ : word ≠ []) (solid : ∀ c ∈ word, isSpace c = false)
      (ends : ∀ c ∈ rest.head?, isSpace c = true) (later : Parted rest words) : Parted (word ++ rest) (word :: words)

private theorem words_space {c : Char} (blank : isSpace c = true) (rest : List Char) :
    words (c :: rest) = words rest := by
  rw [words, if_pos blank]

private theorem words_append {word rest : List Char} (some_ : word ≠ []) (solid : ∀ c ∈ word, isSpace c = false)
    (ends : ∀ c ∈ rest.head?, isSpace c = true) : words (word ++ rest) = word :: words rest := by
  obtain ⟨c, word, rfl⟩ := List.exists_cons_of_ne_nil some_
  obtain ⟨first, solid⟩ := List.forall_mem_cons.mp solid
  have taken : ∀ d ∈ word, (!isSpace d) = true := fun d member => by
    rw [solid d member]
    rfl
  have stop : rest.takeWhile (!isSpace ·) = [] ∧ rest.dropWhile (!isSpace ·) = rest := by
    cases rest with
    | nil => exact ⟨rfl, rfl⟩
    | cons d rest =>
      have blank : ¬ (!isSpace d) = true := by simp [ends d rfl]
      exact ⟨List.takeWhile_cons_of_neg blank, List.dropWhile_cons_of_neg blank⟩
  rw [List.cons_append, words, if_neg (by simp [first]), List.takeWhile_append_of_pos taken,
    List.dropWhile_append_of_pos taken, stop.1, stop.2, List.append_nil]

private theorem parted_words (text : List Char) : Parted text (words text) := by
  fun_induction words text with
  | case1 => exact .nil
  | case2 c rest blank ih => exact .space blank ih
  | case3 c rest solid ih =>
    have whole : c :: rest = (c :: rest.takeWhile (!isSpace ·)) ++ rest.dropWhile (!isSpace ·) := by
      rw [List.cons_append, List.takeWhile_append_dropWhile]
    rw [whole]
    refine .word (List.cons_ne_nil _ _) (List.forall_mem_cons.mpr ⟨Bool.eq_false_iff.mpr solid, fun d member => ?_⟩) ?_ ih
    · simpa using List.mem_takeWhile_imp member
    · intro d leading
      have stop := List.head?_dropWhile_not (!isSpace ·) rest
      rw [leading] at stop
      simpa using stop

private theorem words_eq_iff {text : List Char} {found : List (List Char)} :
    words text = found ↔ Parted text found := by
  refine ⟨fun same => same ▸ parted_words text, fun parted => ?_⟩
  induction parted with
  | nil => rw [words]
  | space blank _ ih => rw [words_space blank, ih]
  | word some_ solid ends _ ih => rw [words_append some_ solid ends, ih]

private theorem Parted.mem {text : List Char} {words : List (List Char)} (parted : Parted text words) {c : Char}
    (member : c ∈ text) : isSpace c = true ∨ ∃ word ∈ words, c ∈ word := by
  induction parted with
  | nil => cases member
  | space blank _ ih =>
    rcases List.mem_cons.mp member with rfl | later
    · exact .inl blank
    · exact ih later
  | @word word _ words _ _ _ _ ih =>
    rcases List.mem_append.mp member with here | later
    · exact .inr ⟨word, List.mem_cons_self .., here⟩
    · exact (ih later).imp_right fun ⟨other, among, inside⟩ => ⟨other, List.mem_cons_of_mem _ among, inside⟩

private theorem parted_intercalate {words : List (List Char)}
    (solid : ∀ word ∈ words, word ≠ [] ∧ ∀ c ∈ word, isSpace c = false) : Parted ([' '].intercalate words) words := by
  induction words with
  | nil => exact .nil
  | cons word words ih =>
    obtain ⟨⟨some_, here⟩, later⟩ := List.forall_mem_cons.mp solid
    cases words with
    | nil =>
      have single : [' '].intercalate [word] = word ++ [] := by simp
      rw [single]
      exact .word some_ here nofun .nil
    | cons next words =>
      have step : [' '].intercalate (word :: next :: words) = word ++ ' ' :: [' '].intercalate (next :: words) := by
        simp [List.intercalate]
      rw [step]
      exact .word some_ here (by rintro c ⟨⟩; decide) (.space (by decide) (ih later))

end MarkdownHtml.Text

namespace MarkdownHtml.Document
open Text

/-- How an attribute is written. -/
def written (pair : String × String) : String := pair.1 ++ "=" ++ pair.2

def ProperPair (pair : String × String) : Prop := (pair.1 = "width" ∨ pair.1 = "height") ∧ pair.2 ≠ ""

instance (pair : String × String) : Decidable (ProperPair pair) :=
  inferInstanceAs (Decidable ((pair.1 = "width" ∨ pair.1 = "height") ∧ pair.2 ≠ ""))

/-- A block in braces whose words are the attributes. -/
def Bears (block : String) (pairs : List (String × String)) : Prop :=
  ∃ body : String, block = "\x7b" ++ body ++ "\x7d" ∧ '\x7d' ∉ body.toList ∧ pairs ≠ [] ∧
    Parted body.toList (pairs.map fun pair => (written pair).toList) ∧ ∀ pair ∈ pairs, ProperPair pair

private theorem toList_written (pair : String × String) :
    (written pair).toList = pair.1.toList ++ '=' :: pair.2.toList := by
  rw [written, String.toList_append, String.toList_append, List.append_assoc]
  rfl

private theorem takeWhile_dropWhile_eq_iff {stop : Char} {text before rest : List Char} :
    text.takeWhile (· != stop) = before ∧ text.dropWhile (· != stop) = stop :: rest ↔
      text = before ++ stop :: rest ∧ stop ∉ before := by
  constructor
  · rintro ⟨rfl, behind⟩
    refine ⟨?_, fun member => ?_⟩
    · rw [← behind, List.takeWhile_append_dropWhile]
    · simpa using List.mem_takeWhile_imp member
  · rintro ⟨rfl, outside⟩
    have taken : ∀ c ∈ before, (c != stop) = true := fun c member => bne_iff_ne.mpr (ne_of_mem_of_not_mem member outside)
    rw [List.takeWhile_append_of_pos taken, List.dropWhile_append_of_pos taken]
    simp

private theorem proper_iff {key value : List Char} : (imageAttributeKeys.contains key && !value.isEmpty) = true ↔
    ProperPair (String.ofList key, String.ofList value) := by
  have spelled : ∀ {letters : List Char} {text : String}, String.ofList letters = text ↔ letters = text.toList := by
    intro letters text
    rw [← String.toList_inj, String.toList_ofList]
  simp [imageAttributeKeys, ProperPair, spelled]

private theorem ProperPair.notMem_key {pair : String × String} (proper : ProperPair pair) : '=' ∉ pair.1.toList := by
  rcases proper.1 with same | same <;> rw [same] <;> decide

private theorem readImageAttribute_iff {word : List Char} {pair : String × String} :
    readImageAttribute word = some pair ↔ word = (written pair).toList ∧ ProperPair pair := by
  obtain ⟨key, value⟩ := pair
  rw [toList_written]
  unfold readImageAttribute
  constructor
  · split
    next _ letters behind =>
      obtain ⟨spelled, _⟩ := takeWhile_dropWhile_eq_iff.mp ⟨rfl, behind⟩
      split
      next proper =>
        rintro ⟨⟩
        rw [String.toList_ofList, String.toList_ofList]
        exact ⟨spelled, proper_iff.mp proper⟩
      · exact nofun
    · exact nofun
  · rintro ⟨spelled, proper⟩
    obtain ⟨before, behind⟩ := takeWhile_dropWhile_eq_iff.mpr ⟨spelled, proper.notMem_key⟩
    have checked : (imageAttributeKeys.contains key.toList && !value.toList.isEmpty) = true := by
      rw [proper_iff, String.ofList_toList, String.ofList_toList]
      exact proper
    simp only [before, behind, checked, if_true, String.ofList_toList]

private theorem mapM_readImageAttribute {words : List (List Char)} {pairs : List (String × String)} :
    words.mapM readImageAttribute = some pairs ↔
      words = pairs.map (fun pair => (written pair).toList) ∧ ∀ pair ∈ pairs, ProperPair pair := by
  induction words generalizing pairs with
  | nil =>
    rw [List.mapM_nil]
    constructor
    · rintro ⟨⟩
      exact ⟨rfl, nofun⟩
    · rintro ⟨none_, _⟩
      rw [List.map_eq_nil_iff.mp none_.symm]
      rfl
  | cons word words ih =>
    rw [List.mapM_cons]
    constructor
    · intro found
      obtain ⟨pair, here, found⟩ := Option.bind_eq_some_iff.mp found
      obtain ⟨later, rest, same⟩ := Option.bind_eq_some_iff.mp found
      cases same
      obtain ⟨rfl, proper⟩ := readImageAttribute_iff.mp here
      obtain ⟨rfl, others⟩ := ih.mp rest
      exact ⟨rfl, List.forall_mem_cons.mpr ⟨proper, others⟩⟩
    · rintro ⟨spelled, proper⟩
      obtain ⟨pair, later, rfl, rfl, rfl⟩ := List.map_eq_cons_iff.mp spelled.symm
      obtain ⟨here, others⟩ := List.forall_mem_cons.mp proper
      rw [readImageAttribute_iff.mpr ⟨rfl, here⟩, ih.mpr ⟨rfl, others⟩]
      rfl

/-- A text is read if and only if a block stands at its beginning. -/
theorem readImageAttributes_iff {text : String} {pairs : List (String × String)} {rest : List Char} :
    readImageAttributes text.toList = some (pairs, rest) ↔
      ∃ block, text = block ++ String.ofList rest ∧ Bears block pairs := by
  constructor
  · intro found
    unfold readImageAttributes at found
    split at found
    next body spelled =>
      split at found
      next c after behind =>
        have ended : c = '\x7d' := by
          have stop := List.head?_dropWhile_not (· != '\x7d') body
          rw [behind] at stop
          simpa using stop
        obtain ⟨whole, outside⟩ := takeWhile_dropWhile_eq_iff.mp ⟨rfl, ended ▸ behind⟩
        split at found
        next first others words =>
          cases found
          obtain ⟨parted, proper⟩ := mapM_readImageAttribute.mp words
          refine ⟨"\x7b" ++ String.ofList (body.takeWhile (· != '\x7d')) ++ "\x7d", ?_, _, rfl, ?_, List.cons_ne_nil _ _, ?_,
            proper⟩
          · rw [← String.toList_inj, spelled]
            simpa [String.toList_append] using whole
          · rwa [String.toList_ofList]
          · rw [String.toList_ofList]
            exact words_eq_iff.mp parted
        · cases found
      · cases found
    · cases found
  · rintro ⟨_, rfl, body, rfl, outside, some_, parted, proper⟩
    have spelled : ("\x7b" ++ body ++ "\x7d" ++ String.ofList rest).toList = '\x7b' :: (body.toList ++ '\x7d' :: rest) := by
      simp [String.toList_append]
    obtain ⟨before, behind⟩ := takeWhile_dropWhile_eq_iff.mpr
      ⟨(rfl : body.toList ++ '\x7d' :: rest = body.toList ++ '\x7d' :: rest), outside⟩
    obtain ⟨first, others, rfl⟩ := List.exists_cons_of_ne_nil some_
    have words := mapM_readImageAttribute.mpr ⟨words_eq_iff.mpr parted, proper⟩
    rw [spelled, readImageAttributes]
    simp only [before, behind, words]

/-- The attributes of a block at the beginning of a text, and the number of bytes that the block has. -/
def imageBlock? (text : String) : Option (List (String × String) × Nat) :=
  (readImageAttributes text.toList).map fun (pairs, rest) =>
    (pairs, text.utf8ByteSize - (String.ofList rest).utf8ByteSize)

theorem imageBlock?_iff {text : String} {pairs : List (String × String)} {consumed : Nat} :
    imageBlock? text = some (pairs, consumed) ↔
      ∃ block rest, text = block ++ rest ∧ Bears block pairs ∧ consumed = block.utf8ByteSize := by
  constructor
  · intro found
    obtain ⟨⟨_, rest⟩, read, same⟩ := Option.map_eq_some_iff.mp found
    cases same
    obtain ⟨block, rfl, bears⟩ := readImageAttributes_iff.mp read
    exact ⟨block, String.ofList rest, rfl, bears, by rw [String.utf8ByteSize_append, Nat.add_sub_cancel]⟩
  · rintro ⟨block, rest, rfl, bears, rfl⟩
    have read : readImageAttributes (block ++ rest).toList = some (pairs, rest.toList) :=
      readImageAttributes_iff.mpr ⟨block, by rw [String.ofList_toList], bears⟩
    simp only [imageBlock?, read, Option.map_some, String.ofList_toList, String.utf8ByteSize_append, Nat.add_sub_cancel]

/-- Attributes in a block of their own, with a space between them. -/
def printed (pairs : List (String × String)) : String := "\x7b" ++ " ".intercalate (pairs.map written) ++ "\x7d"

theorem bears_printed {pairs : List (String × String)} (some_ : pairs ≠ []) (proper : ∀ pair ∈ pairs, ProperPair pair)
    (plain : ∀ pair ∈ pairs, ∀ c ∈ pair.2.toList, isSpace c = false ∧ c ≠ '\x7d') : Bears (printed pairs) pairs := by
  have keys : ∀ pair ∈ pairs, ∀ c ∈ pair.1.toList, isSpace c = false ∧ c ≠ '\x7d' := by
    intro pair member
    have each : ∀ key ∈ ["width", "height"], (key.toList.all fun c => !isSpace c && c != '\x7d') = true := by decide
    have known : pair.1 ∈ ["width", "height"] := by simpa using (proper pair member).1
    simpa using each pair.1 known
  have letters : ∀ pair ∈ pairs, ∀ c ∈ (written pair).toList, isSpace c = false ∧ c ≠ '\x7d' := by
    intro pair member
    rw [toList_written]
    refine List.forall_mem_append.mpr ⟨keys pair member, List.forall_mem_cons.mpr ⟨by decide, plain pair member⟩⟩
  have parted : Parted (" ".intercalate (pairs.map written)).toList (pairs.map fun pair => (written pair).toList) := by
    rw [String.toList_intercalate, List.map_map]
    refine parted_intercalate fun word member => ?_
    obtain ⟨pair, among, rfl⟩ := List.mem_map.mp member
    refine ⟨?_, fun c inside => (letters pair among c inside).1⟩
    rw [Function.comp, toList_written]
    exact List.append_ne_nil_of_right_ne_nil _ (List.cons_ne_nil _ _)
  refine ⟨_, rfl, fun member => ?_, some_, parted, proper⟩
  rcases parted.mem member with blank | ⟨word, among, inside⟩
  · exact absurd blank (by decide)
  · obtain ⟨pair, member, rfl⟩ := List.mem_map.mp among
    exact (letters pair member _ inside).2 rfl

theorem extract_append (block rest : String) :
    (block ++ rest).toByteArray.extract block.utf8ByteSize (block ++ rest).utf8ByteSize = rest.toByteArray := by
  rw [String.toByteArray_append]
  exact ByteArray.extract_append_eq_right rfl (by simp)

end MarkdownHtml.Document
