import MarkdownHtml.Document.Inserted
import Mathlib.Data.List.Perm.Subperm

/-! How the runs of plus signs of a container fall into spans: single ones that stay text, and pairs with the spans
between them. Nothing that is left over inside of a pair touches anything solid, and of two runs that are left over the
first one could not have opened a pair that the second one closes. The pairs are a word in which everything that is
opened is closed again. -/

namespace MarkdownHtml.Document

variable {doc : Document}

/-- How many inserted nodes are open after a delimiter. Nothing can be closed where nothing is open. -/
def Delimiter.shift : Nat → Delimiter → Option Nat
  | depth, ⟨_, _, true⟩ => some (depth + 1)
  | 0, ⟨_, _, false⟩ => none
  | depth + 1, ⟨_, _, false⟩ => some depth

/-- A word of delimiters that closes all that it opens, and nothing else. -/
def Balanced (word : List Delimiter) : Prop := ∀ depth, word.foldlM Delimiter.shift depth = some depth

theorem Balanced.nil : Balanced [] := fun _ => rfl

theorem Balanced.append {first second : List Delimiter} (left : Balanced first) (right : Balanced second) :
    Balanced (first ++ second) := by
  intro depth
  rw [List.foldlM_append, left]
  exact right depth

private theorem Balanced.enclosed {word : List Delimiter} (balanced : Balanced word) (first last : NodeId)
    (left right : Nat) : Balanced (⟨first, left, true⟩ :: (word ++ [⟨last, right, false⟩])) := by
  intro depth
  rw [List.foldlM_cons]
  change List.foldlM Delimiter.shift (depth + 1) (word ++ [⟨last, right, false⟩]) = _
  rw [List.foldlM_append, balanced]
  rfl

def Delimiter.place (delimiter : Delimiter) : NodeId × Nat := (delimiter.text, delimiter.offset)

/-- The places of the runs in a child. -/
def runPlaces (doc : Document) (child : NodeId) : List (NodeId × Nat) :=
  match doc.kind? child with
  | some (.text literal) => (plusRuns 0 none literal.toList).map fun run => (child, run.offset)
  | _ => []

/-- A run of plus signs in a row, with what stands at its two sides. -/
structure Mark where
  text : NodeId
  offset : Nat
  before : Flank
  after : Flank

def Mark.place (mark : Mark) : NodeId × Nat := (mark.text, mark.offset)

def Mark.delimiter (mark : Mark) (opens : Bool) : Delimiter := ⟨mark.text, mark.offset, opens⟩

def markOf (doc : Document) (text : NodeId) (run : PlusRun) : Mark :=
  ⟨text, run.offset, (run.flanks doc text).1, (run.flanks doc text).2⟩

def marks (doc : Document) (child : NodeId) : List Mark :=
  match doc.kind? child with
  | some (.text literal) => (plusRuns 0 none literal.toList).map (doc.markOf child)
  | _ => []

/-- The runs of a container, in the order of the document. -/
def marksIn (doc : Document) (container : NodeId) : List Mark := (doc.childIds container).flatMap doc.marks

theorem map_place_marks (child : NodeId) : (doc.marks child).map Mark.place = doc.runPlaces child := by
  unfold marks runPlaces
  cases doc.kind? child with
  | none => rfl
  | some kind =>
    cases kind with
    | text literal => exact List.map_map
    | _ => rfl

theorem map_place_marksIn (container : NodeId) :
    (doc.marksIn container).map Mark.place = (doc.childIds container).flatMap doc.runPlaces := by
  rw [marksIn, List.map_flatMap]
  exact List.flatMap_congr fun child _ => map_place_marks child

/-- Runs in a row: single ones, and pairs with what is between them. -/
inductive Spans
  | nil
  | single (mark : Mark) (rest : Spans)
  | pair (first : Mark) (inside : Spans) (last : Mark) (rest : Spans)

namespace Spans

/-- All runs. -/
def marks : Spans → List Mark
  | nil => []
  | single mark rest => mark :: rest.marks
  | pair first inside last rest => first :: (inside.marks ++ last :: rest.marks)

/-- The runs that are in pairs, as delimiters. -/
def word : Spans → List Delimiter
  | nil => []
  | single _ rest => rest.word
  | pair first inside last rest => first.delimiter true :: (inside.word ++ last.delimiter false :: rest.word)

/-- The runs that are in no pair. -/
def unmatched : Spans → List Mark
  | nil => []
  | single mark rest => mark :: rest.unmatched
  | pair _ inside _ rest => inside.unmatched ++ rest.unmatched

/-- Nothing solid stands beside a run that is in no pair. -/
def Quiet (spans : Spans) : Prop := ∀ mark ∈ spans.unmatched, mark.before = .blank ∧ mark.after = .blank

/-- Each pair is opened before something solid and closed behind something solid, and is quiet inside. -/
def Sound : Spans → Prop
  | nil => True
  | single _ rest => rest.Sound
  | pair first inside last rest =>
    first.after = .solid ∧ last.before = .solid ∧ inside.Quiet ∧ inside.Sound ∧ rest.Sound

def append : Spans → Spans → Spans
  | nil, second => second
  | single mark rest, second => single mark (rest.append second)
  | pair first inside last rest, second => pair first inside last (rest.append second)

instance : Append Spans := ⟨append⟩

@[simp] theorem nil_append (second : Spans) : nil ++ second = second := rfl

@[simp] theorem single_append (mark : Mark) (rest second : Spans) :
    single mark rest ++ second = single mark (rest ++ second) := rfl

@[simp] theorem pair_append (first last : Mark) (inside rest second : Spans) :
    pair first inside last rest ++ second = pair first inside last (rest ++ second) := rfl

private theorem append_assoc (first second third : Spans) : first ++ second ++ third = first ++ (second ++ third) := by
  induction first with
  | nil => rfl
  | single mark rest ih => simp only [single_append, ih]
  | pair opening inside closing rest _ ih => simp only [pair_append, ih]

private theorem marks_append (first second : Spans) : (first ++ second).marks = first.marks ++ second.marks := by
  induction first with
  | nil => rfl
  | single mark rest ih => simp only [single_append, marks, ih, List.cons_append]
  | pair opening inside closing rest _ ih => simp only [pair_append, marks, ih, List.cons_append, List.append_assoc]

private theorem word_append (first second : Spans) : (first ++ second).word = first.word ++ second.word := by
  induction first with
  | nil => rfl
  | single mark rest ih => exact ih
  | pair opening inside closing rest _ ih => simp only [pair_append, word, ih, List.cons_append, List.append_assoc]

private theorem unmatched_append (first second : Spans) :
    (first ++ second).unmatched = first.unmatched ++ second.unmatched := by
  induction first with
  | nil => rfl
  | single mark rest ih => simp only [single_append, unmatched, ih, List.cons_append]
  | pair opening inside closing rest _ ih => simp only [pair_append, unmatched, ih, List.append_assoc]

theorem Quiet.append {first second : Spans} (left : first.Quiet) (right : second.Quiet) : (first ++ second).Quiet := by
  intro mark member
  rw [unmatched_append] at member
  exact (List.mem_append.mp member).elim (left mark) (right mark)

theorem Sound.append {first second : Spans} (left : first.Sound) (right : second.Sound) : (first ++ second).Sound := by
  induction first with
  | nil => exact right
  | single mark rest ih => exact ih left
  | pair opening inside closing rest _ ih =>
    obtain ⟨opens, closes, quiet, within, later⟩ := left
    exact ⟨opens, closes, quiet, within, ih later⟩

theorem balanced (spans : Spans) : Balanced spans.word := by
  induction spans with
  | nil => exact .nil
  | single mark rest ih => exact ih
  | pair first inside last rest within later =>
    have enclosed := (within.enclosed first.text last.text first.offset last.offset).append later
    rwa [List.cons_append, List.append_assoc] at enclosed

private theorem word_sublist (spans : Spans) :
    (spans.word.map Delimiter.place).Sublist (spans.marks.map Mark.place) := by
  induction spans with
  | nil => exact .slnil
  | single mark rest ih => exact ih.cons _
  | pair first inside last rest within later =>
    simp only [word, marks, List.map_cons, List.map_append]
    exact (within.append (later.cons_cons _)).cons_cons _

private theorem map_place_pair (first last : Mark) (inside rest : Spans) :
    (pair first inside last rest).word.map Delimiter.place =
      first.place :: (inside.word.map Delimiter.place ++ last.place :: rest.word.map Delimiter.place) := by
  rw [word, List.map_cons, List.map_append, List.map_cons]
  rfl

theorem unmatched_eq {spans : Spans} (distinct : (spans.marks.map Mark.place).Nodup) :
    spans.unmatched = spans.marks.filter fun mark => mark.place ∉ spans.word.map Delimiter.place := by
  induction spans with
  | nil => rfl
  | single mark rest ih =>
    obtain ⟨outside, distinct⟩ := List.nodup_cons.mp distinct
    have stays : mark.place ∉ rest.word.map Delimiter.place := fun member => outside (rest.word_sublist.subset member)
    rw [unmatched, marks, ih distinct, List.filter_cons_of_pos (by simpa using! stays)]
    rfl
  | pair first inside last rest within later =>
    simp only [marks, List.map_cons, List.map_append, List.nodup_cons, List.nodup_append, List.mem_append, List.mem_cons,
      not_or] at distinct
    obtain ⟨⟨firstInside, _, firstRest⟩, insideDistinct, ⟨lastRest, restDistinct⟩, apart⟩ := distinct
    have inner : ∀ mark ∈ inside.marks, mark.place ∉ inside.word.map Delimiter.place ↔
        mark.place ∉ (pair first inside last rest).word.map Delimiter.place := by
      intro mark member
      have here := List.mem_map_of_mem (f := Mark.place) member
      have ahead : mark.place ≠ first.place := fun same => firstInside (same ▸ here)
      have behind : mark.place ≠ last.place := apart _ here _ (.inl rfl)
      have outside : mark.place ∉ rest.word.map Delimiter.place := fun other =>
        apart _ here _ (.inr (rest.word_sublist.subset other)) rfl
      simp only [map_place_pair, List.mem_cons, List.mem_append, ahead, behind, outside, or_false, false_or]
    have outer : ∀ mark ∈ rest.marks, mark.place ∉ rest.word.map Delimiter.place ↔
        mark.place ∉ (pair first inside last rest).word.map Delimiter.place := by
      intro mark member
      have here := List.mem_map_of_mem (f := Mark.place) member
      have ahead : mark.place ≠ first.place := fun same => firstRest (same ▸ here)
      have behind : mark.place ≠ last.place := fun same => lastRest (same ▸ here)
      have outside : mark.place ∉ inside.word.map Delimiter.place := fun other =>
        apart _ (inside.word_sublist.subset other) _ (.inr here) rfl
      simp only [map_place_pair, List.mem_cons, List.mem_append, ahead, behind, outside, false_or]
    have opening : first.place ∈ (pair first inside last rest).word.map Delimiter.place := by
      rw [map_place_pair]
      exact List.mem_cons_self ..
    have closing : last.place ∈ (pair first inside last rest).word.map Delimiter.place := by
      rw [map_place_pair]
      exact List.mem_cons_of_mem _ (List.mem_append_right _ (List.mem_cons_self ..))
    rw [unmatched, marks, List.filter_cons_of_neg (by simpa using opening), List.filter_append,
      List.filter_cons_of_neg (by simpa using closing), within insideDistinct, later restDistinct]
    exact congrArg₂ _ (List.filter_congr fun mark member => decide_eq_decide.mpr (inner mark member))
      (List.filter_congr fun mark member => decide_eq_decide.mpr (outer mark member))

end Spans

/-- A run closes the innermost open one if it can, else it opens if it can, else nothing happens. -/
theorem Matching.addRun_cases (doc : Document) (state : Matching) (text : NodeId) (run : PlusRun) :
    (∃ place openers, state.openers = place :: openers ∧ (doc.markOf text run).before = .solid ∧
      state.addRun doc text run =
        ⟨openers, (doc.markOf text run).delimiter false :: ⟨place.1, place.2, true⟩ :: state.matched⟩) ∨
    (state.openers = [] ∨ (doc.markOf text run).before = .blank) ∧
      ((doc.markOf text run).after = .solid ∧
        state.addRun doc text run = { state with openers := (doc.markOf text run).place :: state.openers } ∨
      (doc.markOf text run).after = .blank ∧ state.addRun doc text run = state) := by
  obtain ⟨openers, matched⟩ := state
  simp only [Matching.addRun, markOf]
  rcases run.flanks doc text with ⟨before, after⟩
  cases before <;> cases after <;> cases openers <;> simp [Mark.delimiter, Mark.place]

/-- The spans of the runs read so far, and the openers that wait, last one first. Behind each of them all is quiet. -/
inductive Reads : List (NodeId × Nat) → Spans → Prop
  | start {spans : Spans} (sound : spans.Sound) (shut : ∀ mark ∈ spans.unmatched, mark.after = .blank) : Reads [] spans
  | wait {openers : List (NodeId × Nat)} {spans behind : Spans} (mark : Mark) (reads : Reads openers spans)
      (opens : mark.after = .solid) (apart : openers = [] ∨ mark.before = .blank) (sound : behind.Sound)
      (quiet : behind.Quiet) : Reads (mark.place :: openers) (spans ++ .single mark behind)

namespace Reads

variable {openers : List (NodeId × Nat)} {spans : Spans}

theorem append (reads : Reads openers spans) {more : Spans} (sound : more.Sound) (quiet : more.Quiet) :
    Reads openers (spans ++ more) := by
  cases reads with
  | start before shut =>
    refine .start (before.append sound) fun mark member => ?_
    rw [Spans.unmatched_append] at member
    exact (List.mem_append.mp member).elim (shut mark) fun inside => (quiet mark inside).2
  | wait mark reads opens apart before still =>
    rw [Spans.append_assoc]
    exact .wait mark reads opens apart (before.append sound) (still.append quiet)

theorem sound (reads : Reads openers spans) : spans.Sound := by
  induction reads with
  | start sound _ => exact sound
  | wait mark _ _ _ sound _ ih => exact ih.append sound

/-- Of two runs that are left over, the first one could not have opened a pair that the second one closes. -/
theorem apart (reads : Reads openers spans) :
    spans.unmatched.Pairwise fun first second => ¬ (first.after = .solid ∧ second.before = .solid) := by
  induction reads with
  | start _ shut =>
    refine List.pairwise_of_forall_mem_list fun first member second _ both => ?_
    cases (shut first member).symm.trans both.1
  | @wait openers spans behind mark reads _ apart _ quiet ih =>
    rw [Spans.unmatched_append, List.pairwise_append, Spans.unmatched, List.pairwise_cons]
    refine ⟨ih, ⟨fun second member both => ?_, ?_⟩, fun first left second right both => ?_⟩
    · cases (quiet second member).1.symm.trans both.2
    · refine List.pairwise_of_forall_mem_list fun first _ second member both => ?_
      cases (quiet second member).1.symm.trans both.2
    · rcases List.mem_cons.mp right with rfl | member
      · rcases apart with rfl | blank
        · cases reads with
          | start _ shut => cases (shut first left).symm.trans both.1
        · cases blank.symm.trans both.2
      · cases (quiet second member).1.symm.trans both.2

end Reads

def Matching.Read (state : Matching) (marks : List Mark) : Prop :=
  ∃ spans, Reads state.openers spans ∧ state.matched.Perm spans.word ∧ spans.marks = marks

namespace Matching.Read

variable {state : Matching} {marks : List Mark}

private theorem addRun (read : Read state marks) (text : NodeId) (run : PlusRun) :
    Read (state.addRun doc text run) (marks ++ [doc.markOf text run]) := by
  obtain ⟨spans, reads, perm, rfl⟩ := read
  rcases state.addRun_cases doc text run with
    ⟨place, openers, waiting, closes, step⟩ | ⟨free, ⟨opens, step⟩ | ⟨blank, step⟩⟩
  · rw [waiting] at reads
    cases reads with
    | @wait _ before behind mark reads opens apart sound quiet =>
      rw [step]
      refine ⟨before ++ .pair mark behind (doc.markOf text run) .nil, ?_, ?_, ?_⟩
      · exact reads.append ⟨opens, closes, quiet, sound, trivial⟩ fun other member =>
          quiet other ((List.append_nil behind.unmatched).subst (motive := fun marks => other ∈ marks) member)
      · have moved : (before.word ++ (mark.delimiter true :: behind.word ++ [(doc.markOf text run).delimiter false])).Perm
            ((doc.markOf text run).delimiter false :: mark.delimiter true :: (before.word ++ behind.word)) := by
          rw [← List.append_assoc]
          exact (List.perm_append_singleton _ _).trans (List.perm_middle.cons _)
        rw [Spans.word_append] at perm ⊢
        exact ((perm.cons _).cons _).trans moved.symm
      · simp only [Spans.marks_append, Spans.marks, List.append_assoc, List.cons_append]
  · rw [step]
    refine ⟨spans ++ .single (doc.markOf text run) .nil, ?_, ?_, ?_⟩
    · exact .wait _ reads opens free trivial nofun
    · rw [Spans.word_append]
      exact perm.trans (.of_eq (List.append_nil _).symm)
    · exact Spans.marks_append _ _
  · rw [step]
    refine ⟨spans ++ .single (doc.markOf text run) .nil, ?_, ?_, Spans.marks_append _ _⟩
    · rcases free with none_ | clear
      · rw [none_] at reads ⊢
        cases reads with
        | start sound shut =>
          refine .start (sound.append trivial) fun mark member => ?_
          rw [Spans.unmatched_append] at member
          rcases List.mem_append.mp member with inside | here
          · exact shut mark inside
          · cases List.mem_singleton.mp here
            exact blank
      · refine reads.append trivial fun mark member => ?_
        cases List.mem_singleton.mp member
        exact ⟨clear, blank⟩
    · rw [Spans.word_append]
      exact perm.trans (.of_eq (List.append_nil _).symm)

private theorem addRuns (text : NodeId) (runs : List PlusRun) : ∀ {state : Matching}
    {marks : List Mark}, Read state marks →
    Read (runs.foldl (Matching.addRun doc text) state) (marks ++ runs.map (doc.markOf text)) := by
  induction runs with
  | nil =>
    intro state marks read
    rw [List.map_nil, List.append_nil]
    exact read
  | cons run runs ih =>
    intro state marks read
    rw [List.map_cons, List.append_cons]
    exact ih (read.addRun text run)

private theorem addChild (read : Read state marks) (child : NodeId) :
    Read (state.addChild doc child) (marks ++ doc.marks child) := by
  unfold Matching.addChild Document.marks
  cases doc.kind? child with
  | none =>
    rw [List.append_nil]
    exact read
  | some kind =>
    cases kind with
    | text literal => exact read.addRuns child _
    | _ =>
      rw [List.append_nil]
      exact read

end Matching.Read

theorem read_marksIn (doc : Document) (container : NodeId) :
    Matching.Read ((doc.childIds container).foldl (Matching.addChild doc) {}) (doc.marksIn container) := by
  suffices read : ∀ children : List NodeId, ∀ {state : Matching} {marks : List Mark}, state.Read marks →
      Matching.Read (children.foldl (Matching.addChild doc) state) (marks ++ children.flatMap doc.marks) by
    have start : Matching.Read {} [] := ⟨.nil, .start trivial fun _ => nofun, .nil, rfl⟩
    exact read (doc.childIds container) start
  intro children
  induction children with
  | nil =>
    intro state marks read
    rw [List.flatMap_nil, List.append_nil]
    exact read
  | cons child children ih =>
    intro state marks read
    rw [List.flatMap_cons, ← List.append_assoc]
    exact ih (read.addChild child)

theorem Spans.sublist_runPlaces {spans : Spans} {container : NodeId} (marks : spans.marks = doc.marksIn container) :
    (spans.word.map Delimiter.place).Sublist ((doc.childIds container).flatMap doc.runPlaces) := by
  have inside := spans.word_sublist
  rwa [marks, map_place_marksIn] at inside

/-- All runs of a container that are matched are a balanced word, in the order of the document. -/
theorem exists_word (doc : Document) (container : NodeId) : ∃ word, Balanced word ∧
    (word.map Delimiter.place).Sublist ((doc.childIds container).flatMap doc.runPlaces) ∧
      (doc.matchDelimiters container).Perm word := by
  obtain ⟨spans, _, perm, marks⟩ := read_marksIn doc container
  exact ⟨spans.word, spans.balanced, Spans.sublist_runPlaces marks, perm⟩

end MarkdownHtml.Document
