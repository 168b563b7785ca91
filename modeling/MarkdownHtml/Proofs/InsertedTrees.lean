import MarkdownHtml.Proofs.RebuiltTrees
import MarkdownHtml.Proofs.RunPartners
import Mathlib.Data.List.TakeWhile

/-! Inserted text in trees. A row falls into nodes, pieces of texts and marks, and is put together again from its end. A
box in front of a row has no run and shows nothing solid, so it makes no difference to the runs behind it. -/

namespace MarkdownHtml.Document

variable {letters front rest : List Char}

/-- A box and the white space behind it: no run begins there, and what is left can be cut anywhere. -/
structure BoxFront (checked : Bool) (front rest : List Char) : Prop where
  plain : '+' ∉ front
  blank : ∃ c, front.getLast? = some c ∧ Text.isSpace c = true
  read : ∀ kept, kept <+: rest → readTaskBox (front ++ kept) = some (checked, kept)

private theorem readTaskBox_eq_some {checked : Bool} : readTaskBox letters = some (checked, rest) ↔
    ∃ box space behind, letters = '[' :: box :: ']' :: space :: behind ∧ [' ', 'x', 'X'].contains box = true ∧
      Text.isSpace space = true ∧ (box != ' ') = checked ∧ Text.trimStart behind = rest := by
  constructor
  · intro read
    unfold readTaskBox at read
    split at read
    next box space behind =>
      split at read
      next both =>
        obtain ⟨known, blank⟩ := Bool.and_eq_true_iff.mp both
        cases read
        exact ⟨box, space, behind, rfl, known, blank, rfl, rfl⟩
      next => cases read
    next => cases read
  · rintro ⟨box, space, behind, rfl, known, blank, rfl, rfl⟩
    rw [readTaskBox, known, blank]
    rfl

private theorem exists_boxFront {checked : Bool} (read : readTaskBox letters = some (checked, rest)) :
    ∃ front, letters = front ++ rest ∧ BoxFront checked front rest := by
  obtain ⟨box, space, behind, rfl, known, blank, rfl, rfl⟩ := readTaskBox_eq_some.mp read
  have spaces : ∀ c ∈ behind.takeWhile Text.isSpace, Text.isSpace c = true := fun c member => List.mem_takeWhile_imp member
  refine ⟨'[' :: box :: ']' :: space :: behind.takeWhile Text.isSpace, ?_, ?_, ?_, fun kept part => ?_⟩
  · simp only [List.cons_append, Text.trimStart, List.takeWhile_append_dropWhile]
  · have noBox : '+' ≠ box := by
      rintro rfl
      cases known
    have solid : ∀ {c}, Text.isSpace c = true → '+' ≠ c := by
      rintro c space rfl
      cases space
    have inside : '+' ∉ behind.takeWhile Text.isSpace := fun member => solid (spaces _ member) rfl
    simp [noBox, solid blank, inside]
  · rw [List.getLast?_cons_cons, List.getLast?_cons_cons, List.getLast?_cons_cons]
    refine ⟨_, List.getLast?_eq_some_getLast (List.cons_ne_nil _ _), ?_⟩
    have all : ∀ c ∈ space :: behind.takeWhile Text.isSpace, Text.isSpace c = true := List.forall_mem_cons.mpr ⟨blank, spaces⟩
    exact all _ (List.getLast_mem _)
  · refine readTaskBox_eq_some.mpr ⟨box, space, behind.takeWhile Text.isSpace ++ kept, rfl, known, blank, rfl, ?_⟩
    rw [Text.trimStart, List.dropWhile_append_of_pos spaces]
    cases kept with
    | nil => rfl
    | cons c kept =>
      obtain ⟨more, whole⟩ := part
      have solid := List.head?_dropWhile_not Text.isSpace behind
      rw [← Text.trimStart, ← whole] at solid
      exact List.dropWhile_cons_of_neg (by simpa using solid)

private theorem isSome_readTaskBox_append (read : (readTaskBox letters).isSome) (more : List Char) :
    (readTaskBox (letters ++ more)).isSome := by
  obtain ⟨⟨checked, rest⟩, read⟩ := Option.isSome_iff_exists.mp read
  obtain ⟨box, space, behind, rfl, known, blank, rfl, rfl⟩ := readTaskBox_eq_some.mp read
  exact Option.isSome_of_mem (readTaskBox_eq_some.mpr ⟨box, space, behind ++ more, rfl, known, blank, rfl, rfl⟩)

private theorem offsets_plusRuns_shift (start shift : Nat) (before other : Option Char) (letters : List Char) :
    (plusRuns (start + shift) other letters).map PlusRun.offset =
      ((plusRuns start before letters).map PlusRun.offset).map (· + shift) := by
  fun_induction plusRuns start before letters generalizing other with
  | case1 start before rest ih =>
    have later := ih (some '+')
    rw [Nat.add_right_comm] at later
    rw [plusRuns, List.map_cons, List.map_cons, List.map_cons, later]
  | case2 start before c rest apart ih =>
    have later := ih (some c)
    rw [Nat.add_right_comm] at later
    rw [plusRuns]
    · exact later
    · exact apart
  | case3 => rfl

private theorem map_snd_flankedRuns (offset other : Nat) (left right : Flank) (letters : List Char) :
    (flankedRuns offset left right letters).map Prod.snd = (flankedRuns other left right letters).map Prod.snd := by
  fun_induction flankedRuns offset left right letters generalizing other with
  | case1 offset left rest ih => rw [flankedRuns, List.map_cons, List.map_cons, ih (other + 2)]
  | case2 offset left c rest apart ih =>
    rw [flankedRuns]
    · exact ih (other + 1)
    · exact apart
  | case3 => rfl

private theorem offsets_plain_append (plain : '+' ∉ front) (start : Nat) (before : Option Char) (rest : List Char) :
    (plusRuns start before (front ++ rest)).map PlusRun.offset =
      ((plusRuns 0 none rest).map PlusRun.offset).map (· + (start + front.length)) := by
  induction front generalizing start before with
  | nil =>
    have shift := offsets_plusRuns_shift 0 start none before rest
    rwa [Nat.zero_add] at shift
  | cons c front ih =>
    obtain ⟨other, plain⟩ := List.ne_and_not_mem_of_not_mem_cons plain
    rw [List.cons_append, plusRuns, ih plain, List.length_cons, Nat.add_right_comm, Nat.add_assoc]
    · rintro _ rfl
      exact absurd rfl other

private theorem flanks_plain_append (plain : '+' ∉ front) (offset : Nat) (left right : Flank) (rest : List Char) :
    (flankedRuns offset left right (front ++ rest)).map Prod.snd =
      (flankedRuns 0 (left.beside front.getLast?) right rest).map Prod.snd := by
  induction front generalizing offset left with
  | nil => exact map_snd_flankedRuns ..
  | cons c front ih =>
    obtain ⟨other, plain⟩ := List.ne_and_not_mem_of_not_mem_cons plain
    have last : (Flank.ofChar? (some c)).beside front.getLast? = left.beside (c :: front).getLast? := by
      rw [List.getLast?_cons]
      cases front.getLast? <;> rfl
    rw [List.cons_append, flankedRuns, ih plain, last]
    rintro _ rfl
    exact absurd rfl other

def Delimiter.moved (text : NodeId) (by_ : Nat) (delimiter : Delimiter) : Delimiter :=
  ⟨text, delimiter.offset + by_, delimiter.opens⟩

theorem cut_moved (reading : Reading α) (text : NodeId) (by_ start : Nat) (rest : List Char) (delimiters : List Delimiter) :
    reading.cut (start + by_) rest (delimiters.map (Delimiter.moved text by_)) = reading.cut start rest delimiters := by
  induction delimiters generalizing start rest with
  | nil => rfl
  | cons delimiter delimiters ih =>
    have length : delimiter.offset + by_ - (start + by_) = delimiter.offset - start := by omega
    rw [List.map_cons, Reading.cut, Reading.cut]
    dsimp only [Delimiter.moved]
    rw [length, Nat.add_right_comm, ih]

theorem delimitersAt_moved (text : NodeId) (by_ : Nat) (places : List (NodeId × Nat)) (roles : List (Option Bool)) :
    delimitersAt (places.map fun place => (text, place.2 + by_)) roles =
      (delimitersAt places roles).map (Delimiter.moved text by_) := by
  induction places generalizing roles with
  | nil => rfl
  | cons place places ih =>
    cases roles with
    | nil => rfl
    | cons role roles =>
      rw [List.map_cons, delimitersAt_cons, delimitersAt_cons, ih, List.map_append]
      cases role <;> rfl

end MarkdownHtml.Document

namespace MarkdownHtml.NodeTree
open Document

/-- What a row is put together from: nodes, and the two ends of inserted texts. -/
inductive Token
  | tree (tree : NodeTree)
  | mark (opens : Bool)

/-- A row that is put together from its end, with the rows around it. -/
def Token.put : Token → List NodeTree × List (List NodeTree) → List NodeTree × List (List NodeTree)
  | .tree shown, (level, outer) => (shown :: level, outer)
  | .mark true, (level, outer) => (node .ins level :: outer.headD [], outer.tail)
  | .mark false, (level, outer) => ([], level :: outer)

def assembled (tokens : List Token) : List NodeTree := (tokens.foldr Token.put ([], [])).1

/-- An entry of a row, where it is known what is below the nodes. -/
def itemToken (below : NodeId → List NodeTree) : Item → Token
  | .text literal => .tree (text literal)
  | .whole id kind => .tree (node kind (below id))
  | .mark opens => .mark opens

def runsIn : NodeKind → List Nat
  | .text literal => (plusRuns 0 none literal.toList).map PlusRun.offset
  | _ => []

/-- The delimiters of a single text. Which node it is makes no difference. -/
def delimitersIn (kind : NodeKind) (roles : List (Option Bool)) : List Delimiter :=
  delimitersAt ((runsIn kind).map (Prod.mk root)) roles

def tokens (roles : List (Option Bool)) : NodeTree → List Token
  | node kind below =>
    match kind, delimitersIn kind roles with
    | .text literal, first :: others =>
      (itemizing.cut 0 literal.toList (first :: others)).map (itemToken fun _ => [])
    | kind, _ => [.tree (node kind below)]

def tokensFrom : List (Option Bool) → List NodeTree → List Token
  | _, [] => []
  | roles, tree :: row => tree.tokens roles ++ tokensFrom (roles.drop (runsIn tree.kind).length) row

def insertRow (row : List NodeTree) : List NodeTree := assembled (tokensFrom (rolesOf (row.map kind)) row)

def inserted : NodeTree → NodeTree := rebuilt fun _ => insertRow

variable {kind : NodeKind} {row children : List NodeTree} {roles : List (Option Bool)}

private theorem assembled_tree (tree : NodeTree) (tokens : List Token) :
    assembled (.tree tree :: tokens) = tree :: assembled tokens := rfl

private theorem assembled_trees (trees : List NodeTree) (tokens : List Token) :
    assembled (trees.map Token.tree ++ tokens) = trees ++ assembled tokens := by
  induction trees with
  | nil => rfl
  | cons tree trees ih => rw [List.map_cons, List.cons_append, assembled_tree, ih, List.cons_append]

private theorem head_assembled {tokens : List Token} {below later : List NodeTree} (kind : NodeKind)
    (other : kind ≠ .ins) (found : assembled tokens = node kind below :: later) :
    ∃ rest, tokens = .tree (node kind below) :: rest := by
  cases tokens with
  | nil => cases found
  | cons token rest =>
    refine ⟨rest, ?_⟩
    cases token with
    | tree tree =>
      rw [assembled_tree] at found
      rw [(List.cons.inj found).1]
    | mark opens =>
      cases opens with
      | false => cases found
      | true =>
        cases found
        exact absurd rfl other

def Token.map (f : NodeTree → NodeTree) : Token → Token
  | .tree shown => .tree (f shown)
  | .mark opens => .mark opens

private theorem map_marked_put (token : Token) (level : List NodeTree) (outer : List (List NodeTree)) :
    (token.map marked).put (level.map marked, outer.map (List.map marked)) =
      ((token.put (level, outer)).1.map marked, (token.put (level, outer)).2.map (List.map marked)) := by
  cases token with
  | tree tree => rfl
  | mark opens =>
    cases opens with
    | false => rfl
    | true =>
      have wrapped : (node .ins level).marked = node .ins (level.map marked) := marked_of_noItem .ins nofun level
      cases outer with
      | nil => exact Prod.ext (congrArg (fun tree => [tree]) wrapped.symm) rfl
      | cons next outer => exact Prod.ext (congrArg (· :: _) wrapped.symm) rfl

private theorem map_marked_assembled (tokens : List Token) :
    (assembled tokens).map marked = assembled (tokens.map (Token.map marked)) := by
  suffices both : (tokens.map (Token.map marked)).foldr Token.put ([], []) =
      ((tokens.foldr Token.put ([], [])).1.map marked, (tokens.foldr Token.put ([], [])).2.map (List.map marked)) from
    (congrArg Prod.fst both).symm
  induction tokens with
  | nil => rfl
  | cons token tokens ih => rw [List.map_cons, List.foldr_cons, ih, map_marked_put, List.foldr_cons]

private theorem map_marked_tokens (roles : List (Option Bool)) (tree : NodeTree) :
    (tree.tokens roles).map (Token.map marked) = tree.marked.tokens roles := by
  obtain ⟨kind, below⟩ := tree
  rw [marked_node]
  unfold tokens
  dsimp only
  split
  next literal first others _ =>
    rw [List.map_map]
    refine List.map_congr_left fun item member => ?_
    cases item with
    | mark opens => rfl
    | text literal => exact congrArg Token.tree (marked_of_noItem (.text literal) nofun [])
    | whole id kind =>
      rcases mem_cut member with ⟨_, same⟩ | ⟨_, same⟩ <;> cases same
  next => rw [List.map_singleton, Token.map, marked_node]

private theorem map_marked_tokensFrom (roles : List (Option Bool)) (row : List NodeTree) :
    (tokensFrom roles row).map (Token.map marked) = tokensFrom roles (row.map marked) := by
  induction row generalizing roles with
  | nil => rfl
  | cons tree row ih =>
    rw [List.map_cons, tokensFrom, tokensFrom, List.map_append, map_marked_tokens, ih, kind_marked]

private theorem map_marked_insertRow (row : List NodeTree) :
    (insertRow row).map marked = insertRow (row.map marked) := by
  have kinds : (row.map marked).map NodeTree.kind = row.map NodeTree.kind := by
    rw [List.map_map]
    exact List.map_congr_left fun tree _ => kind_marked tree
  rw [insertRow, insertRow, map_marked_assembled, map_marked_tokensFrom, kinds]

theorem tokens_uncut {tree : NodeTree} (uncut : delimitersIn tree.kind roles = []) : tree.tokens roles = [.tree tree] := by
  obtain ⟨kind, below⟩ := tree
  rw [NodeTree.kind] at uncut
  simp only [tokens, uncut]

private theorem map_piece (letters : List Char) :
    (itemizing.piece letters).map (itemToken fun _ => []) = (shortenedTo letters []).map Token.tree := by
  unfold Reading.piece shortenedTo
  split <;> rfl

theorem tokens_cut {literal : String} (some_ : delimitersIn (.text literal) roles ≠ []) (below : List NodeTree) :
    (node (.text literal) below).tokens roles =
      (itemizing.cut 0 literal.toList (delimitersIn (.text literal) roles)).map (itemToken fun _ => []) := by
  obtain ⟨first, others, found⟩ := List.exists_cons_of_ne_nil some_
  simp only [tokens, found]

private theorem tokens_cut_first {literal : String} {first : Delimiter} {others : List Delimiter}
    (found : delimitersIn (.text literal) roles = first :: others) (below : List NodeTree) :
    (node (.text literal) below).tokens roles = (shortenedTo (literal.toList.take first.offset) []).map Token.tree ++
      .mark first.opens :: (itemizing.cut (first.offset + 2) (literal.toList.drop (first.offset + 2)) others).map
        (itemToken fun _ => []) := by
  rw [tokens_cut (found ▸ List.cons_ne_nil _ _), found, Reading.cut, Nat.sub_zero, List.map_append,
    List.map_append, map_piece, List.append_assoc]
  rfl

private theorem tokens_cases (roles : List (Option Bool)) (kind : NodeKind) (below : List NodeTree) :
    (node kind below).tokens roles = [.tree (node kind below)] ∨ ∃ literal first others, kind = .text literal ∧
      delimitersIn (.text literal) roles = first :: others := by
  cases found : delimitersIn kind roles with
  | nil => exact .inl (tokens_uncut found)
  | cons first others =>
    cases kind with
    | text literal => exact .inr ⟨literal, first, others, rfl, found⟩
    | _ => cases found

private theorem head_tokens {tree shown : NodeTree} {later rest : List Token}
    (found : tree.tokens roles ++ later = .tree shown :: rest) :
    shown = tree ∨ ∃ literal below part, tree = node (.text literal) below ∧ shown = text (String.ofList part) ∧
      part <+: literal.toList := by
  obtain ⟨kind, below⟩ := tree
  rcases tokens_cases roles kind below with whole | ⟨literal, first, others, rfl, cut⟩
  · rw [whole] at found
    exact .inl (Token.tree.inj (List.cons.inj found).1).symm
  · rw [tokens_cut_first cut, shortenedTo] at found
    split at found
    next => cases found
    next =>
      refine .inr ⟨literal, below, _, rfl, (Token.tree.inj (List.cons.inj found).1).symm, List.take_prefix ..⟩

private theorem head_tokensFrom {shown : NodeTree} {rest : List Token}
    (found : tokensFrom roles row = .tree shown :: rest) :
    ∃ tree behind, row = tree :: behind ∧ (shown = tree ∨ ∃ literal below part, tree = node (.text literal) below ∧
      shown = text (String.ofList part) ∧ part <+: literal.toList) := by
  cases row with
  | nil => cases found
  | cons tree row => exact ⟨tree, row, rfl, head_tokens found⟩

section
variable {literal : String} {checked : Bool} {front rest : List Char}

private theorem runsIn_box (letters : literal.toList = front ++ rest) (box : BoxFront checked front rest) :
    runsIn (.text literal) = (runsIn (.text (String.ofList rest))).map (· + front.length) := by
  rw [runsIn, letters, offsets_plain_append box.plain, Nat.zero_add, runsIn, String.toList_ofList]

private theorem delimitersIn_box (letters : literal.toList = front ++ rest) (box : BoxFront checked front rest)
    (roles : List (Option Bool)) : delimitersIn (.text literal) roles =
      (delimitersIn (.text (String.ofList rest)) roles).map (Delimiter.moved root front.length) := by
  rw [delimitersIn, runsIn_box letters box, delimitersIn, ← delimitersAt_moved, List.map_map, List.map_map]
  rfl

private theorem flanksOf_box (letters : literal.toList = front ++ rest) (box : BoxFront checked front rest)
    (kinds : List NodeKind) : flanksOf .blank (.text literal :: kinds) =
      flanksOf .blank (if rest = [] then kinds else .text (String.ofList rest) :: kinds) := by
  obtain ⟨c, last, space⟩ := box.blank
  have blank : ∀ flank : Flank, flank.beside front.getLast? = .blank := fun flank => by
    rw [last, Flank.beside, Flank.ofChar?, if_pos space]
  rw [flanksOf, textFlanks, letters, flanks_plain_append box.plain, blank]
  split
  next gone =>
    rw [gone, kindFlank, letters, gone, List.append_nil]
    exact congrArg (flanksOf · kinds) (blank .blank)
  next gone =>
    rw [flanksOf, textFlanks, kindFlank, kindFlank, letters, String.toList_ofList, List.getLast?_append_of_ne_nil _ gone]

private theorem tokens_box (letters : literal.toList = front ++ rest) (box : BoxFront checked front rest)
    (roles : List (Option Bool)) (below : List NodeTree) (some_ : rest ≠ []) :
    ∃ (literal' : String) (rest' : List Char) (below' : List NodeTree) (later : List Token),
      (node (.text literal) below).tokens roles = .tree (node (.text literal') below') :: later ∧
      readTaskBox literal'.toList = some (checked, rest') ∧
      (node (.text (String.ofList rest)) below).tokens roles = (shortenedTo rest' below').map Token.tree ++ later := by
  have moved := delimitersIn_box letters box roles
  cases found : delimitersIn (.text (String.ofList rest)) roles with
  | nil =>
    rw [found] at moved
    refine ⟨literal, rest, below, [], tokens_uncut moved, ?_, ?_⟩
    · rw [letters]
      exact box.read rest (List.prefix_refl rest)
    · have whole : (node (.text (String.ofList rest)) below).tokens roles = [.tree (node (.text (String.ofList rest)) below)] :=
        tokens_uncut found
      rw [whole, shortenedTo, if_neg (by simpa using some_)]
      rfl
  | cons first others =>
    rw [found] at moved
    have ahead : (front ++ rest).take (first.offset + front.length) = front ++ rest.take first.offset := by
      rw [Nat.add_comm, List.take_length_add_append]
    have behind : (front ++ rest).drop (first.offset + front.length + 2) = rest.drop (first.offset + 2) := by
      rw [Nat.add_comm first.offset, Nat.add_assoc, List.drop_length_add_append]
    have short := tokens_cut_first found below
    rw [String.toList_ofList] at short
    refine ⟨String.ofList (front ++ rest.take first.offset), rest.take first.offset, [], _, ?_, ?_, short⟩
    · rw [tokens_cut_first moved, Delimiter.moved, letters, ahead, behind, Nat.add_right_comm, cut_moved, shortenedTo, if_neg]
      · rfl
      · rw [List.isEmpty_iff, List.append_eq_nil_iff]
        rintro ⟨rfl, _⟩
        obtain ⟨_, last, _⟩ := box.blank
        cases last
    · rw [String.toList_ofList]
      exact box.read _ (List.take_prefix ..)

/-- A text that begins with a box keeps the box, and the rest of the row is what it would be without the box. -/
theorem insertRow_box (below texts : List NodeTree) (read : readTaskBox literal.toList = some (checked, rest)) :
    ∃ (literal' : String) (rest' : List Char) (below' texts' : List NodeTree),
      insertRow (node (.text literal) below :: texts) = node (.text literal') below' :: texts' ∧
      readTaskBox literal'.toList = some (checked, rest') ∧
      shortenedTo rest' below' ++ texts' = insertRow (shortenedTo rest below ++ texts) := by
  obtain ⟨front, letters, box⟩ := exists_boxFront read
  have roles : rolesOf ((node (.text literal) below :: texts).map kind) =
      rolesOf ((shortenedTo rest below ++ texts).map kind) := by
    rw [rolesOf, List.map_cons, NodeTree.kind, flanksOf_box letters box, rolesOf]
    cases rest <;> rfl
  have length : (runsIn (.text literal)).length = (runsIn (.text (String.ofList rest))).length := by
    rw [runsIn_box letters box, List.length_map]
  rw [insertRow, roles, tokensFrom, NodeTree.kind, length]
  by_cases gone : rest = []
  · subst gone
    refine ⟨literal, [], below, insertRow texts, ?_, read, rfl⟩
    have uncut : ∀ roles, (node (.text literal) below).tokens roles = [.tree (node (.text literal) below)] := fun roles =>
      tokens_uncut (delimitersIn_box letters box roles)
    rw [uncut]
    rfl
  · obtain ⟨literal', rest', below', later, tokens, read', short⟩ :=
      tokens_box letters box (rolesOf ((shortenedTo rest below ++ texts).map kind)) below gone
    refine ⟨literal', rest', below', _, by rw [tokens]; rfl, read', ?_⟩
    rw [insertRow]
    generalize rolesOf ((shortenedTo rest below ++ texts).map kind) = roles at short
    have single : shortenedTo rest below ++ texts = node (.text (String.ofList rest)) below :: texts := by
      rw [shortenedTo, if_neg (by simpa using gone)]
      rfl
    rw [single, tokensFrom, short, NodeTree.kind, List.append_assoc, assembled_trees]
    rfl

end

theorem spares_insertRow : Spares insertRow where
  nil := rfl
  natural := map_marked_insertRow
  item blocks := ⟨assembled (tokensFrom (pairUp 0 (flanksOf .solid (blocks.map kind))).1 blocks), fun _ => ⟨rfl, fun _ => rfl⟩⟩
  leading found := by
    obtain ⟨_, tokens⟩ := head_assembled .paragraph nofun found
    obtain ⟨tree, behind, rfl, same | ⟨_, _, _, _, same, _⟩⟩ := head_tokensFrom tokens
    · exact ⟨behind, by rw [same]⟩
    · cases same
  box below texts read := insertRow_box below texts read
  noBox found read := by
    obtain ⟨_, tokens⟩ := head_assembled (.text _) nofun found
    obtain ⟨tree, behind, rfl, same | ⟨literal, below, part, rfl, same, more, whole⟩⟩ := head_tokensFrom tokens
    · exact ⟨_, _, behind, by rw [same], read⟩
    · cases same
      refine ⟨literal, below, behind, rfl, ?_⟩
      rw [← whole]
      rw [String.toList_ofList] at read
      exact isSome_readTaskBox_append read more

end MarkdownHtml.NodeTree
