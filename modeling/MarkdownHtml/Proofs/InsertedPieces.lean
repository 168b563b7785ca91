import MarkdownHtml.Proofs.InsertedSites

/-! What a container gets back. From one state of the rebuilding to the next one, a text comes to the end of the
innermost node that is open, piece by piece, with a mark for each delimiter. Seen from the container, all of it comes to
the end of its row. -/

namespace MarkdownHtml.Document

variable {α : Type}

/-- What waits below open nodes, from the innermost one outwards, and the marks that close each of them. -/
def Reading.outward (reading : Reading α) (container : NodeId) (waiting : NodeId → List α) : List NodeId → List α
  | [] => waiting container
  | id :: opened => waiting id ++ reading.mark false ++ reading.outward container waiting opened

/-- A piece of a text that is cut. Where two delimiters meet, no text is made for what is between them. -/
def Reading.piece (reading : Reading α) (letters : List Char) : List α :=
  if letters.isEmpty then [] else reading.text (String.ofList letters)

/-- What a text adds from an offset on, cut at its delimiters. -/
def Reading.cut (reading : Reading α) (start : Nat) (rest : List Char) : List Delimiter → List α
  | [] => reading.piece rest
  | delimiter :: delimiters =>
    let length := delimiter.offset - start
    reading.piece (rest.take length) ++ reading.mark delimiter.opens ++
      reading.cut (delimiter.offset + 2) (rest.drop (length + 2)) delimiters

/-- What a child of a container adds to its row when the container is rebuilt. -/
def Reading.child (reading : Reading α) (start doc : Document) (content : NodeId → List α)
    (delimiters : List Delimiter) (child : NodeId) : List α :=
  match delimitersOf delimiters child, doc.kind? child with
  | [], _ => reading.adds start doc content child
  | splits, some (.text literal) => reading.cut 0 literal.toList splits
  | _, _ => []

variable {reading : Reading α}

theorem Reading.cut_cons {start : Nat} {before : List Char} {delimiter : Delimiter}
    (here : delimiter.offset = start + before.length) (letters : List Char) (delimiters : List Delimiter) :
    reading.cut start (before ++ '+' :: '+' :: letters) (delimiter :: delimiters) =
      reading.piece before ++ reading.mark delimiter.opens ++ reading.cut (delimiter.offset + 2) letters delimiters := by
  have length : delimiter.offset - start = before.length := by omega
  rw [cut, length, List.take_left, List.drop_length_add_append]
  rfl

theorem Reading.child_nil (reading : Reading α) (start doc : Document) (content : NodeId → List α) :
    reading.child start doc content [] = reading.adds start doc content := by
  funext child
  have none_ : delimitersOf [] child = [] := List.mergeSort_nil
  rw [Reading.child, none_]

private theorem outward_congr {container : NodeId} {opened : List NodeId} {first second : NodeId → List α}
    (here : first container = second container) (same : ∀ id ∈ opened, first id = second id) :
    reading.outward container first opened = reading.outward container second opened := by
  induction opened with
  | nil => exact here
  | cons id opened ih =>
    obtain ⟨inner, outer⟩ := List.forall_mem_cons.mp same
    rw [Reading.outward, Reading.outward, inner, ih outer]

private theorem outward_headD {container : NodeId} {opened : List NodeId} (distinct : opened.Nodup)
    (outside : container ∉ opened) (waiting : NodeId → List α) (items : List α) :
    reading.outward container (fun id => if id = opened.headD container then items ++ waiting id else waiting id) opened =
      items ++ reading.outward container waiting opened := by
  cases opened with
  | nil => exact if_pos rfl
  | cons inner opened =>
    obtain ⟨apart, outside⟩ := List.ne_and_not_mem_of_not_mem_cons outside
    obtain ⟨inside, _⟩ := List.nodup_cons.mp distinct
    have outer : reading.outward container (fun id => if id = inner then items ++ waiting id else waiting id) opened =
        reading.outward container waiting opened :=
      outward_congr (if_neg apart) fun id member => if_neg fun same : id = inner => inside (same ▸ member)
    rw [Reading.outward, Reading.outward, List.headD_cons, outer, if_pos rfl]
    simp only [List.append_assoc]

namespace Site

variable {site : Site} {rest : List NodeId} {state mid after : Rebuilding}

/-- What is still to come after a state. Nodes that are not open have got all that they get. -/
def Awaits (site : Site) (reading : Reading α) (content : NodeId → List α) (state : Rebuilding) (items : List α) : Prop :=
  ∃ waiting, Accounts reading site.start state.document content waiting ∧
    (∀ id, state.document.Holds id → id ≠ site.container → id ∉ state.opened → waiting id = []) ∧
      reading.outward site.container waiting state.opened = items

/-- Between two states, a word of delimiters has been met and part of a row has been put back. -/
structure Puts (site : Site) (reading : Reading α) (content : NodeId → List α) (rest : List NodeId) (state : Rebuilding)
    (word : List Delimiter) (part : List α) (after : Rebuilding) : Prop where
  ready : site.Ready rest after
  depth : word.foldlM Delimiter.shift state.opened.length = some after.opened.length
  awaits : ∀ items, site.Awaits reading content after items → site.Awaits reading content state (part ++ items)
  kept : ∀ id, site.Inserted state.document id → site.Inserted after.document id
  made : word ≠ [] → ∃ id, site.Inserted after.document id

variable {content : NodeId → List α}

theorem Puts.refl (ready : site.Ready rest state) : site.Puts reading content rest state [] [] state where
  ready := ready
  depth := rfl
  awaits _ later := later
  kept _ inserted := inserted
  made some_ := absurd rfl some_

theorem Puts.trans {before behind : List Delimiter} {first second : List α} {others : List NodeId}
    (left : site.Puts reading content others state before first mid)
    (right : site.Puts reading content rest mid behind second after) :
    site.Puts reading content rest state (before ++ behind) (first ++ second) after where
  ready := right.ready
  depth := by
    rw [List.foldlM_append, left.depth]
    exact right.depth
  awaits items later := by
    rw [List.append_assoc]
    exact left.awaits _ (right.awaits items later)
  kept id inserted := right.kept id (left.kept id inserted)
  made some_ := by
    by_cases none_ : behind = []
    · obtain ⟨id, inserted⟩ := left.made fun empty_ => some_ (by rw [empty_, none_]; rfl)
      exact ⟨id, right.kept id inserted⟩
    · exact right.made none_

theorem Ready.container_notMem (ready : site.Ready rest state) : site.container ∉ state.opened :=
  fun member => (ready.opened _ member).2 site.held

private theorem Ready.awaits (ready : site.Ready rest state) {waiting : NodeId → List α} {items : List α}
    (accounts : Accounts reading site.start state.document content fun id =>
      if id = site.target state then items ++ waiting id else waiting id)
    (quiet : ∀ id, state.document.Holds id → id ≠ site.container → id ∉ state.opened → waiting id = []) :
    site.Awaits reading content state (items ++ reading.outward site.container waiting state.opened) := by
  refine ⟨_, accounts, fun id present other closed => ?_, outward_headD ready.distinct ready.container_notMem waiting items⟩
  rw [if_neg, quiet id present other closed]
  rintro rfl
  exact (site.target_eq state).elim other closed

variable (reading content)

theorem Ready.pushPiece (ready : site.Ready rest state) (piece : List Char) :
    site.Puts reading content rest state [] (reading.piece piece) (state.pushPiece site.container piece) := by
  unfold Rebuilding.pushPiece Reading.piece
  split
  next blank =>
    obtain rfl := List.isEmpty_iff.mp blank
    exact .refl ready
  · refine { ready := ready.appendNew _, depth := rfl, awaits := ?_, kept := fun _ => ready.inserted_appendNew _
             made := fun some_ => absurd rfl some_ }
    rintro items ⟨waiting, accounts, quiet, rfl⟩
    have held := ready.held_target
    have found := (ready.linked.kind?_appendNew held (.text (String.ofList piece)) ⟨state.document.size⟩).trans (if_pos rfl)
    refine ready.awaits (accounts.of_appendNew ready.linked held fun id _ => ?_) fun id present => ?_
    · rw [Reading.adds_text found]
    · exact quiet id (holds_appendNew_iff.mpr (.inl present))

private theorem Ready.puts_opening (ready : site.Ready rest state) (text : NodeId) (offset : Nat) :
    site.Puts reading content rest state [⟨text, offset, true⟩] (reading.mark true)
      ⟨(state.document.appendNew (site.target state) .ins).2, ⟨state.document.size⟩ :: state.opened⟩ := by
  refine { ready := ready.opening, depth := rfl, awaits := ?_, kept := fun _ => ready.inserted_appendNew _
           made := fun _ => ready.opening.made (List.cons_ne_nil _ _) }
  rintro items ⟨waiting, accounts, quiet, rfl⟩
  have held := ready.held_target
  have found := (ready.linked.kind?_appendNew held .ins ⟨state.document.size⟩).trans (if_pos rfl)
  have new : ¬ site.start.Holds ⟨state.document.size⟩ := fun old => not_holds_new (ready.holds _ (site.older _ old))
  have before : site.Awaits reading content state (reading.mark true ++ waiting ⟨state.document.size⟩ ++ reading.mark false ++
      reading.outward site.container waiting state.opened) := by
    refine ready.awaits (accounts.of_appendNew ready.linked held fun id _ => ?_) fun id present apart closed => ?_
    · rw [Reading.adds_new found new, accounts.of_new ready.linked held]
    · exact quiet id (holds_appendNew_iff.mpr (.inl present)) apart fun member =>
        (List.mem_cons.mp member).elim present.ne_new closed
  simpa only [Reading.outward, List.append_assoc] using before

private theorem Ready.puts_closing {document : Document} {id : NodeId} {opened : List NodeId}
    (ready : site.Ready rest ⟨document, id :: opened⟩) (text : NodeId) (offset : Nat) :
    site.Puts reading content rest ⟨document, id :: opened⟩ [⟨text, offset, false⟩] (reading.mark false) ⟨document, opened⟩ := by
  refine { ready := ready.closing, depth := rfl, awaits := ?_, kept := fun _ inserted => inserted
           made := fun _ => ready.made (List.cons_ne_nil id opened) }
  rintro items ⟨waiting, accounts, quiet, same⟩
  refine ⟨waiting, accounts, fun other present apart closed => ?_, ?_⟩
  · exact quiet other present apart fun member => closed (List.mem_cons_of_mem _ member)
  · have present : document.Holds id := holds_iff_kind.mpr ⟨_, (ready.opened id (List.mem_cons_self ..)).1⟩
    have apart : id ≠ site.container := fun same => ready.container_notMem (same ▸ List.mem_cons_self ..)
    rw [Reading.outward, quiet id present apart (List.nodup_cons.mp ready.distinct).1, same]
    rfl

theorem Ready.pushDelimiter (ready : site.Ready rest state) {delimiter : Delimiter} {depth : Nat}
    (shift : delimiter.shift state.opened.length = some depth) :
    site.Puts reading content rest state [delimiter] (reading.mark delimiter.opens)
      (state.pushDelimiter site.container delimiter) := by
  obtain ⟨text, offset, opens⟩ := delimiter
  cases opens with
  | true => exact ready.puts_opening reading content text offset
  | false =>
    obtain ⟨document, opened⟩ := state
    cases opened with
    | nil => cases shift
    | cons id opened => exact ready.puts_closing reading content text offset

theorem pushPieces_cut (state : Rebuilding) (container : NodeId) {start : Nat} {before : List Char}
    {delimiter : Delimiter} (here : delimiter.offset = start + before.length) (letters : List Char)
    (delimiters : List Delimiter) :
    state.pushPieces container start (before ++ '+' :: '+' :: letters) (delimiter :: delimiters) =
      ((state.pushPiece container before).pushDelimiter container delimiter).pushPieces container (delimiter.offset + 2)
        letters delimiters := by
  have length : delimiter.offset - start = before.length := by omega
  rw [Rebuilding.pushPieces, length, List.take_left, List.drop_length_add_append]
  rfl

private theorem Ready.pushPieces {start : Nat} {letters : List Char} {delimiters : List Delimiter}
    (cuts : Cuts start letters delimiters) {depth : Nat} (ready : site.Ready rest state)
    (shift : delimiters.foldlM Delimiter.shift state.opened.length = some depth) :
    site.Puts reading content rest state delimiters (reading.cut start letters delimiters)
      (state.pushPieces site.container start letters delimiters) := by
  induction cuts generalizing state with
  | done start letters => exact ready.pushPiece reading content letters
  | @cut start letters delimiter delimiters before here _ ih =>
    obtain ⟨mid, first, later⟩ := Option.bind_eq_some_iff.mp shift
    have piece := ready.pushPiece reading content before
    rw [Option.some.inj piece.depth] at first
    have plus := piece.ready.pushDelimiter reading content first
    have opened := plus.depth
    rw [List.foldlM_cons, first] at opened
    rw [Option.some.inj opened] at later
    rw [pushPieces_cut state site.container here, Reading.cut_cons here]
    exact (piece.trans plus).trans (ih plus.ready later)

private theorem Ready.puts_whole {child : NodeId} (ready : site.Ready (child :: rest) state) :
    site.Puts reading content rest state [] (reading.adds site.start site.doc content child)
      { state with document := state.document.appendChild (site.target state) child } := by
  refine { ready := ready.appendChild, depth := rfl, awaits := ?_, kept := fun _ => ready.inserted_appendChild
           made := fun some_ => absurd rfl some_ }
  rintro items ⟨waiting, accounts, quiet, rfl⟩
  have held := ready.held_target
  have present := ready.holds_waiting (List.mem_cons_self ..)
  have movable := ready.movable
  refine ready.awaits (accounts.of_appendChild ready.linked held present movable ready.orphan fun id _ => ?_)
    fun id inside => quiet id ?_
  · have kind := ready.linked.kind?_appendChild held present movable.1.symm child
    rw [Reading.adds_congr (kind.trans ready.kind_eq)]
  · rw [Holds, size_appendChild]
    exact inside

private theorem Ready.puts_emptied {child : NodeId} (ready : site.Ready (child :: rest) state) {literal : String}
    (found : site.doc.kind? child = some (.text literal)) :
    site.Puts reading content rest state [] [] { state with document := state.document.setKind child (.text "") } := by
  refine { ready := ready.emptied found, depth := rfl, awaits := ?_, kept := fun _ => ready.inserted_setKind _
           made := fun some_ => absurd rfl some_ }
  rintro items ⟨waiting, accounts, quiet, same⟩
  refine ⟨waiting, accounts.of_setKind ready.linked ready.orphan, fun id inside => quiet id ?_, same⟩
  rw [Holds, setKind, size_modify]
  exact inside

theorem Ready.pushChild {child : NodeId} {delimiters : List Delimiter} (ready : site.Ready (child :: rest) state)
    (cuts : delimitersOf delimiters child ≠ [] → ∃ literal,
      site.doc.kind? child = some (.text literal) ∧ Cuts 0 literal.toList (delimitersOf delimiters child))
    {depth : Nat} (shift : (delimitersOf delimiters child).foldlM Delimiter.shift state.opened.length = some depth) :
    site.Puts reading content rest state (delimitersOf delimiters child)
      (reading.child site.start site.doc content delimiters child)
      (state.pushChild site.container delimiters child) := by
  unfold Rebuilding.pushChild Reading.child
  cases splits : delimitersOf delimiters child with
  | nil => exact ready.puts_whole reading content
  | cons first later =>
    rw [splits] at cuts shift
    obtain ⟨literal, found, cuts⟩ := cuts (List.cons_ne_nil first later)
    have emptied := ready.puts_emptied reading content found
    simp only [ready.kind_eq, found]
    exact emptied.trans (emptied.ready.pushPieces reading content cuts shift)

/-- One child after the other is put back, and what is opened at one of them may be closed at another one. -/
theorem Ready.pushChildren {delimiters : List Delimiter} (ready : site.Ready rest state)
    (cuts : ∀ child ∈ site.row, delimitersOf delimiters child ≠ [] → ∃ literal,
      site.doc.kind? child = some (.text literal) ∧ Cuts 0 literal.toList (delimitersOf delimiters child))
    {depth : Nat} (shift : (rest.flatMap (delimitersOf delimiters)).foldlM Delimiter.shift state.opened.length =
      some depth) :
    site.Puts reading content [] state (rest.flatMap (delimitersOf delimiters))
      (rest.flatMap (reading.child site.start site.doc content delimiters))
      (rest.foldl (Rebuilding.pushChild site.container delimiters) state) := by
  induction rest generalizing state with
  | nil => exact .refl ready
  | cons child rest ih =>
    rw [List.flatMap_cons, List.foldlM_append] at shift
    obtain ⟨mid, first, later⟩ := Option.bind_eq_some_iff.mp shift
    have here := ready.pushChild reading content (cuts child ready.member) first
    rw [Option.some.inj (first.symm.trans here.depth)] at later
    exact here.trans (ih here.ready later)

def delimiters (site : Site) : List Delimiter := site.doc.matchDelimiters site.container

/-- What has become of a container whose children have been taken out and put back. -/
structure Rebuilt (site : Site) (after : Document) : Prop where
  linked : after.Linked
  leaves : after.LeafTexts
  holds : ∀ id, site.doc.Holds id → after.Holds id
  elsewhere : ∀ id, site.doc.Holds id → id ∉ site.row →
    after.parent? id = site.doc.parent? id ∧ after.kind? id = site.doc.kind? id
  rows : ∀ id, site.doc.Holds id → id ≠ site.container → after.childIds id = site.doc.childIds id
  inserted : site.delimiters ≠ [] → ∃ id, site.Inserted after id
  attached : ∀ id, after.Holds id → ¬ site.doc.Holds id → ∃ parent, after.parent? id = some parent ∧
    (parent = site.container ∨ ¬ site.doc.Holds parent)
  accounts : ∀ {α : Type} (reading : Reading α) content, Accounts reading site.start after content (fun _ => []) →
    ∀ id, site.doc.Holds id → content id = if id = site.container
      then site.row.flatMap (reading.child site.start site.doc content site.delimiters)
      else (site.doc.childIds id).flatMap (reading.adds site.start site.doc content)

def last (site : Site) : Rebuilding :=
  site.row.foldl (Rebuilding.pushChild site.container site.delimiters)
    { document := site.row.foldl Document.detach site.doc }

private theorem puts_row (site : Site) : site.Puts reading content []
    { document := site.row.foldl Document.detach site.doc }
    (site.row.flatMap (delimitersOf site.delimiters))
    (site.row.flatMap (reading.child site.start site.doc content site.delimiters)) site.last := by
  obtain ⟨_, balanced, cuts⟩ := site.linked.matched site.container
  exact (Ready.start site).pushChildren reading content cuts (balanced _)

private theorem ready_last (site : Site) : site.Ready [] site.last ∧ site.last.opened = [] := by
  obtain ⟨_, balanced, _⟩ := site.linked.matched site.container
  have put := site.puts_row spelling fun _ => []
  exact ⟨put.ready, List.length_eq_zero_iff.mp (Option.some.inj (put.depth.symm.trans (balanced _)))⟩

/-- When all children have been put back, nothing is open, and the container has what it had. -/
theorem rebuilt (site : Site) : site.Rebuilt (site.doc.rebuildWithInserted site.container site.delimiters) := by
  change site.Rebuilt site.last.document
  obtain ⟨ready, shut⟩ := site.ready_last
  refine { linked := ready.linked, leaves := ready.leaves, holds := ready.holds, elsewhere := ready.elsewhere
           rows := ready.rows, inserted := fun some_ => ?inserted, attached := fun id held new => ?attached
           accounts := fun reading content accounts id held => ?accounts }
  case inserted =>
    obtain ⟨perm, _, _⟩ := site.linked.matched site.container
    refine (site.puts_row spelling fun _ => []).made fun none_ => some_ ?_
    exact List.perm_nil.mp (perm.symm.trans (.of_eq none_))
  case attached =>
    obtain ⟨parent, under⟩ := Option.ne_none_iff_exists'.mp (ready.attached id held new)
    refine ⟨parent, under, or_iff_not_imp_left.mpr fun other old => new ?_⟩
    have member := ready.linked.mem_childIds.mpr under
    rw [ready.rows parent old other] at member
    exact site.linked.holds_of_mem_childIds member
  case accounts =>
    obtain ⟨waiting, before, quiet, same⟩ := (site.puts_row reading content).awaits [] ⟨fun _ => [], accounts,
      fun _ _ _ _ => rfl, by rw [shut]; rfl⟩
    have row := before.of_takenOut site.linked (site.linked.takenOut site.row)
      (fun id held other => quiet id held other List.not_mem_nil) held
    rw [row]
    split
    next here =>
      subst here
      exact same.trans (List.append_nil _)
    next => rfl

end Site

end MarkdownHtml.Document
