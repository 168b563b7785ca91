import MarkdownHtml.Proofs.WrittenCalls

/-! The text that the HTML of inline nodes shows. Texts, code and line breaks are written between tags, and what is
written there is escaped, so without its tags and with its entities read back the HTML of a node is the plain text of
the node, whatever attributes the rules of a caller give to the tags. -/

namespace MarkdownHtml.Html

/-- What stands outside of tags. The flag says whether a tag is open. -/
def withoutTags : Bool → List Char → List Char
  | _, [] => []
  | true, c :: rest => withoutTags (c != '>') rest
  | false, c :: rest => if c = '<' then withoutTags true rest else c :: withoutTags false rest

/-- Read back each entity that escaping makes, in one pass from left to right. -/
def unescape : List Char → List Char
  | '&' :: 'a' :: 'm' :: 'p' :: ';' :: rest => '&' :: unescape rest
  | '&' :: 'l' :: 't' :: ';' :: rest => '<' :: unescape rest
  | '&' :: 'g' :: 't' :: ';' :: rest => '>' :: unescape rest
  | '&' :: 'q' :: 'u' :: 'o' :: 't' :: ';' :: rest => '"' :: unescape rest
  | c :: rest => c :: unescape rest
  | [] => []

/-- The text of HTML without its tags, with entities read back. -/
def shownText (html : String) : String := String.ofList (unescape (withoutTags false html.toList))

/-- A part of HTML that shows a text, whatever comes behind it. -/
def Shows (html text : List Char) : Prop :=
  ∀ rest, withoutTags false (html ++ rest) = text.flatMap escapeChar ++ withoutTags false rest

private theorem unescape_cons {c : Char} (noEntity : c ≠ '&') (rest : List Char) :
    unescape (c :: rest) = c :: unescape rest := by
  rw [unescape.eq_def]
  split <;> simp_all

private theorem unescape_escapeChar (c : Char) (rest : List Char) :
    unescape (escapeChar c ++ rest) = c :: unescape rest := by
  unfold escapeChar
  split
  · rfl
  · rfl
  · rfl
  · rfl
  next noAnd _ _ _ => exact unescape_cons noAnd rest

/-- Escaped text reads back as it was, entities in it included. -/
theorem unescape_escape (text : List Char) : unescape (text.flatMap escapeChar) = text := by
  induction text with
  | nil => rfl
  | cons c rest ih => rw [List.flatMap_cons, unescape_escapeChar, ih]

private theorem withoutTags_text {run : List Char} (noTag : ∀ c ∈ run, c ≠ '<') (rest : List Char) :
    withoutTags false (run ++ rest) = run ++ withoutTags false rest := by
  induction run with
  | nil => rfl
  | cons c run ih =>
    obtain ⟨here, later⟩ := List.forall_mem_cons.mp noTag
    rw [List.cons_append, withoutTags, if_neg here, ih later, List.cons_append]

private theorem withoutTags_inside {inside : List Char} (noEnd : ∀ c ∈ inside, c ≠ '>') (rest : List Char) :
    withoutTags true (inside ++ '>' :: rest) = withoutTags false rest := by
  induction inside with
  | nil => rfl
  | cons c inside ih =>
    obtain ⟨here, later⟩ := List.forall_mem_cons.mp noEnd
    rw [List.cons_append, withoutTags, bne_iff_ne.mpr here, ih later]

namespace Shows

variable {first second left right html : List Char}

theorem nil : Shows [] [] := fun _ => rfl

theorem append (shows : Shows first left) (later : Shows second right) : Shows (first ++ second) (left ++ right) := by
  intro rest
  rw [List.append_assoc, shows, later, List.flatMap_append, List.append_assoc]

private theorem escaped (text : String) : Shows (escape text).toList text.toList := by
  intro rest
  rw [withoutTags_text fun c member => (plain_escape text c member).1, escape, String.toList_ofList]

private theorem newline : Shows ['\n'] ['\n'] := escaped "\n"

private theorem tag {inside : List Char} (noEnd : ∀ c ∈ inside, c ≠ '>') : Shows ('<' :: inside ++ ['>']) [] := by
  intro rest
  rw [List.cons_append, List.cons_append, withoutTags, if_pos rfl, List.append_assoc]
  exact withoutTags_inside noEnd rest

private theorem shownText_eq {html : String} {text : String} (shows : Shows html.toList text.toList) :
    shownText html = text := by
  have whole := shows []
  rw [List.append_nil, withoutTags, List.append_nil] at whole
  rw [shownText, whole, unescape_escape, String.ofList_toList]

end Shows

private theorem Writer.html_line_voidTag (writer : Writer) (name : String) (attributes : AttributeSet) :
    (writer.voidTag name attributes).line.html.toList =
      writer.html.toList ++ (('<' :: (opened name attributes ++ [' ', '/']) ++ ['>']) ++ ['\n']) := by
  have fresh : (writer.voidTag name attributes).line = (writer.voidTag name attributes).raw "\n" := rfl
  rw [fresh, html_raw, voidTag, html_raw, html_openTag]
  simp

end MarkdownHtml.Html

namespace MarkdownHtml

/-- Inline nodes that have text of their own. -/
def NodeKind.isInlineText : NodeKind → Bool
  | .text _ | .code _ | .softLineBreak | .hardLineBreak => true
  | _ => false

/-- Inline nodes that are a tag around their children. -/
def NodeKind.isInlineSpan : NodeKind → Bool
  | .emphasis | .strongEmphasis | .strikethrough | .ins | .link .. => true
  | _ => false

/-- A subtree that has nothing but spans in it, and texts and line breaks as its leaves. -/
def Document.OnlyInlineText (doc : Document) (id : NodeId) : Prop :=
  ∀ lower ∈ doc.descendants id,
    (doc.kind? lower).any fun kind => kind.isInlineSpan || kind.isInlineText && (doc.childIds lower).isEmpty

instance (doc : Document) (id : NodeId) : Decidable (doc.OnlyInlineText id) :=
  inferInstanceAs (Decidable (∀ lower ∈ doc.descendants id, _))

/-- No attribute rule fails, whatever it is given. -/
def RuleSet.AttributesSucceed (rules : RuleSet) : Prop :=
  ∀ rule ∈ rules.attributeRules, ∀ node tag attributes error, rule.apply node tag attributes ≠ .error error

namespace Document

variable {doc : Document} {id : NodeId}

private theorem toList_foldl_append (text : NodeId → String) (ids : List NodeId) (before : String) :
    (ids.foldl (fun whole id => whole ++ text id) before).toList =
      before.toList ++ ids.flatMap fun id => (text id).toList := by
  induction ids generalizing before with
  | nil => simp
  | cons id ids ih => rw [List.foldl_cons, ih, String.toList_append, List.flatMap_cons, List.append_assoc]

section
variable (wellFormed : doc.WellFormed)
include wellFormed

private theorem WellFormed.toList_textContent (held : doc.Holds id) : (doc.textContent id).toList =
    (doc.subtree id).flatMap fun lower => (((doc.kind? lower).map plainText).getD "").toList := by
  rw [textContent, wellFormed.descendants_eq_subtree held, toList_foldl_append]
  rfl

private theorem WellFormed.textContent_node {kind : NodeKind} (found : doc.kind? id = some kind) :
    (doc.textContent id).toList =
      (plainText kind).toList ++ (doc.childIds id).flatMap fun child => (doc.textContent child).toList := by
  have held : doc.Holds id := holds_iff_kind.mpr ⟨kind, found⟩
  rw [wellFormed.toList_textContent held, wellFormed.subtree_eq held, List.flatMap_cons, found, List.flatMap_assoc]
  congr 1
  exact List.flatMap_congr fun child member =>
    (wellFormed.toList_textContent (holds_of_parent (wellFormed.mem_childIds.mp member))).symm

private theorem OnlyInlineText.child (only : doc.OnlyInlineText id) (held : doc.Holds id) {child : NodeId}
    (member : child ∈ doc.childIds id) : doc.OnlyInlineText child := by
  intro lower below
  have under := wellFormed.mem_childIds.mp member
  refine only lower ((wellFormed.mem_descendants held).mpr ?_)
  exact .head under ((wellFormed.mem_descendants (holds_of_parent under)).mp below)

private theorem OnlyInlineText.cases (only : doc.OnlyInlineText id) (held : doc.Holds id) :
    ∃ kind, doc.kind? id = some kind ∧ (kind.isInlineSpan ∨ kind.isInlineText ∧ doc.childIds id = []) := by
  obtain ⟨kind, found⟩ := holds_iff_kind.mp held
  have here := only id ((wellFormed.mem_descendants held).mpr .refl)
  rw [found, Option.any_some, Bool.or_eq_true, Bool.and_eq_true, List.isEmpty_iff] at here
  exact ⟨kind, found, here⟩

end

end Document

namespace Renderer
open Html RenderM

/-- Pieces that show a text: if no rule fails, it is what a reader sees of the HTML that they add. -/
def Displays (renderer : Renderer) (pieces : List Piece) (text : List Char) : Prop :=
  ∀ state final, renderer.emit pieces state = some (.ok (), final) → ∃ html,
    final.writer.html.toList = state.writer.html.toList ++ html ∧ Shows html text

variable {renderer : Renderer}

namespace Displays

variable {first second : List Piece} {left right : List Char}

theorem nil : renderer.Displays [] [] := by
  rintro state final ⟨⟩
  exact ⟨[], (List.append_nil _).symm, .nil⟩

theorem append (displays : renderer.Displays first left) (later : renderer.Displays second right) :
    renderer.Displays (first ++ second) (left ++ right) := by
  intro state final ran
  rw [emit_append] at ran
  obtain ⟨_, middle, ranFirst, ranSecond⟩ := ok_of_bind ran
  obtain ⟨html, added, shows⟩ := displays state middle ranFirst
  obtain ⟨more, addedMore, showsMore⟩ := later middle final ranSecond
  exact ⟨html ++ more, by rw [addedMore, added, List.append_assoc], shows.append showsMore⟩

private theorem flatMap {below : NodeId → List Piece} {text : NodeId → List Char} {ids : List NodeId}
    (each : ∀ id ∈ ids, renderer.Displays (below id) (text id)) :
    renderer.Displays (ids.flatMap below) (ids.flatMap text) := by
  induction ids with
  | nil => exact .nil
  | cons id ids ih =>
    obtain ⟨here, later⟩ := List.forall_mem_cons.mp each
    exact here.append (ih later)

private theorem write {call : Write} {html text : List Char}
    (adds : ∀ writer : Writer, (writer.perform call).html.toList = writer.html.toList ++ html)
    (shows : Shows html text) : renderer.Displays [.write call] text := by
  rintro state final ⟨⟩
  exact ⟨html, adds state.writer, shows⟩

theorem text (content : String) : renderer.Displays [.text content] content.toList :=
  .write (fun writer => writer.html_raw _) (.escaped content)

private theorem closeTag {tag : String} (plain : PlainName tag) : renderer.Displays [.closeTag tag] [] := by
  have noEnd : ∀ c ∈ '/' :: tag.toList, c ≠ '>' :=
    List.forall_mem_cons.mpr ⟨by decide, fun c member => (plain c member).2.2.2⟩
  refine .write (fun writer => ?_) (.tag noEnd)
  simp [Writer.perform, Writer.closeTag, Writer.html_raw]

private theorem openTag {tag : String} (plain : PlainName tag) (id : NodeId) (base : AttributeSet) :
    renderer.Displays [.openTag id tag base] [] := by
  intro state final ran
  obtain ⟨_, middle, ranTag, ⟨⟩⟩ := ok_of_bind ran
  obtain ⟨attributes, settled, ranAttributes, ⟨⟩⟩ := ok_of_bind ranTag
  refine ⟨'<' :: opened tag attributes ++ ['>'], ?_, .tag fun c member => (sound_opened plain attributes c member).2⟩
  simp [← (silent_attributes id tag base).writer_eq ranAttributes, Writer.perform, Writer.tagWith, Writer.html_raw,
    Writer.html_openTag]

private theorem lineBreak {tag : String} (plain : PlainName tag) (id : NodeId) (base : AttributeSet) :
    renderer.Displays [.voidTag id tag base, .line] ['\n'] := by
  intro state final ran
  obtain ⟨_, middle, ranTag, ranLine⟩ := ok_of_bind ran
  obtain ⟨attributes, settled, ranAttributes, ⟨⟩⟩ := ok_of_bind ranTag
  obtain ⟨_, _, ⟨⟩, ⟨⟩⟩ := ok_of_bind ranLine
  have noEnd : ∀ c ∈ opened tag attributes ++ [' ', '/'], c ≠ '>' := by
    refine List.forall_mem_append.mpr ⟨fun c member => (sound_opened plain attributes c member).2, ?_⟩
    simp
  refine ⟨_, ?_, (Shows.tag noEnd).append .newline⟩
  rw [← (silent_attributes id tag base).writer_eq ranAttributes]
  exact settled.writer.html_line_voidTag tag attributes

end Displays

private theorem displays_text (newline : renderer.options.softbreak = "\n") (id : NodeId) {kind : NodeKind}
    (text : kind.isInlineText) :
    descent kind = .done ∧ renderer.Displays (renderer.opening id kind) (Document.plainText kind).toList := by
  cases kind with
  | text literal => exact ⟨rfl, .text literal⟩
  | code literal =>
    have plain : PlainName "code" := by decide
    have shown : renderer.Displays [.text literal] literal.toList := .text literal
    have closed := shown.append (.closeTag plain)
    rw [List.append_nil] at closed
    exact ⟨rfl, (Displays.openTag plain id {}).append closed⟩
  | softLineBreak =>
    rw [opening, newline]
    exact ⟨rfl, .write (fun writer => writer.html_raw _) .newline⟩
  | hardLineBreak => exact ⟨rfl, .lineBreak (by decide) id {}⟩
  | _ => cases text

private theorem displays_span (renderer : Renderer) (id : NodeId) {kind : NodeKind} (span : kind.isInlineSpan) :
    renderer.Displays (renderer.opening id kind) [] ∧ renderer.Displays (renderer.closing id kind) [] := by
  have around : ∀ tag ∈ ["em", "strong", "del", "ins", "a"], ∀ base,
      renderer.Displays [.openTag id tag base] [] ∧ renderer.Displays [.closeTag tag] [] := by
    intro tag member base
    have plain := (by decide : ∀ tag ∈ ["em", "strong", "del", "ins", "a"], PlainName tag) tag member
    exact ⟨.openTag plain id base, .closeTag plain⟩
  cases kind with
  | emphasis => exact around "em" (by decide) {}
  | strongEmphasis => exact around "strong" (by decide) {}
  | strikethrough => exact around "del" (by decide) {}
  | ins => exact around "ins" (by decide) {}
  | link destination title => exact around "a" (by decide) _
  | _ => cases span

private theorem Displays.span {id : NodeId} {kind : NodeKind} (span : kind.isInlineSpan) {inside : List Piece}
    {text : List Char} (displays : renderer.Displays inside text) :
    renderer.Displays (renderer.opening id kind ++ (inside ++ renderer.closing id kind)) text := by
  obtain ⟨opens, closes⟩ := displays_span renderer id span
  have whole := opens.append (displays.append closes)
  rwa [List.append_nil, List.nil_append] at whole

private theorem descends_span {kind : NodeKind} (span : kind.isInlineSpan) :
    descent kind = .children ∧ Document.plainText kind = "" ∧ kind ≠ .document := by
  cases kind with
  | emphasis | strongEmphasis | strikethrough | ins | link => exact ⟨rfl, rfl, nofun⟩
  | _ => cases span

/-- The pieces of a subtree show its plain text. -/
theorem displays_pieces (wellFormed : renderer.document.WellFormed) (newline : renderer.options.softbreak = "\n")
    {id : NodeId} (held : renderer.document.Holds id) (only : renderer.document.OnlyInlineText id) :
    renderer.Displays (renderer.pieces id) (renderer.document.textContent id).toList := by
  revert held only
  induction id using wellFormed.child_induction with
  | step id ih =>
    intro held only
    obtain ⟨kind, found, span | ⟨text, leaf⟩⟩ := only.cases wellFormed held
    · obtain ⟨descends, none_, noDocument⟩ := descends_span span
      have type : renderer.document.type? id ≠ some .document := fun same =>
        noDocument (Option.some.inj (found.symm.trans (Document.kind?_document same)))
      have inside := Displays.flatMap fun child member => ih child member
        (Document.holds_of_parent (wellFormed.mem_childIds.mp member)) (only.child wellFormed held member)
      rw [pieces_eq wellFormed held, piecesFrom, wellFormed.textContent_node found, none_]
      simp only [found, descends, inPlace_eq wellFormed type, ending_eq noDocument]
      exact inside.span span
    · obtain ⟨done, shows⟩ := displays_text newline id text
      rw [pieces_eq wellFormed held, piecesFrom, wellFormed.textContent_node found, leaf]
      simp only [found, done, List.append_nil, List.flatMap_nil]
      exact shows

section
variable (succeed : renderer.rules.AttributesSucceed)
include succeed

private theorem applyRules_ok {rules : List AttributeRule}
    (subset : ∀ rule ∈ rules, rule ∈ renderer.rules.attributeRules)
    (node : NodeRef) (type : NodeType) (tag : String) (attributes : AttributeSet) :
    ∃ changed, applyRules node type tag attributes rules = .ok changed := by
  induction rules generalizing attributes with
  | nil => exact ⟨attributes, rfl⟩
  | cons rule rest ih =>
    obtain ⟨here, later⟩ := List.forall_mem_cons.mp subset
    unfold applyRules
    split
    · exact ih later _
    next error failed => exact absurd failed (succeed rule here node tag attributes error)

private theorem settles_attributes (id : NodeId) (tag : String) (base : AttributeSet) :
    Settles (renderer.attributes id tag base) := by
  refine (settles_decorateBuiltin id base).bind fun decorated => ?_
  cases renderer.document.type? id with
  | none => exact .pure _
  | some type =>
    have registered : ∀ rule ∈ renderer.rules.attributeRulesFor type, rule ∈ renderer.rules.attributeRules :=
      fun rule member => Array.mem_toList_iff.mp (List.mem_of_mem_filter member)
    obtain ⟨changed, same⟩ := applyRules_ok succeed registered (renderer.node id) type tag decorated
    simp only [same]
    exact .pure _

private theorem emit_ok (pieces : List Piece) (state : RenderState) :
    ∃ final, renderer.emit pieces state = some (.ok (), final) := by
  induction pieces generalizing state with
  | nil => exact ⟨state, rfl⟩
  | cons piece rest ih =>
    have here : ∃ middle, renderer.emitPiece piece state = some (.ok (), middle) := by
      cases piece with
      | write call => exact ⟨_, rfl⟩
      | openTag id tag base =>
        obtain ⟨attributes, settled, ran, _⟩ := settles_attributes succeed id tag base state
        exact ⟨_, by rw [emitPiece, openTag, bind_apply, ran]; rfl⟩
      | voidTag id tag base =>
        obtain ⟨attributes, settled, ran, _⟩ := settles_attributes succeed id tag base state
        exact ⟨_, by rw [emitPiece, voidTag, bind_apply, ran]; rfl⟩
    obtain ⟨middle, ran⟩ := here
    obtain ⟨final, ends⟩ := ih middle
    exact ⟨final, by rw [emit, bind_apply, ran]; exact ends⟩

end

/-- The HTML that a rendering adds for inline text shows the plain text of the node. -/
theorem render_shownText (wellFormed : renderer.document.WellFormed)
    (noRules : ∀ type, renderer.rules.renderRule? type = none) (newline : renderer.options.softbreak = "\n")
    {id : NodeId} (held : renderer.document.Holds id) (only : renderer.document.OnlyInlineText id) {budget : Nat}
    (enough : 2 * renderer.document.size ≤ budget) (state : RenderState) :
    ∃ result final, renderer.render budget id state = some (result, final) ∧
      (renderer.rules.AttributesSucceed → result = .ok ()) ∧
      (result = .ok () → ∃ html, final.writer.html = state.writer.html ++ html ∧
        shownText html = renderer.document.textContent id) := by
  have inside : ∀ parent child, renderer.document.IsParent parent child → renderer.document.Holds child :=
    fun _ _ => Document.holds_of_parent
  obtain ⟨rank, falls, _⟩ := Document.exists_rank inside wellFormed.noOwnAncestor
  have emits : renderer.render budget id = renderer.emit (renderer.pieces id) :=
    render_emits (render_halts wellFormed noRules held enough) fun depth deep =>
      renderTree_emits wellFormed noRules falls held deep
  obtain ⟨⟨result, final⟩, ran⟩ := halts_emit (renderer.pieces id) state
  refine ⟨result, final, by rw [emits, ran], fun succeed => ?_, fun ok => ?_⟩
  · obtain ⟨other, ends⟩ := emit_ok succeed (renderer.pieces id) state
    cases ran.symm.trans ends
    rfl
  · subst ok
    obtain ⟨html, added, shows⟩ := displays_pieces wellFormed newline held only state final ran
    refine ⟨String.ofList html, String.toList_inj.mp ?_, Shows.shownText_eq ?_⟩
    · rw [added, String.toList_append, String.toList_ofList]
    · rwa [String.toList_ofList]

theorem render_shownText_emphasis :
    let started := ((Document.empty.appendNew Document.root .paragraph).2.appendNew ⟨1⟩ .emphasis).2
    let texts := (started.appendNew ⟨2⟩ (.text "a <b> &lt; \"c\"")).2
    let linking := ((texts.appendNew ⟨2⟩ .hardLineBreak).2.appendNew ⟨2⟩ (.link "x" (some ">"))).2
    let doc := (linking.appendNew ⟨5⟩ (.code "d")).2
    let rule : AttributeRule :=
      { types := .singleton .link, apply := fun _ _ attributes => .ok (attributes.insert "rel" "<i>") }
    let renderer : Renderer := { document := doc, rules := { attributeRules := #[rule] } }
    let state : RenderState := { writer := ({} : Writer).raw "<p>" }
    doc.WellFormed ∧ doc.OnlyInlineText ⟨2⟩ ∧ renderer.rules.AttributesSucceed ∧
      doc.textContent ⟨2⟩ = "a <b> &lt; \"c\"\nd" ∧
      ∃ final html, renderer.render 14 ⟨2⟩ state = some (.ok (), final) ∧ final.writer.html = "<p>" ++ html ∧
        shownText html = doc.textContent ⟨2⟩ := by
  intro started texts linking doc rule renderer state
  have linked : doc.Linked :=
    (((((Document.Linked.empty.appendNew (by decide) _).appendNew (by decide) _).appendNew (by decide) _).appendNew
      (by decide) _).appendNew (by decide) _).appendNew (by decide) _
  have only : doc.OnlyInlineText ⟨2⟩ := by decide
  have succeed : renderer.rules.AttributesSucceed := by
    intro other member node tag attributes error failed
    cases List.mem_singleton.mp (Array.mem_def.mp member)
    cases failed
  obtain ⟨result, final, ran, succeeds, shows⟩ := @render_shownText renderer linked.wellFormed (fun _ => rfl) rfl ⟨2⟩
    (by decide) only 14 (by decide) state
  obtain ⟨html, added, same⟩ := shows (succeeds succeed)
  rw [succeeds succeed] at ran
  exact ⟨linked.wellFormed, only, succeed, by decide +kernel, final, html, ran, added, same⟩

end Renderer

end MarkdownHtml
