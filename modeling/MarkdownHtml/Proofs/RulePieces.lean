import MarkdownHtml.Proofs.TagNesting
import MarkdownHtml.Proofs.UrlProtocols

/-! What the built-in rules write, whatever the node: tags with known names, texts, and little that is written as it
is. While destinations are sanitized, every link of a tag has a safe protocol or none. -/

namespace MarkdownHtml

private theorem OrderedMap.mem_insertEntry [BEq α] [LawfulBEq α] {key : α} {value : β} {entries : List (α × β)}
    {entry : α × β} (member : entry ∈ insertEntry key value entries) : entry = (key, value) ∨ entry ∈ entries := by
  induction entries with
  | nil => exact .inl (List.mem_singleton.mp member)
  | cons first rest ih =>
    unfold insertEntry at member
    split at member
    next same =>
      obtain rfl := eq_of_beq same
      rcases List.mem_cons.mp member with rfl | member
      · exact .inl rfl
      · exact .inr (List.mem_cons_of_mem first member)
    next =>
      rcases List.mem_cons.mp member with rfl | member
      · exact .inr List.mem_cons_self
      · exact (ih member).imp_right (List.mem_cons_of_mem first)

namespace Renderer
open Html RenderM

variable {renderer : Renderer}

/-! Attributes. -/

/-- A name and a value that may stand together in a tag. -/
def SafeLink (name value : String) : Prop := name = "href" ∨ name = "src" → Url.Safe value

def SafeLinks (attributes : AttributeSet) : Prop := ∀ entry ∈ attributes.entries, SafeLink entry.1 entry.2

theorem SafeLinks.insert {attributes : AttributeSet} (safe : SafeLinks attributes) {name value : String}
    (link : SafeLink name value) : SafeLinks (attributes.insert name value) := by
  intro entry member
  rcases OrderedMap.mem_insertEntry member with rfl | member
  · exact link
  · exact safe entry member

theorem SafeLinks.foldl {entries : List (String × String)} (links : ∀ entry ∈ entries, SafeLink entry.1 entry.2)
    {attributes : AttributeSet} (safe : SafeLinks attributes) :
    SafeLinks (entries.foldl (fun set entry => set.insert entry.1 entry.2) attributes) :=
  List.foldlRecOn entries _ safe fun _ before entry member => before.insert (links entry member)

theorem SafeLinks.empty : SafeLinks {} := fun _ member => absurd member List.not_mem_nil

private theorem SafeLinks.ofList {entries : List (String × String)}
    (links : ∀ entry ∈ entries, SafeLink entry.1 entry.2) : SafeLinks (.ofList entries) := .foldl links .empty

theorem SafeLink.other {name : String} (other : name ≠ "href" ∧ name ≠ "src") (value : String) : SafeLink name value :=
  fun link => absurd link (not_or.mpr other)

private theorem SafeLinks.others {entries : List (String × String)}
    (others : ∀ entry ∈ entries, entry.1 ≠ "href" ∧ entry.1 ≠ "src") : SafeLinks (.ofList entries) :=
  .ofList fun entry member => .other (others entry member) entry.2

private theorem safe_fragment (name : String) : Url.Safe ("#" ++ name) := by
  left
  simp [Url.beforeEnd, Url.endsProtocol]

private theorem safeLinks_fragment (name : String) {entries : List (String × String)}
    (others : ∀ entry ∈ entries, entry.1 ≠ "href" ∧ entry.1 ≠ "src") :
    SafeLinks (.ofList (("href", "#" ++ name) :: entries)) :=
  .ofList (List.forall_mem_cons.mpr ⟨fun _ => safe_fragment name, fun entry member => .other (others entry member) entry.2⟩)

private theorem safeLinks_startAttribute (start : Nat) : SafeLinks (startAttribute start) := by
  unfold startAttribute
  split
  · exact .empty
  · exact .others (by simp)

private theorem safeLinks_cellAlignment (kind : NodeKind) : SafeLinks (cellAlignment kind) := by
  unfold cellAlignment
  split
  · exact .others (by simp)
  · exact .empty

private theorem safeLinks_languageClass (info : String) : SafeLinks (languageClass info) := by
  unfold languageClass
  split
  · exact .others (by simp)
  · exact .empty

private theorem safeLinks_checkboxAttributes (checked : Bool) : SafeLinks (checkboxAttributes checked) := by
  cases checked <;> exact .others (by simp)

private theorem safeLinks_withTitle (title : Option String) {entries : List (String × String)}
    (links : ∀ entry ∈ entries, SafeLink entry.1 entry.2) : SafeLinks (withTitle title entries) := by
  refine .ofList (List.forall_mem_append.mpr ⟨links, ?_⟩)
  cases title with
  | none => exact nofun
  | some title => simpa using SafeLink.other (by decide) title

private theorem safeLinks_linkAttributes (sanitizes : renderer.options.sanitizeUrls = true) (destination : String)
    (title : Option String) : SafeLinks (linkAttributes renderer.options destination title) := by
  refine safeLinks_withTitle title ?_
  rw [if_pos sanitizes]
  simpa [SafeLink] using safe_prepareUrl sanitizes destination

private theorem safeLinks_source (sanitizes : renderer.options.sanitizeUrls = true) (destination alt : String)
    (title : Option String) :
    SafeLinks (withTitle title [("src", prepareUrl renderer.options destination), ("alt", alt)]) := by
  refine safeLinks_withTitle title ?_
  simpa [SafeLink] using safe_prepareUrl sanitizes destination

/-! Pieces. -/

/-- A piece as the built-in rules write it. What is written as it is is plain text, what stands for a line break, or the
HTML of the document itself. -/
def Piece.Builtin (renderer : Renderer) : Piece → Prop
  | .openTag _ name base | .voidTag _ name base =>
    KnownTag renderer.document name ∧ (renderer.options.sanitizeUrls = true → SafeLinks base)
  | .write (.closeTag name) => KnownTag renderer.document name
  | .write (.raw text) => PlainText text ∨ text = renderer.options.softbreak ∨
    renderer.options.escapeHtml = false ∧
      ∃ id, renderer.document.kind? id = some (.htmlBlock text) ∨ renderer.document.kind? id = some (.htmlInline text)
  | .write (.text _) | .write .line => True
  | .write _ => False

private theorem plain_number (number : Nat) : PlainText number.repr := by
  intro c member
  have digit := isDigit_of_mem_toString member
  refine ⟨?_, ?_, ?_⟩ <;> rintro rfl <;> cases digit

private theorem builtin_backrefPieces (id : NodeId) (label : String) (number references occurrence : Nat) :
    ∀ piece ∈ backrefPieces id label number references occurrence, piece.Builtin renderer := by
  have blank : PlainText " " := by decide
  have arrow : PlainText backArrow := by decide
  by_cases later : occurrence > 1 <;> by_cases more : occurrence < references <;>
    simp (disch := first | decide | simp) [backrefPieces, later, more, Piece.Builtin, KnownTag.builtin, blank, arrow,
      plain_number, safeLinks_fragment, SafeLinks.others]

private theorem builtin_backrefsPieces (id : NodeId) :
    ∀ piece ∈ renderer.backrefsPieces id, piece.Builtin renderer := by
  unfold backrefsPieces
  split
  · intro piece member
    obtain ⟨earlier, _, member⟩ := List.mem_flatMap.mp member
    exact builtin_backrefPieces _ _ _ _ _ piece member
  · exact nofun

theorem builtin_opening {id : NodeId} {kind : NodeKind} (found : renderer.document.kind? id = some kind) :
    ∀ piece ∈ renderer.opening id kind, piece.Builtin renderer := by
  cases kind with
  | heading level =>
    have named : KnownTag renderer.document s!"h{level}" := .inr ⟨id, level, found, rfl⟩
    simpa [opening, Piece.Builtin, SafeLinks.empty] using named
  | paragraph =>
    cases omitted : renderer.omitsParagraphTag id <;>
      simp (disch := decide) [opening, omitted, Piece.Builtin, KnownTag.builtin, SafeLinks.empty]
  | htmlBlock literal =>
    cases escaped : renderer.options.escapeHtml with
    | true => simp (disch := decide) [opening, escaped, Piece.Builtin, KnownTag.builtin, SafeLinks.empty]
    | false =>
      have own : (Piece.raw literal).Builtin renderer := .inr (.inr ⟨escaped, id, .inl found⟩)
      simpa [opening, escaped, Piece.Builtin] using own
  | htmlInline literal =>
    cases escaped : renderer.options.escapeHtml with
    | true => simp [opening, escaped, Piece.Builtin]
    | false =>
      have own : (Piece.raw literal).Builtin renderer := .inr (.inr ⟨escaped, id, .inr found⟩)
      simpa [opening, escaped] using own
  | link destination title =>
    have known : KnownTag renderer.document "a" := .builtin (by decide)
    simpa [opening, Piece.Builtin, known] using fun sanitizes => safeLinks_linkAttributes sanitizes destination title
  | image destination title =>
    have known : KnownTag renderer.document "img" := .builtin (by decide)
    simpa [opening, Piece.Builtin, known] using fun sanitizes => safeLinks_source sanitizes destination _ title
  | tableCell header alignment =>
    cases header <;>
      simp (disch := decide) [opening, tableTag, Piece.Builtin, KnownTag.builtin, safeLinks_cellAlignment]
  | _ =>
    simp (disch := first | decide | simp) [opening, codePieces, Piece.Builtin, KnownTag.builtin, plain_number,
      SafeLinks.empty, SafeLinks.others, safeLinks_fragment, safeLinks_startAttribute, safeLinks_languageClass,
      safeLinks_checkboxAttributes]

theorem builtin_closing {id : NodeId} {kind : NodeKind} (found : renderer.document.kind? id = some kind) :
    ∀ piece ∈ renderer.closing id kind, piece.Builtin renderer := by
  cases kind with
  | heading level =>
    have named : KnownTag renderer.document s!"h{level}" := .inr ⟨id, level, found, rfl⟩
    simpa [closing.eq_def, Piece.Builtin] using named
  | paragraph =>
    have blank : (Piece.raw " ").Builtin renderer := .inl (by decide)
    have links := forall_mem_paragraphBackrefs blank builtin_backrefsPieces id
    unfold closing
    refine List.forall_mem_append.mpr ⟨links, ?_⟩
    cases renderer.omitsParagraphTag id <;> simp (disch := decide) [Piece.Builtin, KnownTag.builtin]
  | footnoteDefinition label number references =>
    have links := forall_mem_definitionBackrefs (show Piece.line.Builtin renderer from trivial) builtin_backrefsPieces id
    unfold closing
    refine List.forall_mem_append.mpr ⟨links, ?_⟩
    simp (disch := decide) [Piece.Builtin, KnownTag.builtin]
  | tableCell header alignment =>
    cases header <;> simp (disch := decide) [closing.eq_def, tableTag, Piece.Builtin, KnownTag.builtin]
  | _ => simp (disch := decide) [closing.eq_def, Piece.Builtin, KnownTag.builtin]

theorem builtin_section (id : NodeId) :
    (∀ piece ∈ sectionOpening id, piece.Builtin renderer) ∧ ∀ piece ∈ sectionClosing, piece.Builtin renderer := by
  constructor <;> simp (disch := first | decide | simp) [sectionOpening, sectionClosing, Piece.Builtin,
    KnownTag.builtin, SafeLinks.empty, SafeLinks.others]

end Renderer

end MarkdownHtml
