import MarkdownHtml.Proofs.AttributeBlocks
import MarkdownHtml.Proofs.CutTexts

/-! Images and the texts behind them. Whatever images are beside or inside of one another, an image finds behind it the
text that was there at the start: only the image itself cuts that text, and what is put behind a last child is no text. -/

namespace MarkdownHtml.Document

variable {doc now : Document} {image text : NodeId} {cut : Cut} {seen : List NodeId}

/-- What is cut for an image. -/
def imageCut? (doc : Document) (image : NodeId) : Option Cut :=
  match doc.kind? image, doc.next? image with
  | some (.image ..), some text =>
    match doc.kind? text with
    | some (.text literal) =>
      (readImageAttributes literal.toList).map fun (pairs, rest) => ⟨text, rest, .imageAttributes pairs⟩
    | _ => none
  | _, _ => none

private theorem attachTo_eq (doc : Document) (image : NodeId) : doc.attachTo image = match doc.imageCut? image with
    | some cut => doc.cutText .back image cut
    | none => doc := by
  unfold attachTo imageCut?
  cases doc.kind? image with
  | none => rfl
  | some kind =>
    cases kind with
    | image destination title =>
      cases doc.next? image with
      | none => rfl
      | some text =>
        dsimp only
        cases doc.kind? text with
        | none => rfl
        | some kind =>
          cases kind with
          | text literal =>
            dsimp only
            cases readImageAttributes literal.toList <;> rfl
          | _ => rfl
    | _ => rfl

/-- A block that stands behind an image: it begins the text there. -/
structure BlockBehind (doc : Document) (image : NodeId) (cut : Cut) : Prop where
  isImage : doc.type? image = some .image
  next : doc.next? image = some cut.text
  begins : ∃ block pairs, doc.kind? cut.text = some (.text (block ++ String.ofList cut.rest)) ∧ Bears block pairs ∧
    cut.leaf = .imageAttributes pairs

private theorem type_eq_image_iff {kind : NodeKind} :
    kind.type = .image ↔ ∃ destination title, kind = .image destination title := by
  cases kind <;> simp [NodeKind.type]

theorem imageCut?_iff : doc.imageCut? image = some cut ↔ doc.BlockBehind image cut := by
  constructor
  · intro found
    unfold imageCut? at found
    split at found
    next text isImage following =>
      split at found
      next literal isText =>
        obtain ⟨⟨pairs, rest⟩, read, same⟩ := Option.map_eq_some_iff.mp found
        cases same
        obtain ⟨block, spelled, bears⟩ := readImageAttributes_iff.mp read
        refine ⟨?_, following, block, pairs, by rw [isText, spelled], bears, rfl⟩
        rw [type?, isImage]
        rfl
      · cases found
    · cases found
  · obtain ⟨text, rest, leaf⟩ := cut
    rintro ⟨isImage, following, block, pairs, isText, bears, rfl⟩
    obtain ⟨kind, found, same⟩ := Option.map_eq_some_iff.mp isImage
    obtain ⟨destination, title, rfl⟩ := type_eq_image_iff.mp same
    have read : readImageAttributes (block ++ String.ofList rest).toList = some (pairs, rest) :=
      readImageAttributes_iff.mpr ⟨block, rfl, bears⟩
    simp only [imageCut?, found, following, isText, read, Option.map_some]

/-- Each text behind an image stands behind this image only. -/
theorem Linked.planned_imageCut? (linked : doc.Linked) : doc.Planned doc.imageCut? where
  linked := linked
  text image cut found := by
    obtain ⟨_, _, _, _, isText, _⟩ := imageCut?_iff.mp found
    exact ⟨_, isText⟩
  owner image cut found := by
    obtain ⟨isImage, following, _⟩ := imageCut?_iff.mp found
    refine ⟨holds_of_next following, fun literal isText => ?_⟩
    rw [type?, isText] at isImage
    cases isImage
  distinct image other cut cut' found found' same := by
    have following := (imageCut?_iff.mp found).next
    have following' := (imageCut?_iff.mp found').next
    rw [same] at following
    exact Option.some.inj (((linked.inverse _ _).mp following).symm.trans ((linked.inverse _ _).mp following'))
  ahead image cut previous literal found following isText := by
    obtain ⟨isImage, behind, _⟩ := imageCut?_iff.mp found
    cases ((linked.inverse _ _).mp following).symm.trans ((linked.inverse _ _).mp behind)
    rw [type?, isText] at isImage
    cases isImage

private theorem Linked.notCut (linked : doc.Linked) (unseen : image ∉ seen) (following : doc.next? image = some text) :
    ∀ other ∈ seen, ∀ cut ∈ doc.imageCut? other, cut.text ≠ text := by
  rintro other member cut planned rfl
  have before := (linked.inverse _ _).mp (imageCut?_iff.mp planned).next
  exact unseen (Option.some.inj (((linked.inverse _ _).mp following).symm.trans before) ▸ member)

private theorem Linked.next?_image (linked : doc.Linked) (cutting : Cutting .back doc.imageCut? doc seen now)
    (unseen : image ∉ seen) {parent : NodeId} (under : doc.parent? image = some parent)
    (isImage : doc.type? image = some .image) {literal : String} :
    now.next? image = some text ∧ now.kind? text = some (.text literal) ↔
      doc.next? image = some text ∧ doc.kind? text = some (.text literal) := by
  have plans := linked.planned_imageCut?
  obtain ⟨front, rest, row⟩ := List.append_of_mem (linked.mem_childIds.mpr under)
  obtain ⟨added, rowNow, leaves, kinds⟩ := cutting.rows parent (linked.wellFormed.holds_parent under)
  have stays : image ∉ emptied doc.imageCut? seen := by
    intro member
    obtain ⟨literal, isText⟩ := plans.isText_of_mem_emptied member
    rw [type?, isText] at isImage
    cases isImage
  rw [row, List.filter_append, List.filter_cons_of_pos (by simpa using stays), Side.join, List.append_assoc,
    List.cons_append] at rowNow
  rw [(linked.neighbours row).2, (cutting.linked.neighbours rowNow).2]
  cases rest with
  | nil =>
    rw [List.filter_nil, List.nil_append]
    refine ⟨fun both => ?_, fun both => by cases both.1⟩
    obtain ⟨added, rfl⟩ := List.head?_eq_some_iff.mp both.1
    rw [List.map_cons, both.2] at kinds
    split at kinds
    · cases planned : doc.imageCut? parent with
      | none =>
        rw [planned] at kinds
        cases kinds
      | some cut =>
        rw [planned] at kinds
        obtain ⟨_, _, _, _, _, _, leaf⟩ := imageCut?_iff.mp planned
        cases leaf.symm.trans (Option.some.inj (List.cons.inj kinds).1).symm
    · cases kinds
  | cons next rest =>
    have following : doc.next? image = some next := (linked.neighbours row).2
    have others := linked.notCut unseen following
    have kept : next ∉ emptied doc.imageCut? seen := notMem_emptied others
    have kind := cutting.kept next (linked.holds_of_follows following) others
    rw [List.filter_cons_of_pos (by simpa using kept), List.cons_append, List.head?_cons, List.head?_cons]
    refine and_congr_right fun same => ?_
    cases same
    rw [kind]

private theorem WellFormed.imageCut?_stable (wellFormed : doc.WellFormed) (held : doc.Holds root) {later : List NodeId}
    (whole : doc.descendants root = seen ++ image :: later) (begun : seen ≠ [])
    (cutting : Cutting .back doc.imageCut? doc seen now) : now.imageCut? image = doc.imageCut? image := by
  have linked := wellFormed.linked
  have distinct := wellFormed.nodup_descendants held
  rw [whole] at distinct
  have unseen : image ∉ seen := fun member =>
    (List.nodup_cons.mp (List.nodup_middle.mp distinct)).1 (List.mem_append_left _ member)
  have member : image ∈ doc.descendants root := whole ▸ List.mem_append_right _ (List.mem_cons_self ..)
  have within := (wellFormed.mem_descendants held).mp member
  have notRoot : image ≠ root := by
    rintro rfl
    obtain ⟨first, earlier, rfl⟩ := List.exists_cons_of_ne_nil begun
    rw [wellFormed.descendants_eq_subtree held, wellFormed.subtree_eq held] at whole
    exact unseen ((List.cons.inj whole).1 ▸ List.mem_cons_self ..)
  obtain ⟨parent, under, _⟩ := ancestor_iff.mp ((within_iff.mp within).resolve_left notRoot)
  have type := cutting.type?_eq linked.planned_imageCut? (within.holds held)
  refine Option.ext fun cut => ?_
  rw [imageCut?_iff, imageCut?_iff]
  constructor
  · rintro ⟨isImage, following, block, pairs, isText, bears, leaf⟩
    rw [type] at isImage
    obtain ⟨following, isText⟩ := (linked.next?_image cutting unseen under isImage).mp ⟨following, isText⟩
    exact ⟨isImage, following, block, pairs, isText, bears, leaf⟩
  · rintro ⟨isImage, following, block, pairs, isText, bears, leaf⟩
    obtain ⟨following, isText⟩ := (linked.next?_image cutting unseen under isImage).mpr ⟨following, isText⟩
    exact ⟨type.trans isImage, following, block, pairs, isText, bears, leaf⟩

theorem WellFormed.attached (wellFormed : doc.WellFormed) (held : doc.Holds root) :
    Cutting .back doc.imageCut? doc (doc.descendants root) doc.attachImageAttributes :=
  wellFormed.linked.planned_imageCut?.run attachTo_eq
    (fun _ _ _ _ whole begun cutting => wellFormed.imageCut?_stable held whole begun cutting)
    (wellFormed.nodup_descendants held)

/-- A text is read as a block and a rest if and only if it is one, and so are printed attributes before any rest. In a
document, the blocks behind images are cut from their texts and come below their images, and that is all. -/
theorem attributes_attached :
    (∀ (text : String) (pairs : List (String × String)) (consumed : Nat), imageBlock? text = some (pairs, consumed) ↔
      ∃ block rest, text = block ++ rest ∧ Bears block pairs ∧ consumed = block.utf8ByteSize) ∧
    (∀ (pairs : List (String × String)) (rest : String), pairs ≠ [] → (∀ pair ∈ pairs, ProperPair pair) →
      (∀ pair ∈ pairs, ∀ c ∈ pair.2.toList, Text.isSpace c = false ∧ c ≠ '\x7d') →
      imageBlock? (printed pairs ++ rest) = some (pairs, (printed pairs).utf8ByteSize) ∧
        (printed pairs ++ rest).toByteArray.extract (printed pairs).utf8ByteSize (printed pairs ++ rest).utf8ByteSize =
          rest.toByteArray) ∧
    ∀ doc : Document, doc.WellFormed → doc.Holds root →
      doc.attachImageAttributes.WellFormed ∧
      (∀ image cut, doc.imageCut? image = some cut ↔ doc.BlockBehind image cut) ∧
      Cutting .back doc.imageCut? doc (doc.descendants root) doc.attachImageAttributes := by
  refine ⟨fun text pairs consumed => imageBlock?_iff, fun pairs rest some_ proper plain => ⟨?_, extract_append ..⟩,
    fun doc wellFormed held => ?_⟩
  · exact imageBlock?_iff.mpr ⟨_, rest, rfl, bears_printed some_ proper plain, rfl⟩
  · have attached := wellFormed.attached held
    exact ⟨attached.linked.wellFormed, fun image cut => imageCut?_iff, attached⟩

/-- Two images in a row, each with a block behind it. Nothing is left of the first text, and a letter of two bytes of
the second one. -/
theorem attributes_attached_twice :
    let pairs := [("width", "1"), ("height", "\u00e9")]
    imageBlock? (printed pairs ++ " a") = some (pairs, (printed pairs).utf8ByteSize) ∧ (printed pairs).utf8ByteSize = 19 ∧
    ∃ doc : Document, doc.WellFormed ∧ doc.Holds root ∧
      doc.childIds ⟨1⟩ = [⟨2⟩, ⟨3⟩, ⟨4⟩, ⟨5⟩] ∧ doc.kind? ⟨5⟩ = some (.text "\x7bheight=2\x7d\u00e9") ∧
      Cutting .back doc.imageCut? doc (doc.descendants root) doc.attachImageAttributes ∧
      doc.attachImageAttributes.childIds ⟨1⟩ = [⟨2⟩, ⟨4⟩, ⟨5⟩] ∧
      doc.attachImageAttributes.childIds ⟨4⟩ = [⟨7⟩] ∧
      doc.attachImageAttributes.kind? ⟨5⟩ = some (.text "\u00e9") ∧
      doc.attachImageAttributes.kind? ⟨7⟩ = some (.imageAttributes [("height", "2")]) := by
  intro pairs
  let paragraph := (Document.empty.appendNew root .paragraph).2
  let first := ((paragraph.appendNew ⟨1⟩ (.image "a" none)).2.appendNew ⟨1⟩ (.text "\x7bwidth=1\x7d")).2
  let doc := ((first.appendNew ⟨1⟩ (.image "b" none)).2.appendNew ⟨1⟩ (.text "\x7bheight=2\x7d\u00e9")).2
  have started : paragraph.Linked := Linked.empty.appendNew (by decide) _
  have linked : first.Linked := (started.appendNew (by decide) _).appendNew (by decide) _
  have wellFormed : doc.WellFormed := ((linked.appendNew (by decide) _).appendNew (by decide) _).wellFormed
  have held : doc.Holds root := by decide
  obtain ⟨_, printing, attaching⟩ := attributes_attached
  have plain : (pairs.all fun pair => pair.2.toList.all fun c => !Text.isSpace c && c != '\x7d') = true := by decide
  have read := (printing pairs " a" (by decide) (by decide) (by simpa using plain)).1
  obtain ⟨_, _, attached⟩ := attaching doc wellFormed held
  exact ⟨read, by decide, doc, wellFormed, held, by decide, by decide, attached, by decide +kernel, by decide +kernel,
    by decide +kernel, by decide +kernel⟩

end MarkdownHtml.Document
