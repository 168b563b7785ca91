import MarkdownHtml.Proofs.UrlProtocols
import Mathlib.Data.List.TakeWhile

/-! What a destination is after it has been prepared, and that preparing it again changes nothing. Blanks are cut off
only at the ends, and a text without blanks at its ends and with a safe protocol is left alone. An encoding works on
the bytes of a text and leaves nothing that it would encode, blanks included, so it leaves nothing to cut off either. -/

namespace MarkdownHtml

namespace Url

/-- The text has no blank at either end. -/
def Solid (text : List Char) : Prop :=
  (∀ c ∈ text.head?, isOuterBlank c = false) ∧ ∀ c ∈ text.getLast?, isOuterBlank c = false

/-- A text without the blanks at its ends. -/
def Trims (text trimmed : List Char) : Prop :=
  Solid trimmed ∧ ∃ front back, text = front ++ trimmed ++ back ∧
    (∀ c ∈ front, isOuterBlank c) ∧ ∀ c ∈ back, isOuterBlank c

/-- A destination without the blanks at its ends if it is safe, and nothing otherwise. -/
def Sanitized (destination url : String) : Prop :=
  ∃ trimmed : String, Trims destination.toList trimmed.toList ∧
    (Safe trimmed ∧ url = trimmed ∨ ¬Safe trimmed ∧ url = "")

/-- A printable ASCII character that may stand in a destination as it is. -/
def Plain (c : Char) : Prop :=
  0x20 < c.toNat ∧ c.toNat < 0x7f ∧ c ∉ ['"', '<', '>', '\\', '^', '\x60', '\x7b', '|', '\x7d']

instance (c : Char) : Decidable (Plain c) := inferInstanceAs (Decidable (_ ∧ _))

/-- The bytes of a text in UTF-8. -/
def octets (text : String) : List UInt8 := text.toList.flatMap String.utf8EncodeChar

/-- A byte beyond ASCII, or of a character that may not stand as it is, becomes an escape. -/
def encodeOctet (octet : UInt8) : List Char :=
  if 0x80 ≤ octet.toNat ∨ isEncoded (Char.ofNat octet.toNat) then encodeByte octet else [Char.ofNat octet.toNat]

/-! Trimming. -/

private theorem head?_dropBlank (text : List Char) :
    ∀ c ∈ (text.dropWhile isOuterBlank).head?, isOuterBlank c = false := by
  intro c first
  have stops := List.head?_dropWhile_not isOuterBlank text
  rwa [Option.mem_def.mp first] at stops

private theorem dropBlank_eq_self {text : List Char} (solid : ∀ c ∈ text.head?, isOuterBlank c = false) :
    text.dropWhile isOuterBlank = text := by
  cases text with
  | nil => rfl
  | cons c text => exact List.dropWhile_cons_of_neg (Bool.eq_false_iff.mp (solid c rfl))

private theorem trims_trimBlank (text : List Char) : Trims text (trimBlank text) := by
  let inner := text.dropWhile isOuterBlank
  have front : text = text.takeWhile isOuterBlank ++ inner := List.takeWhile_append_dropWhile.symm
  have back : inner = trimBlank text ++ (inner.reverse.takeWhile isOuterBlank).reverse := by
    rw [trimBlank, ← List.reverse_append, List.takeWhile_append_dropWhile, List.reverse_reverse]
  refine ⟨⟨fun c first => head?_dropBlank text c ?_, fun c last => head?_dropBlank inner.reverse c ?_⟩, _, _,
    front.trans ((congrArg _ back).trans (List.append_assoc ..).symm), fun c => List.mem_takeWhile_imp, fun c member => ?_⟩
  · -- What is cut off behind a text is not all of it, so the text keeps its first character.
    rw [show text.dropWhile isOuterBlank = inner from rfl, back, List.head?_append, Option.mem_def.mp first]
    rfl
  · rw [← List.head?_reverse, trimBlank, List.reverse_reverse] at last
    exact last
  · exact List.mem_takeWhile_imp (List.mem_reverse.mp member)

private theorem trimBlank_of_solid {text : List Char} (solid : Solid text) : trimBlank text = text := by
  have last : ∀ c ∈ text.reverse.head?, isOuterBlank c = false := by
    rw [List.head?_reverse]
    exact solid.2
  rw [trimBlank, dropBlank_eq_self solid.1, dropBlank_eq_self last, List.reverse_reverse]

private theorem sanitized_sanitize (destination : String) : Sanitized destination (sanitize destination) := by
  let trimmed := String.ofList (trimBlank destination.toList)
  have cut : trimmed.toList = trimBlank destination.toList := String.toList_ofList
  have trims : Trims destination.toList trimmed.toList := by
    rw [cut]
    exact trims_trimBlank destination.toList
  refine ⟨trimmed, trims, ?_⟩
  dsimp only [sanitize]
  cases found : protocol? (trimBlank destination.toList) with
  | none =>
    refine .inl ⟨.inl ?_, rfl⟩
    rw [beforeEnd, cut]
    exact protocol?_none found
  | some protocol =>
    rw [← cut] at found
    have safe := safe_iff_of_protocol? found
    by_cases known : safeProtocols.contains (Text.lowercase (String.ofList protocol)) = true
    · exact .inl ⟨safe.mpr known, if_pos known⟩
    · exact .inr ⟨mt safe.mp known, if_neg known⟩

private theorem sanitize_eq_self {url : String} (solid : Solid url.toList) (safe : Safe url) : sanitize url = url := by
  dsimp only [sanitize]
  rw [trimBlank_of_solid solid, String.ofList_toList]
  cases found : protocol? url.toList with
  | none => rfl
  | some protocol => exact if_pos ((safe_iff_of_protocol? found).mp safe)

private theorem sanitize_again (destination : String) : sanitize (sanitize destination) = sanitize destination := by
  obtain ⟨trimmed, ⟨solid, _⟩, ⟨safe, same⟩ | ⟨_, blank⟩⟩ := sanitized_sanitize destination
  · rw [same, sanitize_eq_self solid safe]
  · rw [blank]
    rfl

/-! Percent escapes. -/

private theorem plain_iff {c : Char} : Plain c ↔ isEncoded c = false := by
  have blank : c = ' ' ↔ c.toNat = 0x20 := Char.toNat_inj.symm
  rw [isEncoded, Bool.or_eq_false_iff, Bool.or_eq_false_iff, decide_eq_false_iff_not, decide_eq_false_iff_not,
    List.contains_eq_mem, decide_eq_false_iff_not, List.mem_cons, not_or, blank, Plain]
  constructor
  · rintro ⟨low, high, other⟩
    exact ⟨⟨by omega, by omega⟩, by omega, other⟩
  · rintro ⟨⟨low, high⟩, space, other⟩
    exact ⟨by omega, by omega, other⟩

private theorem plain_hexDigit : ∀ n < 16, Plain (hexDigit n) := by decide

private theorem plain_encodeOctet (octet : UInt8) : ∀ c ∈ encodeOctet octet, Plain c := by
  intro c member
  have small : octet.toNat < 256 := octet.toNat_lt
  unfold encodeOctet at member
  split at member
  next =>
    simp only [encodeByte, List.mem_cons, List.not_mem_nil, or_false] at member
    rcases member with rfl | rfl | rfl
    · decide
    · exact plain_hexDigit _ (by omega)
    · exact plain_hexDigit _ (by omega)
  next kept =>
    obtain rfl := List.mem_singleton.mp member
    exact plain_iff.mpr (Bool.eq_false_iff.mpr fun encoded => kept (.inr encoded))

private theorem utf8EncodeChar_ascii {c : Char} (ascii : c.toNat < 0x80) :
    String.utf8EncodeChar c = [UInt8.ofNat c.toNat] := if_pos (Nat.le_of_lt_succ ascii)

private theorem le_of_mem_utf8EncodeChar {c : Char} (beyond : 0x80 ≤ c.toNat) :
    ∀ octet ∈ String.utf8EncodeChar c, 0x80 ≤ octet.toNat := by
  intro octet member
  have several : ¬c.val.toNat ≤ 0x7f := Nat.not_le.mpr beyond
  have marked : ∀ n mark : Nat, 0x80 ≤ mark → n + mark < 0x100 → 0x80 ≤ (UInt8.ofNat (n + mark)).toNat := by
    intro n mark high fits
    rw [UInt8.toNat_ofNat']
    omega
  simp only [String.utf8EncodeChar, if_neg several] at member
  split at member
  next =>
    simp only [List.mem_cons, List.not_mem_nil, or_false] at member
    rcases member with rfl | rfl <;> exact marked _ _ (by decide) (by omega)
  next =>
    split at member
    next =>
      simp only [List.mem_cons, List.not_mem_nil, or_false] at member
      rcases member with rfl | rfl | rfl <;> exact marked _ _ (by decide) (by omega)
    next =>
      simp only [List.mem_cons, List.not_mem_nil, or_false] at member
      rcases member with rfl | rfl | rfl | rfl <;> exact marked _ _ (by decide) (by omega)

private theorem encodeChar_octets (c : Char) : encodeChar c = (String.utf8EncodeChar c).flatMap encodeOctet := by
  by_cases ascii : c.toNat < 0x80
  · have same : (UInt8.ofNat c.toNat).toNat = c.toNat := Nat.mod_eq_of_lt (by omega)
    rw [utf8EncodeChar_ascii ascii, List.flatMap_singleton, encodeOctet, same, Char.ofNat_toNat, encodeChar,
      utf8EncodeChar_ascii ascii, List.flatMap_singleton]
    simp only [Nat.not_le.mpr ascii, false_or]
  · have encoded : isEncoded c := by
      unfold isEncoded
      simp only [Bool.or_eq_true, decide_eq_true_eq]
      omega
    rw [encodeChar, if_pos encoded]
    exact List.flatMap_congr fun octet member =>
      (if_pos (.inl (le_of_mem_utf8EncodeChar (Nat.not_lt.mp ascii) octet member))).symm

private theorem toList_percentEncode (url : String) :
    (percentEncode url).toList = (octets url).flatMap encodeOctet := by
  rw [percentEncode, String.toList_ofList, octets, List.flatMap_assoc]
  exact List.flatMap_congr fun c _ => encodeChar_octets c

private theorem plain_percentEncode (url : String) : ∀ c ∈ (percentEncode url).toList, Plain c := by
  rw [toList_percentEncode]
  intro c member
  obtain ⟨octet, _, member⟩ := List.mem_flatMap.mp member
  exact plain_encodeOctet octet c member

private theorem percentEncode_eq_self {url : String} (plain : ∀ c ∈ url.toList, Plain c) : percentEncode url = url := by
  have kept : ∀ c ∈ url.toList, encodeChar c = [c] := fun c member => by
    rw [encodeChar, plain_iff.mp (plain c member)]
    rfl
  rw [percentEncode, List.flatMap_congr kept, List.flatMap_singleton', String.ofList_toList]

private theorem Plain.not_blank {c : Char} (plain : Plain c) : isOuterBlank c = false := by
  refine Bool.eq_false_iff.mpr fun blank => ?_
  simp only [isOuterBlank, Bool.or_eq_true, beq_iff_eq] at blank
  rcases blank with (((rfl | rfl) | rfl) | rfl) | rfl <;> exact absurd plain.1 (by decide)

private theorem solid_of_plain {text : List Char} (plain : ∀ c ∈ text, Plain c) : Solid text :=
  ⟨fun c first => (plain c (List.mem_of_mem_head? first)).not_blank,
    fun c last => (plain c (List.mem_of_mem_getLast? last)).not_blank⟩

/-- An encoding leaves no blank at the ends, and a safe destination stays safe. -/
theorem sanitize_percentEncode {url : String} (safe : Safe url) : sanitize (percentEncode url) = percentEncode url :=
  sanitize_eq_self (solid_of_plain (plain_percentEncode url)) (safe_percentEncode safe)

end Url

namespace Renderer
open Url

/-- A destination is sanitized and encoded as the options ask for, and preparing it again changes nothing. -/
theorem prepareUrl_again (options : RendererOptions) (destination : String) :
    let url := prepareUrl options destination
    prepareUrl options url = url ∧
      ∃ kept : String, (if options.sanitizeUrls then Sanitized destination kept else kept = destination) ∧
        if options.percentEncodeUrls then url.toList = (octets kept).flatMap encodeOctet ∧ ∀ c ∈ url.toList, Plain c
        else url = kept := by
  intro url
  let kept := if options.sanitizeUrls then sanitize destination else destination
  have made : url = if options.percentEncodeUrls then percentEncode kept else kept := rfl
  have wanted : if options.sanitizeUrls then Sanitized destination kept else kept = destination := by
    split
    next sanitizes =>
      rw [show kept = sanitize destination from if_pos sanitizes]
      exact sanitized_sanitize destination
    next plain => exact if_neg plain
  have clean : (if options.sanitizeUrls then sanitize url else url) = url := by
    split
    next sanitizes =>
      rw [made, show kept = sanitize destination from if_pos sanitizes]
      split
      · exact sanitize_percentEncode (safe_sanitize destination)
      · exact sanitize_again destination
    next => rfl
  have encoded : if options.percentEncodeUrls then
      url.toList = (octets kept).flatMap encodeOctet ∧ ∀ c ∈ url.toList, Plain c else url = kept := by
    split
    next encodes =>
      rw [made, if_pos encodes]
      exact ⟨toList_percentEncode kept, plain_percentEncode kept⟩
    next plain => rw [made, if_neg plain]
  refine ⟨?_, kept, wanted, encoded⟩
  unfold prepareUrl
  rw [clean]
  split
  next encodes =>
    rw [if_pos encodes] at encoded
    exact percentEncode_eq_self encoded.2
  next => rfl

end Renderer

end MarkdownHtml
