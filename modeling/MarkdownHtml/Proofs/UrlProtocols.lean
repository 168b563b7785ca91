import MarkdownHtml.Render.State
import Mathlib.Data.List.Basic

/-! The protocols of destinations. A destination that has been sanitized has a safe protocol or none, and percent
escapes, which hold neither a colon nor an end of a protocol, leave it so. The protocol is compared in lowercase. No
character beyond ASCII has a small form within ASCII but for two, of which the safe protocols have no trace. -/

namespace MarkdownHtml

namespace Text

private theorem findBetween_some {range : α → Nat × Nat} {table : Array α} {n low high : Nat} {entry : α}
    (found : findBetween range table n low high = some entry) :
    entry ∈ table ∧ (range entry).1 ≤ n ∧ n ≤ (range entry).2 := by
  fun_induction findBetween range table n low high with
  | case1 => cases found
  | case2 low high inside middle other held below ih => exact ih found
  | case3 low high inside middle other held notBelow above ih => exact ih found
  | case4 low high inside middle other held notBelow notAbove =>
    cases found
    exact ⟨Array.mem_of_getElem? held, by omega, by omega⟩
  | case5 => cases found

def CaseRun.Beyond (run : CaseRun) : Prop :=
  0x80 ≤ run.target ∧ (run.target + (run.last - run.first) < 0xd800 ∨
    0xdfff < run.target ∧ run.target + (run.last - run.first) < 0x110000)

instance (run : CaseRun) : Decidable run.Beyond := inferInstanceAs (Decidable (_ ∧ _))

deriving instance DecidableEq for CaseRun

/-- The Kelvin sign is the one capital that has its small letter within ASCII. -/
theorem lowercaseRuns_beyond : ∀ run ∈ lowercaseRuns.toList, run.Beyond ∨ run = ⟨0x212a, 0x212a, 1, 0x6b⟩ := by
  decide +kernel

private theorem smallLetter?_ascii {c small : Char} (found : smallLetter? c = some small) (ascii : small.toNat < 0x80) :
    small = 'k' := by
  simp only [smallLetter?, Option.bind_eq_bind, Option.bind_eq_some_iff, Option.ite_none_right_eq_some,
    Option.some.injEq] at found
  obtain ⟨run, here, _, rfl⟩ := found
  obtain ⟨member, first, last⟩ := findBetween_some here
  rcases lowercaseRuns_beyond run (Array.mem_def.mp member) with ⟨beyond, valid⟩ | rfl
  · have valid : (run.target + (c.toNat - run.first)).isValidChar := by unfold Nat.isValidChar; omega
    rw [Char.ofNat, dif_pos valid] at ascii
    exact absurd ascii (Nat.not_lt.mpr (Nat.le_add_right_of_le beyond))
  · obtain same : c.toNat = 0x212a := by simp only at first last; omega
    rw [same]
    rfl

private theorem lowercaseChar_ascii {c : Char} (plain : ∀ small ∈ lowercaseChar c, small.toNat < 0x80 ∧ small ≠ 'k') :
    lowercaseChar c = [c.toLower] := by
  by_cases inside : c.toNat < 0x80
  · exact if_pos inside
  · by_cases dotted : c = '\u0130'
    · -- The dot of the capital stays behind as a mark of its own.
      subst dotted
      exact absurd (plain '\u0307' (by decide)).1 (by decide)
    · have small : lowercaseChar c = [(smallLetter? c).getD c] := by
        unfold lowercaseChar
        rw [if_neg inside, if_neg dotted]
      obtain ⟨ascii, noK⟩ := plain _ (small ▸ List.mem_singleton_self _)
      cases found : smallLetter? c with
      | none =>
        rw [found] at ascii
        exact absurd ascii inside
      | some letter =>
        rw [found] at ascii noK
        exact absurd (smallLetter?_ascii found ascii) noK

/-- A text whose lowercase lies within ASCII and has no k lies within ASCII itself. -/
theorem lowercaseFrom_ascii (before rest : List Char)
    (plain : ∀ small ∈ lowercaseFrom before rest, small.toNat < 0x80 ∧ small ≠ 'k') :
    lowercaseFrom before rest = rest.map Char.toLower := by
  induction rest generalizing before with
  | nil => rfl
  | cons c rest ih =>
    rw [lowercaseFrom, List.forall_mem_append] at plain
    obtain ⟨first, later⟩ := plain
    rw [lowercaseFrom, ih (c :: before) later, List.map_cons]
    split at first
    next sigma => split at first <;> exact absurd (first _ (List.mem_singleton_self _)).1 (by decide)
    next other => rw [if_neg other, lowercaseChar_ascii first, List.singleton_append]

private theorem lowercaseFrom_of_ascii (before : List Char) {rest : List Char} (ascii : ∀ c ∈ rest, c.toNat < 0x80) :
    lowercaseFrom before rest = rest.map Char.toLower := by
  induction rest generalizing before with
  | nil => rfl
  | cons c rest ih =>
    obtain ⟨here, later⟩ := List.forall_mem_cons.mp ascii
    have noSigma : c ≠ '\u03a3' := by
      rintro rfl
      exact absurd here (by decide)
    rw [lowercaseFrom, if_neg noSigma, ih (c :: before) later, lowercaseChar, if_pos here]
    rfl

end Text

namespace Url

/-- Where a protocol ends if no colon has come before. -/
def endsProtocol (c : Char) : Bool := c == '/' || c == '?' || c == '#'

def beforeEnd (url : String) : List Char := url.toList.takeWhile fun c => !endsProtocol c

def beforeColon (url : String) : List Char := url.toList.takeWhile (· != ':')

/-- A destination without a protocol, or with one that is known to be safe. -/
def Safe (url : String) : Prop :=
  ':' ∉ beforeEnd url ∨ ':' ∈ url.toList ∧ ∃ name ∈ safeProtocols, (beforeColon url).map Char.toLower = name.toList

private theorem protocol?_cons (c : Char) (rest : List Char) :
    protocol? (c :: rest) =
      if endsProtocol c then none else if c = ':' then some [] else (protocol? rest).map (c :: ·) := by
  rw [protocol?]
  congr 1
  simp [endsProtocol, or_assoc]

theorem protocol?_none {url : List Char} (none : protocol? url = none) :
    ':' ∉ url.takeWhile fun c => !endsProtocol c := by
  induction url with
  | nil => exact List.not_mem_nil
  | cons c rest ih =>
    rw [protocol?_cons] at none
    rw [List.takeWhile_cons]
    split at none
    next ends => simp [ends]
    next goes =>
      split at none
      next => cases none
      next other => simp [goes, ih (Option.map_eq_none_iff.mp none), Ne.symm other]

private theorem protocol?_some {url protocol : List Char} (found : protocol? url = some protocol) :
    ':' ∈ url ∧ protocol = url.takeWhile (· != ':') := by
  induction url generalizing protocol with
  | nil => cases found
  | cons c rest ih =>
    rw [protocol?_cons] at found
    split at found
    next => cases found
    next =>
      split at found
      next colon =>
        cases found
        simp [colon]
      next other =>
        obtain ⟨inner, held, rfl⟩ := Option.map_eq_some_iff.mp found
        obtain ⟨member, same⟩ := ih held
        exact ⟨List.mem_cons_of_mem c member, by simp [other, same]⟩

private theorem safeProtocols_plain :
    ∀ name ∈ safeProtocols, ∀ c ∈ name.toList, c.toNat < 0x80 ∧ c ≠ 'k' ∧ ¬isEncoded c := by
  have plain : safeProtocols.all fun name => name.toList.all fun c => c.toNat < 0x80 ∧ c ≠ 'k' ∧ ¬isEncoded c := by
    decide
  simpa only [List.all_eq_true, decide_eq_true_eq] using plain

private theorem colon_of_protocol? {url protocol : List Char} (found : protocol? url = some protocol) :
    ':' ∈ url.takeWhile fun c => !endsProtocol c := by
  induction url generalizing protocol with
  | nil => cases found
  | cons c rest ih =>
    rw [protocol?_cons] at found
    split at found
    next => cases found
    next goes =>
      rw [List.takeWhile_cons_of_pos (by simpa using goes)]
      split at found
      next colon => exact colon ▸ List.mem_cons_self
      next =>
        obtain ⟨inner, held, _⟩ := Option.map_eq_some_iff.mp found
        exact List.mem_cons_of_mem c (ih held)

private theorem ascii_of_toLower {c : Char} (ascii : c.toLower.toNat < 0x80) : c.toNat < 0x80 := by
  by_cases capital : 65 ≤ c.toNat ∧ c.toNat ≤ 90
  · omega
  · rwa [show c.toLower = c from dif_neg capital] at ascii

theorem safe_iff_of_protocol? {url : String} {protocol : List Char} (found : protocol? url.toList = some protocol) :
    Safe url ↔ safeProtocols.contains (Text.lowercase (String.ofList protocol)) := by
  obtain ⟨colon, same⟩ := protocol?_some found
  have spelled : protocol = beforeColon url := same
  rw [List.contains_iff_mem, Text.lowercase, String.toList_ofList]
  constructor
  · rintro (relative | ⟨_, name, known, lower⟩)
    · exact absurd (colon_of_protocol? found) relative
    · have ascii : ∀ c ∈ protocol, c.toNat < 0x80 := by
        intro c member
        have small : c.toLower ∈ name.toList := lower ▸ List.mem_map_of_mem (spelled ▸ member)
        exact ascii_of_toLower (safeProtocols_plain name known _ small).1
      rwa [Text.lowercaseFrom_of_ascii [] ascii, spelled, lower, String.ofList_toList]
  · intro known
    have plain := safeProtocols_plain _ known
    rw [String.toList_ofList] at plain
    have lower := Text.lowercaseFrom_ascii [] protocol fun c member => ⟨(plain c member).1, (plain c member).2.1⟩
    exact .inr ⟨colon, _, known, by rw [String.toList_ofList, lower, spelled]⟩

theorem safe_sanitize (url : String) : Safe (sanitize url) := by
  dsimp only [sanitize]
  split
  next protocol found =>
    rw [← String.toList_ofList (l := trimBlank url.toList)] at found
    split
    next known => exact (safe_iff_of_protocol? found).mpr known
    next => exact .inl List.not_mem_nil
  next none =>
    refine .inl ?_
    rw [beforeEnd, String.toList_ofList]
    exact protocol?_none none

private theorem toLower_of_isEncoded {c : Char} (encoded : isEncoded c) : c.toLower = c := by
  -- What is encoded is no letter, so it has no other case.
  have noCapital : ¬(65 ≤ c.toNat ∧ c.toNat ≤ 90) := by
    simp only [isEncoded, Bool.or_eq_true, decide_eq_true_eq, List.contains_iff_mem, List.mem_cons, List.not_mem_nil,
      or_false] at encoded
    rcases encoded with (low | high) | special
    · omega
    · omega
    · rcases special with rfl | rfl | rfl | rfl | rfl | rfl | rfl | rfl | rfl | rfl <;> decide
  unfold Char.toLower
  exact dif_neg noCapital

private theorem encodeChar_kept {c : Char} (kept : endsProtocol c = true ∨ c = ':') : encodeChar c = [c] := by
  have plain : isEncoded c = false := by
    simp only [endsProtocol, Bool.or_eq_true, beq_iff_eq] at kept
    rcases kept with ((rfl | rfl) | rfl) | rfl <;> decide
  rw [encodeChar, plain]
  rfl

private theorem hexDigit_inside : ∀ n < 16, endsProtocol (hexDigit n) = false ∧ hexDigit n ≠ ':' := by decide

private theorem mem_encodeChar {c d : Char} (member : d ∈ encodeChar c) : d = c ∨ endsProtocol d = false ∧ d ≠ ':' := by
  unfold encodeChar at member
  split at member
  · right
    obtain ⟨byte, _, member⟩ := List.mem_flatMap.mp member
    have small : byte.toNat < 256 := byte.toNat_lt
    simp only [encodeByte, List.mem_cons, List.not_mem_nil, or_false] at member
    rcases member with rfl | rfl | rfl
    · decide
    · exact hexDigit_inside _ (by omega)
    · exact hexDigit_inside _ (by omega)
  · exact .inl (List.mem_singleton.mp member)

private theorem takeWhile_flatMap {goes : α → Bool} {encode : α → List α} (stops : ∀ c, goes c = false → encode c = [c])
    (inside : ∀ c, goes c = true → ∀ d ∈ encode c, goes d = true) (text : List α) :
    (text.flatMap encode).takeWhile goes = (text.takeWhile goes).flatMap encode := by
  induction text with
  | nil => rfl
  | cons c rest ih =>
    rw [List.flatMap_cons, List.takeWhile_cons]
    cases held : goes c with
    | false => simp [stops c held, held]
    | true => rw [List.takeWhile_append_of_pos (inside c held), ih, if_pos rfl, List.flatMap_cons]

private theorem beforeEnd_percentEncode (url : String) :
    beforeEnd (percentEncode url) = (beforeEnd url).flatMap encodeChar := by
  rw [beforeEnd, percentEncode, String.toList_ofList]
  refine takeWhile_flatMap (fun c stops => encodeChar_kept (.inl (by simpa using stops))) (fun c goes d member => ?_) _
  rcases mem_encodeChar member with rfl | ⟨inside, _⟩
  · exact goes
  · rw [inside]
    rfl

private theorem beforeColon_percentEncode (url : String) :
    beforeColon (percentEncode url) = (beforeColon url).flatMap encodeChar := by
  rw [beforeColon, percentEncode, String.toList_ofList]
  refine takeWhile_flatMap (fun c stops => encodeChar_kept (.inr (by simpa using stops))) (fun c goes d member => ?_) _
  rcases mem_encodeChar member with rfl | ⟨_, other⟩
  · exact goes
  · exact bne_iff_ne.mpr other

private theorem colon_mem_flatMap {text : List Char} : ':' ∈ text.flatMap encodeChar ↔ ':' ∈ text := by
  rw [List.mem_flatMap]
  constructor
  · rintro ⟨c, member, inside⟩
    rcases mem_encodeChar inside with rfl | ⟨_, other⟩
    · exact member
    · exact absurd rfl other
  · exact fun member => ⟨':', member, by decide⟩

theorem safe_percentEncode {url : String} (safe : Safe url) : Safe (percentEncode url) := by
  rcases safe with relative | ⟨colon, name, known, same⟩
  · left
    rwa [beforeEnd_percentEncode, colon_mem_flatMap]
  · refine .inr ⟨?_, name, known, ?_⟩
    · rwa [percentEncode, String.toList_ofList, colon_mem_flatMap]
    · -- Nothing of the protocol is encoded, in whatever case it is written.
      have kept : ∀ c ∈ beforeColon url, encodeChar c = [c] := by
        intro c member
        have lower : c.toLower ∈ name.toList := same ▸ List.mem_map_of_mem member
        have plain : ¬isEncoded c := by
          intro encoded
          rw [toLower_of_isEncoded encoded] at lower
          exact (safeProtocols_plain name known c lower).2.2 encoded
        rw [encodeChar, if_neg plain]
      rw [beforeColon_percentEncode, List.flatMap_congr kept, List.flatMap_singleton', same]

end Url

namespace Renderer

theorem safe_prepareUrl {options : RendererOptions} (sanitizes : options.sanitizeUrls = true) (destination : String) :
    Url.Safe (prepareUrl options destination) := by
  have safe := Url.safe_sanitize destination
  unfold prepareUrl
  rw [if_pos sanitizes]
  dsimp only
  split
  · exact Url.safe_percentEncode safe
  · exact safe

end Renderer

end MarkdownHtml
