import MarkdownHtml.OrderedMap
import Mathlib.Data.List.Induction
import Mathlib.Data.List.Nodup

/-! Maps with one value for each of some keys, in the order in which the keys come up first. A value that is put in
for one more key keeps a map in this form, whether the key has come up before or not. -/

namespace MarkdownHtml

variable {α β : Type} [DecidableEq α]

/-- One more entry goes to the end, unless it is there already. -/
theorem eraseDups_concat (keys : List α) (key : α) :
    (keys ++ [key]).eraseDups = if key ∈ keys then keys.eraseDups else keys.eraseDups ++ [key] := by
  rw [List.eraseDups_append]
  split
  next member => simp [List.removeAll, member]
  next fresh => simp [List.removeAll, fresh, List.eraseDups_cons]

/-- Places among entries that differ stay where they are when more entries come. -/
theorem idxOf_eraseDups_append {keys : List α} {key : α} (member : key ∈ keys) (later : List α) :
    (keys ++ later).eraseDups.idxOf key = keys.eraseDups.idxOf key := by
  rw [List.eraseDups_append, List.idxOf_append_of_mem (List.mem_eraseDups.mpr member)]

theorem nodup_eraseDups (keys : List α) : keys.eraseDups.Nodup := by
  induction keys using List.reverseRecOn with
  | nil => exact List.nodup_nil
  | append_singleton keys key ih =>
    rw [eraseDups_concat]
    split
    · exact ih
    next fresh => simpa using ih.concat fun member => fresh (List.mem_eraseDups.mp member)

namespace OrderedMap

variable {map : OrderedMap α β} {keys : List α} {values after : α → β}

def Lists (keys : List α) (values : α → β) (map : OrderedMap α β) : Prop :=
  map.entries = keys.eraseDups.map fun key => (key, values key)

section
variable (key : α) (values : α → β)

private theorem find?_map_keys (keys : List α) :
    ((keys.map fun other => (other, values other)).find? fun entry => entry.1 == key).map (·.2) =
      if key ∈ keys then some (values key) else none := by
  induction keys with
  | nil => rfl
  | cons other rest ih =>
    by_cases here : other = key
    · simp [here]
    · have there : key ≠ other := fun same => here same.symm
      simpa [here, there] using ih

private theorem insertEntry_map_keys (value : β) {keys : List α} (distinct : keys.Nodup) :
    insertEntry key value (keys.map fun other => (other, values other)) =
      if key ∈ keys then keys.map fun other => (other, if other = key then value else values other)
      else (keys.map fun other => (other, values other)) ++ [(key, value)] := by
  induction keys with
  | nil => rfl
  | cons first rest ih =>
    obtain ⟨outside, distinct⟩ := List.nodup_cons.mp distinct
    rw [List.map_cons, insertEntry, ih distinct]
    by_cases here : first = key
    · subst here
      have others : ∀ other ∈ rest, other ≠ first := fun other member same => outside (same ▸ member)
      simp +contextual [others]
    · have there : key ≠ first := fun same => here same.symm
      by_cases later : key ∈ rest <;> simp [here, there, later]

end

namespace Lists

theorem start (values : α → β) : ({} : OrderedMap α β).Lists [] values := rfl

theorem get? (lists : map.Lists keys values) (key : α) :
    map.get? key = if key ∈ keys then some (values key) else none := by
  rw [OrderedMap.get?, lists, find?_map_keys]
  simp only [List.mem_eraseDups]

theorem insert (lists : map.Lists keys values) (key : α) (others : ∀ other, other ≠ key → after other = values other) :
    (map.insert key (after key)).Lists (keys ++ [key]) after := by
  have distinct := nodup_eraseDups keys
  rw [Lists, OrderedMap.insert, lists, insertEntry_map_keys _ _ _ distinct, eraseDups_concat]
  simp only [List.mem_eraseDups]
  split
  · refine List.map_congr_left fun other _ => ?_
    split
    next here => rw [here]
    next different => rw [others other different]
  next fresh =>
    rw [List.map_append]
    congr 1
    refine List.map_congr_left fun other member => ?_
    rw [others other fun same => fresh (same ▸ List.mem_eraseDups.mp member)]

end Lists

end OrderedMap

end MarkdownHtml
