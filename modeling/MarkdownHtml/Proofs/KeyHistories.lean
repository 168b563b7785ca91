import MarkdownHtml.Html.AttributeSet
import Mathlib.Data.List.Induction
import Mathlib.Data.List.Nodup

/-! What a map keeps of all that has been done to it. The value of a key is the one that its last insertion gave, while
its place is that of an earlier call: the one that found the key absent. Both can be read off from the calls alone. -/

namespace MarkdownHtml.OrderedMap

variable {α β : Type}

/-- One call to a map. -/
inductive Change (α β : Type)
  | insert (key : α) (value : β)
  | erase (key : α)
  deriving Repr

namespace Change

def key : Change α β → α
  | insert key _ => key
  | erase key => key

/-- The value that a call leaves for its key. -/
def value? : Change α β → Option β
  | insert _ value => some value
  | erase _ => none

def erases [DecidableEq α] (key : α) : Change α β → Bool
  | insert .. => false
  | erase other => other = key

end Change

variable [DecidableEq α]

/-- Make a call, together with what it gives back. -/
def change (map : OrderedMap α β) : Change α β → Option β × OrderedMap α β
  | .insert key value => map.getThenInsert key value
  | .erase key => map.getThenErase key

def changeAll (map : OrderedMap α β) (calls : List (Change α β)) : OrderedMap α β :=
  calls.foldl (fun map call => (map.change call).2) map

def keys (map : OrderedMap α β) : List α := map.entries.map (·.1)

/-- The value that the last call for a key has left. -/
def lastValue? (calls : List (Change α β)) (key : α) : Option β :=
  (calls.reverse.find? fun call => call.key = key).bind Change.value?

/-- The key that a call brings in to stay: absent after the calls before, and erased by none of the calls behind. -/
def bringsIn? (before : List (Change α β)) (call : Change α β) (behind : List (Change α β)) : Option α :=
  match call with
  | .insert key _ => if (lastValue? before key).isNone && !behind.any (·.erases key) then some key else none
  | .erase _ => none

/-- The keys that calls bring in to stay, in the order of these calls. -/
def keysOf (calls : List (Change α β)) : List α :=
  calls.zipIdx.filterMap fun entry => bringsIn? (calls.take entry.2) entry.1 (calls.drop (entry.2 + 1))

variable {map : OrderedMap α β} {calls : List (Change α β)}

/-! What one call changes. -/

private theorem get?_eq_none_iff {key : α} : map.get? key = none ↔ key ∉ map.keys := by
  rw [get?, Option.map_eq_none_iff, List.find?_eq_none, keys, List.mem_map]
  constructor
  · rintro absent ⟨entry, member, rfl⟩
    exact absent entry member (beq_self_eq_true _)
  · intro absent entry member same
    exact absent ⟨entry, member, eq_of_beq same⟩

private theorem get?_erase (map : OrderedMap α β) (key other : α) :
    (map.erase key).get? other = if key = other then none else map.get? other := by
  rw [get?, erase, List.find?_filter, get?]
  split
  next same => simp [same]
  next different =>
    congr 2
    funext entry
    by_cases found : entry.1 = other
    · simp [found, Ne.symm different]
    · simp [found]

private theorem entries_erase (map : OrderedMap α β) (key : α) :
    (map.erase key).entries = map.entries.filter (·.1 ≠ key) := by
  simp [erase, beq_eq_decide]

private theorem keys_erase (map : OrderedMap α β) (key : α) : (map.erase key).keys = map.keys.filter (· ≠ key) := by
  rw [keys, entries_erase, keys, List.filter_map]
  rfl

private theorem keys_insert (map : OrderedMap α β) (key : α) (value : β) :
    (map.insert key value).keys = if key ∈ map.keys then map.keys else map.keys ++ [key] := by
  rw [keys, insert, keys]
  induction map.entries with
  | nil => rfl
  | cons entry rest ih =>
    rw [insertEntry]
    by_cases here : entry.1 = key
    · simp [here]
    · have there : key ≠ entry.1 := fun same => here same.symm
      simp only [beq_iff_eq, here, if_false, List.map_cons, ih, List.mem_cons, there, false_or]
      split <;> rfl

private theorem others_insert (map : OrderedMap α β) (key : α) (value : β) :
    (map.insert key value).entries.filter (·.1 ≠ key) = map.entries.filter (·.1 ≠ key) := by
  rw [insert]
  induction map.entries with
  | nil => simp [insertEntry]
  | cons entry rest ih =>
    rw [insertEntry]
    by_cases here : entry.1 = key
    · simp [here]
    · simpa [here] using ih

private theorem others_change (map : OrderedMap α β) (call : Change α β) :
    (map.change call).2.entries.filter (·.1 ≠ call.key) = map.entries.filter (·.1 ≠ call.key) := by
  cases call with
  | insert key value => exact map.others_insert key value
  | erase key =>
    change (map.erase key).entries.filter (·.1 ≠ key) = map.entries.filter (·.1 ≠ key)
    rw [entries_erase, List.filter_filter]
    simp

/-! What one more call adds to a history. -/

private theorem lastValue?_concat (calls : List (Change α β)) (call : Change α β) (key : α) :
    lastValue? (calls ++ [call]) key = if call.key = key then call.value? else lastValue? calls key := by
  rw [lastValue?, List.reverse_append, List.reverse_singleton, List.singleton_append, List.find?_cons]
  by_cases here : call.key = key
  · simp [here]
  · simp [here, lastValue?]

private theorem bringsIn?_insert (before : List (Change α β)) (call : Change α β) (behind : List (Change α β)) (key : α)
    (value : β) : bringsIn? before call (behind ++ [.insert key value]) = bringsIn? before call behind := by
  cases call with
  | insert => simp [bringsIn?, Change.erases]
  | erase => rfl

private theorem bringsIn?_erase (before : List (Change α β)) (call : Change α β) (behind : List (Change α β))
    (key : α) : bringsIn? before call (behind ++ [.erase key]) = (bringsIn? before call behind).filter (· ≠ key) := by
  cases call with
  | insert other value =>
    have erased : [(.erase key : Change α β)].any (·.erases other) = decide (other = key) := by
      simp [Change.erases, eq_comm]
    rw [bringsIn?, bringsIn?, List.any_append, erased, Bool.not_or, ← Bool.and_assoc]
    cases (lastValue? before other).isNone && !behind.any (·.erases other) with
    | false => rfl
    | true => by_cases here : other = key <;> simp [here, Option.filter]
  | erase => rfl

private theorem keysOf_concat (calls : List (Change α β)) (call : Change α β) :
    keysOf (calls ++ [call]) = (calls.zipIdx.filterMap fun entry =>
      bringsIn? (calls.take entry.2) entry.1 (calls.drop (entry.2 + 1) ++ [call])) ++ (bringsIn? calls call []).toList := by
  have inside : ∀ entry ∈ calls.zipIdx, entry.2 + 1 ≤ calls.length := by
    intro entry member
    exact (List.getElem?_eq_some_iff.mp (List.mk_mem_zipIdx_iff_getElem?.mp member)).1
  rw [keysOf, List.zipIdx_append, List.filterMap_append]
  congr 1
  -- For the calls that were there, only what lies behind them has become longer.
  · refine List.filterMap_congr fun entry member => ?_
    have bound := inside entry member
    rw [List.take_append_of_le_length (by omega), List.drop_append_of_le_length bound]
  · have last : bringsIn? ((calls ++ [call]).take calls.length) call ((calls ++ [call]).drop (calls.length + 1)) =
        bringsIn? calls call [] := by simp
    rw [List.zipIdx_singleton, List.filterMap_cons, List.filterMap_nil, Nat.zero_add, last]
    cases bringsIn? calls call [] <;> rfl

private theorem keysOf_insert (calls : List (Change α β)) (key : α) (value : β) :
    keysOf (calls ++ [.insert key value]) = keysOf calls ++ if lastValue? calls key = none then [key] else [] := by
  simp only [keysOf_concat, bringsIn?_insert]
  rw [keysOf, bringsIn?]
  cases lastValue? calls key <;> rfl

private theorem keysOf_erase (calls : List (Change α β)) (key : α) :
    keysOf (calls ++ [.erase key]) = (keysOf calls).filter (· ≠ key) := by
  simp only [keysOf_concat, bringsIn?_erase]
  rw [keysOf, List.filter_filterMap, bringsIn?, Option.toList_none, List.append_nil]

/-- A map holds what its calls have left. -/
structure Recalls (calls : List (Change α β)) (map : OrderedMap α β) : Prop where
  keys : map.keys = keysOf calls
  distinct : map.keys.Nodup
  get? : ∀ key, map.get? key = lastValue? calls key

namespace Recalls

theorem start : Recalls [] ({} : OrderedMap α β) := ⟨rfl, List.nodup_nil, fun _ => rfl⟩

theorem insert (recalls : Recalls calls map) (key : α) (value : β) :
    Recalls (calls ++ [.insert key value]) (map.insert key value) where
  keys := by
    rw [keys_insert, keysOf_insert, ← recalls.get?, ← recalls.keys]
    by_cases held : key ∈ map.keys <;> simp [held, get?_eq_none_iff]
  distinct := by
    rw [keys_insert]
    split
    · exact recalls.distinct
    next absent => simpa using recalls.distinct.concat absent
  get? other := by
    rw [get?_insert, lastValue?_concat, recalls.get?]
    by_cases here : key = other <;> simp [here, Change.key, Change.value?]

private theorem erase (recalls : Recalls calls map) (key : α) : Recalls (calls ++ [.erase key]) (map.erase key) where
  keys := by rw [keys_erase, keysOf_erase, recalls.keys]
  distinct := by
    rw [keys_erase]
    exact recalls.distinct.filter _
  get? other := by
    rw [get?_erase, lastValue?_concat, recalls.get?]
    rfl

private theorem change (recalls : Recalls calls map) (call : Change α β) : Recalls (calls ++ [call])
    (map.change call).2 := by
  cases call with
  | insert key value => exact recalls.insert key value
  | erase key => exact recalls.erase key

private theorem returned (recalls : Recalls calls map) (call : Change α β) :
    (map.change call).1 = lastValue? calls call.key := by
  rw [← recalls.get?]
  cases call <;> rfl

end Recalls

private theorem recalls_changeAll (calls : List (Change α β)) :
    Recalls calls (({} : OrderedMap α β).changeAll calls) := by
  induction calls using List.reverseRecOn with
  | nil => exact .start
  | append_singleton calls call ih =>
    rw [changeAll, List.foldl_append]
    exact ih.change call

private theorem changeAll_ofList (pairs : List (α × β)) (calls : List (Change α β)) :
    (ofList pairs).changeAll calls =
      ({} : OrderedMap α β).changeAll (pairs.map (fun pair => .insert pair.1 pair.2) ++ calls) := by
  rw [changeAll, changeAll, List.foldl_append, List.foldl_map]
  rfl

end MarkdownHtml.OrderedMap

namespace MarkdownHtml.Html.AttributeSet
open OrderedMap

/-- After whatever calls, no name is there twice. The names stand in the order in which they were brought in, each with the
value that was inserted last. A call gives back the value that was there before it, and of all other names it changes
neither the values nor the order. -/
theorem attributes_recalled (pairs : List (String × String)) (calls : List (Change String String)) :
    let history := pairs.map (fun pair => .insert pair.1 pair.2) ++ calls
    let set : AttributeSet := (OrderedMap.ofList pairs).changeAll calls
    set.keys.Nodup ∧ set.keys = keysOf history ∧ (∀ name, set.get? name = lastValue? history name) ∧
      ∀ call : Change String String, (set.change call).1 = lastValue? history call.key ∧
        (set.change call).2.entries.filter (·.1 ≠ call.key) = set.entries.filter (·.1 ≠ call.key) := by
  intro history set
  -- What a set has been collected from counts as calls made before all others.
  have recalls : Recalls history set := by
    rw [show set = _ from changeAll_ofList pairs calls]
    exact recalls_changeAll history
  exact ⟨recalls.distinct, recalls.keys, recalls.get?, fun call => ⟨recalls.returned call, set.others_change call⟩⟩

example : keysOf [.insert "a" "1", .insert "b" "2", .erase "a", .erase "c", .insert "a" "3", .insert "b" "4"] = ["b", "a"] := by
  decide

end MarkdownHtml.Html.AttributeSet
