/-! Maps that remember the order in which their keys came in. Overwriting a key keeps its place;
erasing and inserting it again moves it to the end. -/

namespace MarkdownHtml

structure OrderedMap (α β : Type) where
  entries : List (α × β) := []
  deriving Repr

namespace OrderedMap
variable {α β : Type} [BEq α]

instance : Inhabited (OrderedMap α β) := ⟨{}⟩

def insertEntry (key : α) (value : β) : List (α × β) → List (α × β)
  | [] => [(key, value)]
  | (k, v) :: rest => if k == key then (k, value) :: rest else (k, v) :: insertEntry key value rest

def insert (map : OrderedMap α β) (key : α) (value : β) : OrderedMap α β :=
  ⟨insertEntry key value map.entries⟩

def erase (map : OrderedMap α β) (key : α) : OrderedMap α β :=
  ⟨map.entries.filter fun entry => !(entry.1 == key)⟩

def get? (map : OrderedMap α β) (key : α) : Option β :=
  (map.entries.find? fun entry => entry.1 == key).map (·.2)

def contains (map : OrderedMap α β) (key : α) : Bool := (map.get? key).isSome

/-- Insert, together with the value that was there before. -/
def getThenInsert (map : OrderedMap α β) (key : α) (value : β) : Option β × OrderedMap α β :=
  (map.get? key, map.insert key value)

/-- Erase, together with the value that was there before. -/
def getThenErase (map : OrderedMap α β) (key : α) : Option β × OrderedMap α β :=
  (map.get? key, map.erase key)

def size (map : OrderedMap α β) : Nat := map.entries.length

def isEmpty (map : OrderedMap α β) : Bool := map.entries.isEmpty

def ofList (entries : List (α × β)) : OrderedMap α β :=
  entries.foldl (fun map entry => map.insert entry.1 entry.2) {}

/-- Whether two maps hold the same values under the same keys, in whatever order. -/
def sameEntries [BEq β] (first second : OrderedMap α β) : Bool :=
  first.size == second.size && first.entries.all fun entry => second.get? entry.1 == some entry.2

theorem find?_insertEntry [LawfulBEq α] (key other : α) (value : β) (entries : List (α × β)) :
    ((insertEntry key value entries).find? fun entry => entry.1 == other).map (·.2) =
      if key == other then some value else (entries.find? fun entry => entry.1 == other).map (·.2) := by
  induction entries with
  | nil => cases same : key == other <;> simp [insertEntry, same]
  | cons entry rest ih =>
    unfold insertEntry
    by_cases here : entry.1 == key
    · obtain rfl := eq_of_beq here
      cases same : entry.1 == other <;> simp [same]
    · cases found : entry.1 == other
      · simp [here, found, ih]
      · have different : (key == other) = false := by
          rw [← eq_of_beq found]
          exact beq_eq_false_iff_ne.mpr fun same => here (beq_iff_eq.mpr same.symm)
        simp [here, found, different]

theorem get?_insert [LawfulBEq α] (map : OrderedMap α β) (key other : α) (value : β) :
    (map.insert key value).get? other = if key == other then some value else map.get? other :=
  find?_insertEntry key other value map.entries

end OrderedMap

end MarkdownHtml
