import MarkdownHtml.FrontMatter
import MarkdownHtml.Metadata
import MarkdownHtml.Proofs.OrderedKeys
import MarkdownHtml.Proofs.Preorder

/-! What metadata is gathered from: the entries of front matter in a document, wherever they stand. Entries with one
key are taken together, and no entry changes what is known of another key. -/

namespace MarkdownHtml

namespace FrontMatter

variable {entries : List Entry} {entry : Entry} {key : String}

/-- The values of all entries with a given key. -/
def valuesOf (entries : List Entry) (key : String) : List String :=
  (entries.filter (·.key == key)).flatMap (·.values)

private theorem valuesOf_concat : valuesOf (entries ++ [entry]) key =
    valuesOf entries key ++ if entry.key = key then entry.values else [] := by
  rw [valuesOf, List.filter_append, List.flatMap_append, ← valuesOf]
  congr 1
  by_cases here : entry.key = key <;> simp [here]

private theorem valuesOf_of_notMem (missing : key ∉ entries.map (·.key)) : valuesOf entries key = [] := by
  have none_ : entries.filter (·.key == key) = [] :=
    List.filter_eq_nil_iff.mpr fun entry member same => missing (List.mem_map.mpr ⟨entry, member, eq_of_beq same⟩)
  rw [valuesOf, none_, List.flatMap_nil]

end FrontMatter

namespace Document

/-- The entry that a node stands for. -/
def entryOf : NodeKind → Option FrontMatter.Entry
  | .frontMatterEntry key values => some ⟨key, values⟩
  | _ => none

def entriesAmong (doc : Document) (ids : List NodeId) : List FrontMatter.Entry :=
  ids.filterMap fun id => (doc.kind? id).bind entryOf

theorem entriesAmong_append (doc : Document) (first second : List NodeId) :
    doc.entriesAmong (first ++ second) = doc.entriesAmong first ++ doc.entriesAmong second :=
  List.filterMap_append

theorem entriesAmong_singleton (doc : Document) (id : NodeId) :
    doc.entriesAmong [id] = ((doc.kind? id).bind entryOf).toList := by
  rw [entriesAmong, List.filterMap_cons]
  cases (doc.kind? id).bind entryOf <;> rfl

/-- The entries that the root is above, in pre-order. -/
def frontMatterEntries (doc : Document) : List FrontMatter.Entry := doc.entriesAmong (doc.subtree root)

end Document

namespace Metadata
open Document FrontMatter

variable {doc : Document} {metadata : Metadata} {entries : List Entry}

/-- The keys of some entries, each where it comes up first, and for each key the values of all its entries. -/
structure Gathers (entries : List Entry) (metadata : Metadata) : Prop where
  keys : metadata.entries.map (·.1) = (entries.map (·.key)).eraseDups
  values : ∀ key ∈ entries.map (·.key), metadata.get? key = some (valuesOf entries key)

private theorem lists_addEntry (lists : metadata.Lists (entries.map (·.key)) (valuesOf entries)) (entry : Entry) :
    (metadata.addEntry entry.key entry.values).Lists ((entries ++ [entry]).map (·.key))
      (valuesOf (entries ++ [entry])) := by
  have known : (metadata.get? entry.key).getD [] = valuesOf entries entry.key := by
    rw [lists.get?]
    split
    · rfl
    next missing => exact (valuesOf_of_notMem missing).symm
  have here : valuesOf (entries ++ [entry]) entry.key = valuesOf entries entry.key ++ entry.values := by
    rw [valuesOf_concat, if_pos rfl]
  have others : ∀ other, other ≠ entry.key → valuesOf (entries ++ [entry]) other = valuesOf entries other := by
    intro other different
    rw [valuesOf_concat, if_neg different.symm, List.append_nil]
  rw [addEntry, known, ← here, List.map_append]
  exact lists.insert entry.key others

private theorem addNode_eq (doc : Document) (metadata : Metadata) (id : NodeId) :
    addNode doc metadata id = match (doc.kind? id).bind entryOf with
      | some entry => metadata.addEntry entry.key entry.values
      | none => metadata := by
  unfold addNode
  cases doc.kind? id with
  | none => rfl
  | some kind => cases kind <;> rfl

private theorem lists_foldl_addNode (doc : Document) (ids : List NodeId) : (ids.foldl (addNode doc) {}).Lists
    ((doc.entriesAmong ids).map (·.key)) (valuesOf (doc.entriesAmong ids)) := by
  induction ids using List.reverseRecOn with
  | nil => exact .start _
  | append_singleton ids id ih =>
    rw [List.foldl_append, List.foldl_cons, List.foldl_nil, entriesAmong_append,
      entriesAmong_singleton, addNode_eq]
    cases (doc.kind? id).bind entryOf with
    | none => rwa [Option.toList_none, List.append_nil]
    | some entry => exact lists_addEntry ih entry

private theorem Gathers.of_lists (lists : metadata.Lists (entries.map (·.key)) (valuesOf entries)) :
    metadata.Gathers entries where
  keys := by
    rw [lists, List.map_map]
    exact List.map_id _
  values key member := by rw [lists.get?, if_pos member]

/-- The walk over a document meets the entries in pre-order. -/
theorem gathers_of_wellFormed (wellFormed : doc.WellFormed) : (ofDocument doc).1.Gathers doc.frontMatterEntries := by
  have walked : doc.descendants root = doc.subtree root := by
    by_cases held : doc.Holds root
    · exact wellFormed.descendants_eq_subtree held
    · have empty_ : doc.size = 0 := Nat.eq_zero_of_not_pos held
      rw [descendants, subtree, empty_, walk, listing]
  refine .of_lists ?_
  rw [ofDocument, walked]
  exact lists_foldl_addNode doc (doc.subtree root)

end Metadata

end MarkdownHtml
