import MarkdownHtml.Json.Value

/-! Records in JSON: objects whose fields have fixed names, each at most once. The values may also
stand in an array, in the order of the fields. Fields of other names are ignored. -/

namespace MarkdownHtml.Json

/-- The fields of a record that are there. -/
structure Record where
  fields : List (String × Value)

namespace Record

/-- Add a member of an object, if its name is known and it has not been there yet. -/
def add? (names : List String) (record : Record) (member : Option String × Value) : Option Record :=
  match member with
  | (none, _) => none
  | (some name, value) =>
    if !names.contains name then some record
    else if (record.fields.lookup name).isSome then none
    else some ⟨record.fields ++ [(name, value)]⟩

def ofMembers? (names : List String) (members : List (Option String × Value)) : Option Record :=
  members.foldlM (add? names) ⟨[]⟩

def ofValue? (names : List String) : Value → Option Record
  | .object members => ofMembers? names members
  | .array elements => if elements.length ≤ names.length then some ⟨names.zip elements⟩ else none
  | _ => none

/-- A field, or what stands for it if it is missing. -/
def getD (record : Record) (name : String) (default : α) (read : Value → Option α) : Option α :=
  match record.fields.lookup name with
  | some value => read value
  | none => some default

def get? (record : Record) (name : String) (read : Value → Option α) : Option α :=
  (record.fields.lookup name).bind read

end Record

def quotedChar (c : Char) : String :=
  if c = '"' then "\\\""
  else if c = '\\' then "\\\\"
  else if c = '\x08' then "\\b"
  else if c = '\x0c' then "\\f"
  else if c = '\n' then "\\n"
  else if c = '\r' then "\\r"
  else if c = '\t' then "\\t"
  else if c.toNat < 0x20 then
    "\\u00" ++ String.ofList [Nat.digitChar (c.toNat / 16), Nat.digitChar (c.toNat % 16)]
  else c.toString

def quoted (text : String) : String := "\"" ++ String.join (text.toList.map quotedChar) ++ "\""

def textOfBool (value : Bool) : String := if value then "true" else "false"

def textOfOption (write : α → String) : Option α → String
  | some value => write value
  | none => "null"

def textOfList (write : α → String) (values : List α) : String := "[" ++ ",".intercalate (values.map write) ++ "]"

/-- The text of an object, given the texts of its values. -/
def textOfFields (fields : List (String × String)) : String :=
  "\x7b" ++ ",".intercalate (fields.map fun (name, text) => quoted name ++ ":" ++ text) ++ "\x7d"

end MarkdownHtml.Json
