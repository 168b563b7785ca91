/-! The values of JSON and their reading from text. A string with an escape that is no character is
still a value, but one without a text. Of numbers nothing is kept. -/

namespace MarkdownHtml.Json

inductive Value
  | null
  | bool (value : Bool)
  | number
  | string (text : Option String)
  | array (elements : List Value)
  | object (members : List (Option String × Value))
  deriving Inhabited

def isSpace (c : Char) : Bool := c == ' ' || c == '\n' || c == '\r' || c == '\t'

def skipSpace (text : List Char) : List Char := text.dropWhile isSpace

/-- What follows a fixed text. -/
def expect : List Char → List Char → Option (List Char)
  | [], text => some text
  | c :: literal, d :: text => if c = d then expect literal text else none
  | _ :: _, [] => none

def hexValue? (c : Char) : Option Nat :=
  if c.isDigit then some (c.toNat - 0x30)
  else if 'a' ≤ c && c ≤ 'f' then some (c.toNat - 0x57)
  else if 'A' ≤ c && c ≤ 'F' then some (c.toNat - 0x37)
  else none

/-- The number that an escape stands for, given the text behind its backslash, and what follows. -/
def escape? : List Char → Option (Nat × List Char)
  | '"' :: rest => some (0x22, rest)
  | '\\' :: rest => some (0x5c, rest)
  | '/' :: rest => some (0x2f, rest)
  | 'b' :: rest => some (0x08, rest)
  | 'f' :: rest => some (0x0c, rest)
  | 'n' :: rest => some (0x0a, rest)
  | 'r' :: rest => some (0x0d, rest)
  | 't' :: rest => some (0x09, rest)
  | 'u' :: a :: b :: c :: d :: rest => do
    return ((((← hexValue? a) * 16 + (← hexValue? b)) * 16 + (← hexValue? c)) * 16 + (← hexValue? d), rest)
  | _ => none

def isHighSurrogate (code : Nat) : Bool := 0xd800 ≤ code && code < 0xdc00

def isLowSurrogate (code : Nat) : Bool := 0xdc00 ≤ code && code < 0xe000

/-- The characters of numbers, of which two surrogates make one. -/
def characters? : List Nat → Option (List Char)
  | [] => some []
  | high :: low :: rest =>
    if isHighSurrogate high then
      if isLowSurrogate low then
        (characters? rest).map (Char.ofNat (0x10000 + (high - 0xd800) * 0x400 + (low - 0xdc00)) :: ·)
      else none
    else if isLowSurrogate high then none
    else (characters? (low :: rest)).map (Char.ofNat high :: ·)
  | [code] => if isHighSurrogate code || isLowSurrogate code then none else some [Char.ofNat code]

/-- The numbers of the characters of a string up to its closing quote, and what follows. -/
def stringTail? : Nat → List Char → Option (List Nat × List Char)
  | 0, _ | _, [] => none
  | fuel + 1, c :: rest =>
    if c = '"' then some ([], rest)
    else if c = '\\' then do
      let (code, rest) ← escape? rest
      let (codes, rest) ← stringTail? fuel rest
      return (code :: codes, rest)
    else if c.toNat < 0x20 then none
    else (stringTail? fuel rest).map fun (codes, rest) => (c.toNat :: codes, rest)

def string? (text : List Char) : Option (Option String × List Char) :=
  (stringTail? text.length text).map fun (codes, rest) => ((characters? codes).map String.ofList, rest)

def digits? (text : List Char) : Option (List Char) :=
  if text.head?.any Char.isDigit then some (text.dropWhile Char.isDigit) else none

/-- What follows a number. Only the number zero begins with the digit zero. -/
def number? (text : List Char) : Option (List Char) := do
  let text := match text with
    | '-' :: rest => rest
    | _ => text
  let rest ← match text with
    | '0' :: rest => if rest.head?.any Char.isDigit then none else some rest
    | _ => digits? text
  let rest ← match rest with
    | '.' :: fraction => digits? fraction
    | _ => some rest
  match rest with
  | e :: exponent =>
    if e = 'e' ∨ e = 'E' then
      match exponent with
      | '+' :: exponent | '-' :: exponent => digits? exponent
      | _ => digits? exponent
    else return rest
  | [] => return []

mutual

/-- The value at the beginning of a text, and what follows. The fuel bounds the steps. -/
def value? : Nat → List Char → Option (Value × List Char)
  | 0, _ => none
  | fuel + 1, text =>
    match skipSpace text with
    | 'n' :: rest => (expect "ull".toList rest).map fun rest => (.null, rest)
    | 't' :: rest => (expect "rue".toList rest).map fun rest => (.bool true, rest)
    | 'f' :: rest => (expect "alse".toList rest).map fun rest => (.bool false, rest)
    | '"' :: rest => (string? rest).map fun (text, rest) => (.string text, rest)
    | '[' :: rest =>
      match skipSpace rest with
      | ']' :: rest => some (.array [], rest)
      | rest => (elements? fuel rest).map fun (elements, rest) => (.array elements, rest)
    | '\x7b' :: rest =>
      match skipSpace rest with
      | '\x7d' :: rest => some (.object [], rest)
      | rest => (members? fuel rest).map fun (members, rest) => (.object members, rest)
    | rest => (number? rest).map fun rest => (.number, rest)

def elements? : Nat → List Char → Option (List Value × List Char)
  | 0, _ => none
  | fuel + 1, text =>
    match value? fuel text with
    | none => none
    | some (value, rest) =>
      match skipSpace rest with
      | ']' :: rest => some ([value], rest)
      | ',' :: rest => (elements? fuel rest).map fun (values, rest) => (value :: values, rest)
      | _ => none

def members? : Nat → List Char → Option (List (Option String × Value) × List Char)
  | 0, _ => none
  | fuel + 1, text =>
    match skipSpace text with
    | '"' :: rest =>
      match string? rest with
      | none => none
      | some (key, rest) =>
        match skipSpace rest with
        | ':' :: rest =>
          match value? fuel rest with
          | none => none
          | some (value, rest) =>
            match skipSpace rest with
            | '\x7d' :: rest => some ([(key, value)], rest)
            | ',' :: rest => (members? fuel rest).map fun (members, rest) => ((key, value) :: members, rest)
            | _ => none
        | _ => none
    | _ => none

end

def Value.ofText? (text : String) : Option Value :=
  match value? (2 * text.length + 1) text.toList with
  | some (value, rest) => if (skipSpace rest).isEmpty then some value else none
  | none => none

namespace Value

def asBool? : Value → Option Bool
  | bool value => some value
  | _ => none

def asString? : Value → Option String
  | string text => text
  | _ => none

def orNull? (read : Value → Option α) : Value → Option (Option α)
  | null => some none
  | value => (read value).map some

def asListOf? (read : Value → Option α) : Value → Option (List α)
  | array elements => elements.mapM read
  | _ => none

/-- One of some names. It may also be the only key of an object, with nothing as its value. -/
def asName? : Value → Option String
  | string text => text
  | object [(key, null)] => key
  | _ => none

end Value

end MarkdownHtml.Json
