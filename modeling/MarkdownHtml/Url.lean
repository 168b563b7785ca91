import MarkdownHtml.Text.Lowercase

/-! Destinations of links and images: unsafe protocols are blanked out, and characters that may
not stand in a URL are written as percent escapes of their bytes. -/

namespace MarkdownHtml.Url

def safeProtocols : List String := ["http", "https", "mailto", "data"]

def isOuterBlank (c : Char) : Bool := c == ' ' || c == '\t' || c == '\n' || c == '\r' || c == '\x0c'

/-- The text before the first colon, unless a slash, a question mark or a number sign comes first. -/
def protocol? : List Char → Option (List Char)
  | [] => none
  | c :: rest =>
    if c = '/' ∨ c = '?' ∨ c = '#' then none
    else if c = ':' then some []
    else (protocol? rest).map (c :: ·)

def trimBlank (url : List Char) : List Char :=
  ((url.dropWhile isOuterBlank).reverse.dropWhile isOuterBlank).reverse

/-- Blank out destinations whose protocol is not known to be safe; relative ones are kept. -/
def sanitize (url : String) : String :=
  let url := trimBlank url.toList
  match protocol? url with
  | some protocol => if safeProtocols.contains (Text.lowercase (String.ofList protocol)) then String.ofList url else ""
  | none => String.ofList url

/-- Control characters, and the ASCII characters that are neither reserved nor unreserved. The
percent sign is left alone, so that escapes already there stay. -/
def isEncoded (c : Char) : Bool :=
  c.toNat < 0x20 || 0x7f ≤ c.toNat ||
    [' ', '"', '<', '>', '\\', '^', '\x60', '\x7b', '|', '\x7d'].contains c

def hexDigit (n : Nat) : Char := Char.ofNat (if n < 10 then 0x30 + n else 0x37 + n)

def encodeByte (byte : UInt8) : List Char := ['%', hexDigit (byte.toNat / 16), hexDigit (byte.toNat % 16)]

def encodeChar (c : Char) : List Char :=
  if isEncoded c then (String.utf8EncodeChar c).flatMap encodeByte else [c]

def percentEncode (url : String) : String := String.ofList (url.toList.flatMap encodeChar)

end MarkdownHtml.Url
