/-! White space, and the cutting of texts at it: trimming, words and lines. -/

namespace MarkdownHtml.Text

/-- The characters with the property of white space. -/
def isSpace (c : Char) : Bool :=
  let n := c.toNat
  (0x09 ≤ n && n ≤ 0x0d) || n == 0x20 || n == 0x85 || n == 0xa0 || n == 0x1680 || (0x2000 ≤ n && n ≤ 0x200a) ||
    n == 0x2028 || n == 0x2029 || n == 0x202f || n == 0x205f || n == 0x3000

def dropEndWhile (p : Char → Bool) (text : List Char) : List Char :=
  (text.reverse.dropWhile p).reverse

def trimStart (text : List Char) : List Char := text.dropWhile isSpace

def trimEnd (text : List Char) : List Char := dropEndWhile isSpace text

def trim (text : List Char) : List Char := trimEnd (trimStart text)

/-- The longest parts of a text that hold no white space. -/
def words : List Char → List (List Char)
  | [] => []
  | c :: rest =>
    if isSpace c then words rest
    else (c :: rest.takeWhile (!isSpace ·)) :: words (rest.dropWhile (!isSpace ·))
termination_by text => text.length
decreasing_by
  · simp
  · have := (List.dropWhile_suffix (fun c => !isSpace c) (l := rest)).length_le
    simp only [List.length_cons]
    omega

/-- The lines of a text after a line read so far, last character first. A carriage return before
the newline belongs to the line ending. -/
def linesFrom (line : List Char) : List Char → List (List Char)
  | [] => if line.isEmpty then [] else [line.reverse]
  | '\n' :: rest =>
    let line := match line with
      | '\r' :: line => line
      | line => line
    line.reverse :: linesFrom [] rest
  | c :: rest => linesFrom (c :: line) rest

def lines (text : List Char) : List (List Char) := linesFrom [] text

end MarkdownHtml.Text
