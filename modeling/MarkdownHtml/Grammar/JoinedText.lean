import MarkdownHtml.Grammar.BareLink
import MarkdownHtml.Grammar.Tree

/-! Texts that stand side by side are joined. Mail addresses in them become links, except within
links and images. -/

namespace MarkdownHtml.Grammar

def textLeaf (text : List Char) : List GrammarTree :=
  if text.isEmpty then [] else [.leaf (.text (String.ofList text))]

def linkMails (relaxed : Bool) : Nat → List Char → List GrammarTree
  | 0, text => textLeaf text
  | fuel + 1, text =>
    match findMail? relaxed 0 0 [] text with
    | some mail =>
      let link := .node (.link (String.ofList mail.destination) "") (textLeaf mail.address)
      textLeaf mail.before ++ link :: linkMails relaxed fuel mail.after
    | none => textLeaf text

/-- Whether mail addresses are looked for, and how. -/
structure MailSearch where
  enabled : Bool
  relaxed : Bool

def MailSearch.texts (search : MailSearch) (text : List Char) : List GrammarTree :=
  if search.enabled then linkMails search.relaxed text.length text else textLeaf text

def MailSearch.within (search : MailSearch) : GrammarKind → MailSearch
  | .link .. | .image .. => { search with enabled := false }
  | _ => search

mutual

def joinTexts (search : MailSearch) : GrammarTree → GrammarTree
  | .node kind children => .node kind (joinAllTexts (search.within kind) [] children)

/-- Join the texts of siblings, given the text directly before them. -/
def joinAllTexts (search : MailSearch) (text : List Char) : List GrammarTree → List GrammarTree
  | [] => search.texts text
  | .node kind children :: rest =>
    match kind with
    | .text literal => joinAllTexts search (text ++ literal.toList) rest
    | _ => search.texts text ++ joinTexts search (.node kind children) :: joinAllTexts search [] rest

end

end MarkdownHtml.Grammar
