import MarkdownHtml.Document.Basic
import MarkdownHtml.Document.Edit
import MarkdownHtml.Document.Extended
import MarkdownHtml.Document.Footnotes
import MarkdownHtml.Document.ImageAttributes
import MarkdownHtml.Document.Inserted
import MarkdownHtml.Document.OfGrammar
import MarkdownHtml.Document.OfText
import MarkdownHtml.Document.TaskItems
import MarkdownHtml.Document.Walk
import MarkdownHtml.Error
import MarkdownHtml.Event
import MarkdownHtml.FrontMatter
import MarkdownHtml.Grammar.AngleLink
import MarkdownHtml.Grammar.Ascii
import MarkdownHtml.Grammar.BareLink
import MarkdownHtml.Grammar.Block
import MarkdownHtml.Grammar.BlockStart
import MarkdownHtml.Grammar.Bracket
import MarkdownHtml.Grammar.CharReference
import MarkdownHtml.Grammar.CodeSpan
import MarkdownHtml.Grammar.Definitions
import MarkdownHtml.Grammar.Emphasis
import MarkdownHtml.Grammar.FootnoteUse
import MarkdownHtml.Grammar.InlineReader
import MarkdownHtml.Grammar.JoinedText
import MarkdownHtml.Grammar.Line
import MarkdownHtml.Grammar.LinkParts
import MarkdownHtml.Grammar.NamedReference
import MarkdownHtml.Grammar.OfText
import MarkdownHtml.Grammar.RawHtml
import MarkdownHtml.Grammar.TableRow
import MarkdownHtml.Grammar.Tree
import MarkdownHtml.Html.AttributeSet
import MarkdownHtml.Html.Escape
import MarkdownHtml.Html.Writer
import MarkdownHtml.Json.Record
import MarkdownHtml.Json.Settings
import MarkdownHtml.Json.Value
import MarkdownHtml.Metadata
import MarkdownHtml.Node.Kind
import MarkdownHtml.Node.Type
import MarkdownHtml.Options
import MarkdownHtml.OrderedMap
import MarkdownHtml.Pipeline
import MarkdownHtml.Proofs.AnchorCounters
import MarkdownHtml.Proofs.AssembledTrees
import MarkdownHtml.Proofs.AttachedImages
import MarkdownHtml.Proofs.AttachedTrees
import MarkdownHtml.Proofs.AttributeBlocks
import MarkdownHtml.Proofs.BackLinks
import MarkdownHtml.Proofs.CallbackErrors
import MarkdownHtml.Proofs.ChangedRules
import MarkdownHtml.Proofs.ChildEdits
import MarkdownHtml.Proofs.ChildLists
import MarkdownHtml.Proofs.CommutingPasses
import MarkdownHtml.Proofs.CutTexts
import MarkdownHtml.Proofs.DefinitionItems
import MarkdownHtml.Proofs.Dispatch
import MarkdownHtml.Proofs.EditRuns
import MarkdownHtml.Proofs.Edits
import MarkdownHtml.Proofs.EntryTrees
import MarkdownHtml.Proofs.ExtendedDocuments
import MarkdownHtml.Proofs.FixedRules
import MarkdownHtml.Proofs.FlankedRows
import MarkdownHtml.Proofs.FootnoteCounts
import MarkdownHtml.Proofs.FootnoteLinks
import MarkdownHtml.Proofs.FootnoteOrder
import MarkdownHtml.Proofs.FootnotePasses
import MarkdownHtml.Proofs.ForetoldTrees
import MarkdownHtml.Proofs.FreshLines
import MarkdownHtml.Proofs.FrontMatterCuts
import MarkdownHtml.Proofs.FrontMatterHtml
import MarkdownHtml.Proofs.FrontMatterPieces
import MarkdownHtml.Proofs.FrontMatterRemoval
import MarkdownHtml.Proofs.GatheredMetadata
import MarkdownHtml.Proofs.GrammarPlacement
import MarkdownHtml.Proofs.GrammarTranslation
import MarkdownHtml.Proofs.HeadingAnchors
import MarkdownHtml.Proofs.HiddenTrees
import MarkdownHtml.Proofs.HtmlTokens
import MarkdownHtml.Proofs.InsertedContent
import MarkdownHtml.Proofs.InsertedFilled
import MarkdownHtml.Proofs.InsertedItems
import MarkdownHtml.Proofs.InsertedPieces
import MarkdownHtml.Proofs.InsertedRows
import MarkdownHtml.Proofs.InsertedSites
import MarkdownHtml.Proofs.InsertedSpacing
import MarkdownHtml.Proofs.InsertedTrees
import MarkdownHtml.Proofs.KeptMetadata
import MarkdownHtml.Proofs.KeyHistories
import MarkdownHtml.Proofs.LeftoverRuns
import MarkdownHtml.Proofs.Links
import MarkdownHtml.Proofs.MarkedItems
import MarkdownHtml.Proofs.MarkedRows
import MarkdownHtml.Proofs.MarkedTrees
import MarkdownHtml.Proofs.MovedNodes
import MarkdownHtml.Proofs.NodeTrees
import MarkdownHtml.Proofs.OrderedKeys
import MarkdownHtml.Proofs.OrderlyEdits
import MarkdownHtml.Proofs.Pieces
import MarkdownHtml.Proofs.PlacedPieces
import MarkdownHtml.Proofs.PlacedTables
import MarkdownHtml.Proofs.PlacedTrees
import MarkdownHtml.Proofs.PlusMatching
import MarkdownHtml.Proofs.PlusPairs
import MarkdownHtml.Proofs.PlusSpans
import MarkdownHtml.Proofs.Preorder
import MarkdownHtml.Proofs.PreorderWalks
import MarkdownHtml.Proofs.PreparedUrls
import MarkdownHtml.Proofs.QuotedAttributes
import MarkdownHtml.Proofs.ReadingOrder
import MarkdownHtml.Proofs.RebuiltTrees
import MarkdownHtml.Proofs.RecursiveRender
import MarkdownHtml.Proofs.RegisteredRules
import MarkdownHtml.Proofs.Relinking
import MarkdownHtml.Proofs.RenderEnds
import MarkdownHtml.Proofs.RenderLimit
import MarkdownHtml.Proofs.RenderPlans
import MarkdownHtml.Proofs.RenderedHtml
import MarkdownHtml.Proofs.RepeatedRules
import MarkdownHtml.Proofs.RulePieces
import MarkdownHtml.Proofs.RunPartners
import MarkdownHtml.Proofs.ShownText
import MarkdownHtml.Proofs.TagNesting
import MarkdownHtml.Proofs.TextLines
import MarkdownHtml.Proofs.TidyTrees
import MarkdownHtml.Proofs.TranslatedRows
import MarkdownHtml.Proofs.UnusedRules
import MarkdownHtml.Proofs.UrlProtocols
import MarkdownHtml.Proofs.VisitorCalls
import MarkdownHtml.Proofs.WrittenCalls
import MarkdownHtml.Proofs.WrittenEntries
import MarkdownHtml.Proofs.WrittenTags
import MarkdownHtml.Proofs.WrittenUrls
import MarkdownHtml.Render.Builtin
import MarkdownHtml.Render.Footnote
import MarkdownHtml.Render.Program
import MarkdownHtml.Render.Rules
import MarkdownHtml.Render.Run
import MarkdownHtml.Render.State
import MarkdownHtml.Slug
import MarkdownHtml.Text.CaseFold
import MarkdownHtml.Text.Lowercase
import MarkdownHtml.Text.Punctuation
import MarkdownHtml.Text.Quoted
import MarkdownHtml.Text.Ranges
import MarkdownHtml.Text.Space
import MarkdownHtml.Text.WordChar
import MarkdownHtml.Url
import MarkdownHtml.Visitor
