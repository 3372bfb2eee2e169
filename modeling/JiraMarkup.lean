import JiraMarkup.CommandLine.Options
import JiraMarkup.CommandLine.Run
import JiraMarkup.Conversion
import JiraMarkup.Files.Listing
import JiraMarkup.Files.Path
import JiraMarkup.Files.Tree
import JiraMarkup.Html.CodeBlock
import JiraMarkup.Html.Escape
import JiraMarkup.Html.Highlighter
import JiraMarkup.Html.Syntax
import JiraMarkup.Html.Writer
import JiraMarkup.Json.Failure
import JiraMarkup.Json.NumberLiteral
import JiraMarkup.Json.StringLiteral
import JiraMarkup.Json.Value
import JiraMarkup.Main
import JiraMarkup.Markdown.BlockReading
import JiraMarkup.Markdown.Cursor
import JiraMarkup.Markdown.Document
import JiraMarkup.Markdown.Emphasis
import JiraMarkup.Markdown.EntityTable
import JiraMarkup.Markdown.Escape
import JiraMarkup.Markdown.Event
import JiraMarkup.Markdown.LineStart
import JiraMarkup.Markdown.Link
import JiraMarkup.Markdown.RawHtml
import JiraMarkup.Markdown.Reading
import JiraMarkup.Markdown.RunningText
import JiraMarkup.Markdown.Table
import JiraMarkup.Number.Binary
import JiraMarkup.Number.Decimal
import JiraMarkup.Proofs.CommandLine.Effects
import JiraMarkup.Proofs.CommandLine.InputFiles
import JiraMarkup.Proofs.Conversion.CodeAgreement
import JiraMarkup.Proofs.Conversion.FencedCode
import JiraMarkup.Proofs.Conversion.LineEndings
import JiraMarkup.Proofs.Conversion.Logging
import JiraMarkup.Proofs.Conversion.TextPieces
import JiraMarkup.Proofs.Files.Listed
import JiraMarkup.Proofs.Files.MarkdownNames
import JiraMarkup.Proofs.Files.PathOrder
import JiraMarkup.Proofs.Files.Reaching
import JiraMarkup.Proofs.Files.Writing
import JiraMarkup.Proofs.Html.EscapedCode
import JiraMarkup.Proofs.Html.FoundCode
import JiraMarkup.Proofs.Html.PulledEvents
import JiraMarkup.Proofs.Json.Grammar
import JiraMarkup.Proofs.Json.NumberLiterals
import JiraMarkup.Proofs.Json.StringLiterals
import JiraMarkup.Proofs.Json.Values
import JiraMarkup.Proofs.Markdown.FencedReading
import JiraMarkup.Proofs.Markdown.Node
import JiraMarkup.Proofs.Markdown.ShownText
import JiraMarkup.Proofs.Settings.Members
import JiraMarkup.Proofs.Settings.ObjectForm
import JiraMarkup.Proofs.Text.Cutting
import JiraMarkup.Proofs.Text.Inked
import JiraMarkup.Proofs.Text.Lines
import JiraMarkup.Proofs.Text.Quoting
import JiraMarkup.Proofs.Text.TrimmedParts
import JiraMarkup.Proofs.Text.Trimming
import JiraMarkup.Proofs.Wiki.AnyStream
import JiraMarkup.Proofs.Wiki.BalancedLines
import JiraMarkup.Proofs.Wiki.BlockStarts
import JiraMarkup.Proofs.Wiki.BulletLines
import JiraMarkup.Proofs.Wiki.CallLog
import JiraMarkup.Proofs.Wiki.ChangedLines
import JiraMarkup.Proofs.Wiki.CodeBlockRepair
import JiraMarkup.Proofs.Wiki.CodeHeader
import JiraMarkup.Proofs.Wiki.CodeRecognition
import JiraMarkup.Proofs.Wiki.HeaderLines
import JiraMarkup.Proofs.Wiki.JoinedBullets
import JiraMarkup.Proofs.Wiki.KeptText
import JiraMarkup.Proofs.Wiki.ListLines
import JiraMarkup.Proofs.Wiki.MarkedLines
import JiraMarkup.Proofs.Wiki.NestedBullets
import JiraMarkup.Proofs.Wiki.NumberedCode
import JiraMarkup.Proofs.Wiki.OneScan
import JiraMarkup.Proofs.Wiki.RepairOrder
import JiraMarkup.Proofs.Wiki.RepairScan
import JiraMarkup.Proofs.Wiki.SettingsReach
import JiraMarkup.Proofs.Wiki.TreeRendering
import JiraMarkup.Proofs.Wiki.UnderscoreRuns
import JiraMarkup.Proofs.Wiki.Written
import JiraMarkup.Settings
import JiraMarkup.Settings.Loading
import JiraMarkup.Settings.Reading
import JiraMarkup.Text
import JiraMarkup.Text.Blank
import JiraMarkup.Text.Bytes
import JiraMarkup.Text.CaseFold
import JiraMarkup.Text.LineEnding
import JiraMarkup.Text.Printable
import JiraMarkup.Text.Punctuation
import JiraMarkup.Text.Quoted
import JiraMarkup.Text.Utf8
import JiraMarkup.Wiki.Bullets
import JiraMarkup.Wiki.Construct
import JiraMarkup.Wiki.Jira
import JiraMarkup.Wiki.Language
import JiraMarkup.Wiki.Rendering
import JiraMarkup.Wiki.Repair
import JiraMarkup.Proofs.Wiki.TableCells
