import Manuscript.Binary64.Basic
import Manuscript.Binary64.Reader
import Manuscript.Binary64.Shortest
import Manuscript.CommandLine.Arguments
import Manuscript.CommandLine.Session
import Manuscript.CommandLine.Snapshot
import Manuscript.Config.Build
import Manuscript.Config.Load
import Manuscript.Config.Search
import Manuscript.Convert
import Manuscript.Dependency
import Manuscript.Fault
import Manuscript.Files.Path
import Manuscript.Files.Text
import Manuscript.Files.Tree
import Manuscript.Frontmatter.Decode
import Manuscript.Frontmatter.Extract
import Manuscript.Frontmatter.Split
import Manuscript.Json.Reader
import Manuscript.Latex.Directive
import Manuscript.Latex.Escape
import Manuscript.Latex.Image
import Manuscript.Latex.Renderer
import Manuscript.Latex.Verb
import Manuscript.Log
import Manuscript.Logging.History
import Manuscript.Logging.Root
import Manuscript.Logging.Threshold
import Manuscript.Main
import Manuscript.Markdown.Block
import Manuscript.Markdown.Build
import Manuscript.Markdown.Emphasis
import Manuscript.Markdown.Fence
import Manuscript.Markdown.Footnote
import Manuscript.Markdown.Html
import Manuscript.Markdown.Inline
import Manuscript.Markdown.Line
import Manuscript.Markdown.Marker
import Manuscript.Markdown.Math
import Manuscript.Markdown.Outline
import Manuscript.Markdown.Parse
import Manuscript.Markdown.PlainText
import Manuscript.Markdown.Stream
import Manuscript.Markdown.Table
import Manuscript.Markdown.Target
import Manuscript.Markdown.Task
import Manuscript.Markdown.Token
import Manuscript.Moment
import Manuscript.Options.Any
import Manuscript.Options.Basic
import Manuscript.Options.History
import Manuscript.Proofs.CommandLine.Reads
import Manuscript.Proofs.CommandLine.Streams
import Manuscript.Proofs.Config.Agreement
import Manuscript.Proofs.Config.Build
import Manuscript.Proofs.Config.Load
import Manuscript.Proofs.Config.Search
import Manuscript.Proofs.Conversion.Body
import Manuscript.Proofs.Conversion.Frontmatter
import Manuscript.Proofs.Conversion.Independence
import Manuscript.Proofs.Dependency
import Manuscript.Proofs.Files.Tree
import Manuscript.Proofs.Frontmatter.Delimited
import Manuscript.Proofs.Frontmatter.FinalBreak
import Manuscript.Proofs.Frontmatter.Refusal
import Manuscript.Proofs.Frontmatter.Split
import Manuscript.Proofs.Latex.Agreement
import Manuscript.Proofs.Latex.Compositional
import Manuscript.Proofs.Latex.Delimiter
import Manuscript.Proofs.Latex.Escaping
import Manuscript.Proofs.Latex.Extension
import Manuscript.Proofs.Latex.FirstFailure
import Manuscript.Proofs.Latex.Foreign
import Manuscript.Proofs.Latex.Grammatical
import Manuscript.Proofs.Latex.Nesting
import Manuscript.Proofs.Latex.Renderable
import Manuscript.Proofs.Latex.Reuse
import Manuscript.Proofs.Latex.Shown
import Manuscript.Proofs.Latex.Suppressed
import Manuscript.Proofs.Latex.TableReading
import Manuscript.Proofs.Latex.Unescaping
import Manuscript.Proofs.Latex.Writing
import Manuscript.Proofs.Logging.History
import Manuscript.Proofs.Markdown.BlockText
import Manuscript.Proofs.Markdown.Emission
import Manuscript.Proofs.Markdown.Extensions
import Manuscript.Proofs.Markdown.Fence
import Manuscript.Proofs.Markdown.Grammar
import Manuscript.Proofs.Markdown.InlineText
import Manuscript.Proofs.Markdown.Leaves
import Manuscript.Proofs.Markdown.LineBreaks
import Manuscript.Proofs.Markdown.Obstacle
import Manuscript.Proofs.Markdown.Outline
import Manuscript.Proofs.Markdown.Running
import Manuscript.Proofs.Markdown.TokenGrammar
import Manuscript.Proofs.Markdown.Unrecognised
import Manuscript.Proofs.Options.History
import Manuscript.Proofs.Options.Update
import Manuscript.Proofs.Outcome
import Manuscript.Proofs.Run
import Manuscript.Proofs.Template.Cut
import Manuscript.Proofs.Template.FieldText
import Manuscript.Proofs.Template.Substitution
import Manuscript.Proofs.Template.Unresolved
import Manuscript.Proofs.Text.Ends
import Manuscript.Proofs.Tree.Grammar
import Manuscript.Proofs.Tree.Parts
import Manuscript.Proofs.Tree.WholeText
import Manuscript.Proofs.Yaml.Mapping
import Manuscript.Template.Field
import Manuscript.Template.Fill
import Manuscript.Template.Placeholder
import Manuscript.Text.Base64
import Manuscript.Text.Blank
import Manuscript.Text.CharSet
import Manuscript.Text.Digit
import Manuscript.Text.Entity
import Manuscript.Text.EntityTable
import Manuscript.Text.LetterCase
import Manuscript.Text.Lines
import Manuscript.Text.Percent
import Manuscript.Text.Printable
import Manuscript.Text.Punctuation
import Manuscript.Text.Quoted
import Manuscript.Text.Word
import Manuscript.Toml.Reader
import Manuscript.Toml.Scalar
import Manuscript.Toml.Table
import Manuscript.Tree.Directive
import Manuscript.Tree.Heading
import Manuscript.Tree.Node
import Manuscript.Tree.Visit
import Manuscript.Value.Basic
import Manuscript.Value.Key
import Manuscript.Value.Text
import Manuscript.Version.Basic
import Manuscript.Version.Installation
import Manuscript.Version.Reader
import Manuscript.Version.Specifier
import Manuscript.Yaml.Compose
import Manuscript.Yaml.Construct
import Manuscript.Yaml.Cursor
import Manuscript.Yaml.Loader
import Manuscript.Yaml.Resolve
import Manuscript.Yaml.Scalar
import Manuscript.Yaml.Scan
import Manuscript.Yaml.Token
