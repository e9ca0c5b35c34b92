import SchemaPages.Command.Arguments
import SchemaPages.Command.Line
import SchemaPages.Command.Load
import SchemaPages.Command.Reports
import SchemaPages.Command.Run
import SchemaPages.Command.Trouble
import SchemaPages.Failure
import SchemaPages.Files.Path
import SchemaPages.Files.Storage
import SchemaPages.Files.Tree
import SchemaPages.Html.Builder
import SchemaPages.Html.Escape
import SchemaPages.Html.Layout
import SchemaPages.Html.Markup
import SchemaPages.Html.Stylesheet
import SchemaPages.Html.View
import SchemaPages.Introspection.Decode
import SchemaPages.Introspection.Encode
import SchemaPages.Introspection.Kind
import SchemaPages.Introspection.Load
import SchemaPages.Introspection.Schema
import SchemaPages.Introspection.TypeRef
import SchemaPages.Json.Lexeme
import SchemaPages.Json.Printer
import SchemaPages.Json.Reader
import SchemaPages.Json.Record
import SchemaPages.Json.Syntax
import SchemaPages.Json.Value
import SchemaPages.Keyed
import SchemaPages.Main
import SchemaPages.Number.Binary
import SchemaPages.Number.Shortest
import SchemaPages.Options.Context
import SchemaPages.Options.Host
import SchemaPages.Options.Plugin
import SchemaPages.Page.Document
import SchemaPages.Page.Plugin
import SchemaPages.Page.Recorder
import SchemaPages.Page.Renderer
import SchemaPages.Proofs.Command.Assets
import SchemaPages.Proofs.Command.Exit
import SchemaPages.Proofs.Command.Hosts
import SchemaPages.Proofs.Command.LastDefinitions
import SchemaPages.Proofs.Command.Listing
import SchemaPages.Proofs.Command.Outlines
import SchemaPages.Proofs.Command.Progress
import SchemaPages.Proofs.Command.Rendering
import SchemaPages.Proofs.Command.Stages
import SchemaPages.Proofs.Command.TextReports
import SchemaPages.Proofs.Files.Growth
import SchemaPages.Proofs.Files.Work
import SchemaPages.Proofs.Files.Writing
import SchemaPages.Proofs.Html.Addresses
import SchemaPages.Proofs.Html.Anchors
import SchemaPages.Proofs.Html.Comments
import SchemaPages.Proofs.Html.Contexts
import SchemaPages.Proofs.Html.Definition
import SchemaPages.Proofs.Html.Entity
import SchemaPages.Proofs.Html.Inline
import SchemaPages.Proofs.Html.Links
import SchemaPages.Proofs.Html.Members
import SchemaPages.Proofs.Html.Nesting
import SchemaPages.Proofs.Html.Reading
import SchemaPages.Proofs.Html.References
import SchemaPages.Proofs.Introspection.Additions
import SchemaPages.Proofs.Introspection.Envelope
import SchemaPages.Proofs.Introspection.RoundTrip
import SchemaPages.Proofs.Introspection.Wrappers
import SchemaPages.Proofs.Json.Decoding
import SchemaPages.Proofs.Json.Numerals
import SchemaPages.Proofs.Json.RoundTrip
import SchemaPages.Proofs.Json.Tokens
import SchemaPages.Proofs.Json.Values
import SchemaPages.Proofs.Keyed.Lookup
import SchemaPages.Proofs.Keyed.Order
import SchemaPages.Proofs.Options.Overrides
import SchemaPages.Proofs.Options.Resolution
import SchemaPages.Proofs.Page.Dispatch
import SchemaPages.Proofs.Report.Distinct
import SchemaPages.Proofs.Report.Leaves
import SchemaPages.Proofs.Report.Lines
import SchemaPages.Proofs.Report.Margins
import SchemaPages.Proofs.Report.Paths
import SchemaPages.Proofs.Report.Unstyled
import SchemaPages.Proofs.Template.Filling
import SchemaPages.Proofs.Template.Supply
import SchemaPages.Proofs.Text.ByteOrder
import SchemaPages.Proofs.Text.Tidy
import SchemaPages.Proofs.Text.Trimming
import SchemaPages.Report.Entities
import SchemaPages.Report.Flat
import SchemaPages.Report.Format
import SchemaPages.Report.Outline
import SchemaPages.Report.Style
import SchemaPages.Report.Write
import SchemaPages.Template.Render
import SchemaPages.Template.Syntax
import SchemaPages.Text.Blank
import SchemaPages.Text.CaseTable
import SchemaPages.Text.Cut
import SchemaPages.Text.Lines
import SchemaPages.Text.LowerCase
import SchemaPages.Text.Quoted
import SchemaPages.Text.UnprintedTable
import SchemaPages.Toml.Number
import SchemaPages.Toml.Reader
import SchemaPages.Toml.Table
import SchemaPages.Toml.Text
