import ComponentFile.Batch
import ComponentFile.BuiltIn
import ComponentFile.Compilation
import ComponentFile.Component
import ComponentFile.Diagnostic
import ComponentFile.Digest
import ComponentFile.Document.Attribute
import ComponentFile.Document.Markup
import ComponentFile.Document.OpenTag
import ComponentFile.Document.Region
import ComponentFile.Engine
import ComponentFile.Files
import ComponentFile.Json.Basic
import ComponentFile.Json.Printer
import ComponentFile.Json.Reader
import ComponentFile.Metadata
import ComponentFile.Module
import ComponentFile.Number.Decimal
import ComponentFile.Number.Precision
import ComponentFile.Script.Cursor
import ComponentFile.Script.Element
import ComponentFile.Script.Engine
import ComponentFile.Script.Fault
import ComponentFile.Script.Gap
import ComponentFile.Script.Layout
import ComponentFile.Script.Linkage
import ComponentFile.Script.Lookahead
import ComponentFile.Script.Numeral
import ComponentFile.Script.Parser
import ComponentFile.Script.Place
import ComponentFile.Script.Printer
import ComponentFile.Script.Quote
import ComponentFile.Script.Scope
import ComponentFile.Script.Token
import ComponentFile.Script.Trait
import ComponentFile.Script.Tree
import ComponentFile.Script.Types
import ComponentFile.Script.Word
import ComponentFile.Session
import ComponentFile.Settings
import ComponentFile.Style.Block
import ComponentFile.Style.Calculation
import ComponentFile.Style.Color
import ComponentFile.Style.Condition
import ComponentFile.Style.Condition.Container
import ComponentFile.Style.Condition.Feature
import ComponentFile.Style.Condition.Media
import ComponentFile.Style.Condition.Support
import ComponentFile.Style.Engine
import ComponentFile.Style.Fault
import ComponentFile.Style.FontRule
import ComponentFile.Style.Identifier
import ComponentFile.Style.Layout
import ComponentFile.Style.Measure
import ComponentFile.Style.Piece
import ComponentFile.Style.Property
import ComponentFile.Style.Property.Display
import ComponentFile.Style.Property.Font
import ComponentFile.Style.Property.Grammar
import ComponentFile.Style.Property.Known
import ComponentFile.Style.Property.Name
import ComponentFile.Style.Registration
import ComponentFile.Style.Rule
import ComponentFile.Style.Rule.Parser
import ComponentFile.Style.Rule.Prelude
import ComponentFile.Style.Rule.Printer
import ComponentFile.Style.Scoping
import ComponentFile.Style.Selector
import ComponentFile.Style.Selector.Known
import ComponentFile.Style.Selector.Parser
import ComponentFile.Style.Selector.Printer
import ComponentFile.Style.Token
import ComponentFile.Style.Value
import ComponentFile.Style.Value.Reader
import ComponentFile.Styles
import ComponentFile.Template
import ComponentFile.Text.Blank
import ComponentFile.Text.Location
import ComponentFile.Text.NameChar
import ComponentFile.Text.Search
import ComponentFile.Text.Visible
import ComponentFile.Proofs.OpenTag
import ComponentFile.Proofs.RegionEnd
import ComponentFile.Proofs.Tiling
import ComponentFile.Proofs.Document
import ComponentFile.Proofs.Concatenation
import ComponentFile.Proofs.Classification
import ComponentFile.Proofs.ErrorPlaces
import ComponentFile.Proofs.TemplateLiteral
import ComponentFile.Proofs.SessionRun
import ComponentFile.Proofs.Pipeline
import ComponentFile.Proofs.Essence
import ComponentFile.Proofs.SelectorMatching
import ComponentFile.Proofs.StyleIsolation
import ComponentFile.Proofs.TemplateInsertion
import ComponentFile.Proofs.FileTrees
import ComponentFile.Proofs.BatchIsolation
import ComponentFile.Proofs.AttributeTable
import ComponentFile.Proofs.TemplateFragment
import ComponentFile.Proofs.ScopedOpenTag
import ComponentFile.Proofs.MarkupBalance
import ComponentFile.Proofs.NestedReading
import ComponentFile.Proofs.RuleTraversal
import ComponentFile.Proofs.ModuleParts
import ComponentFile.Proofs.JsonMembers
import ComponentFile.Proofs.JsonReading
import ComponentFile.Proofs.SettingsObject
import ComponentFile.Proofs.SettingsText
import ComponentFile.Proofs.CallerSettings
import ComponentFile.Proofs.LineColumn
import ComponentFile.Proofs.Discovery
import ComponentFile.Proofs.ScopeName
import ComponentFile.Proofs.ScopePlace
import ComponentFile.Proofs.DefaultExport
import ComponentFile.Proofs.VirtualPath
