import MessageCard.Card.Document
import MessageCard.Card.Element
import MessageCard.Card.Fault
import MessageCard.Card.LocalizedText
import MessageCard.Card.Section
import MessageCard.Card.StrictText
import MessageCard.Card.Tag
import MessageCard.CommandLine.Command
import MessageCard.CommandLine.Help
import MessageCard.CommandLine.Run
import MessageCard.CommandLine.Switch
import MessageCard.Compilation.Card
import MessageCard.Compilation.Element
import MessageCard.Compilation.Image
import MessageCard.Compilation.Trace
import MessageCard.Diagnostic
import MessageCard.FileTree
import MessageCard.Fixture.Basic
import MessageCard.Fixture.Check
import MessageCard.Inline.Event
import MessageCard.Inline.Run
import MessageCard.Json.Reader
import MessageCard.Json.Typed
import MessageCard.Json.Value
import MessageCard.Json.Writer
import MessageCard.Main
import MessageCard.Markdown.Block
import MessageCard.Markdown.Cell
import MessageCard.Markdown.Emphasis
import MessageCard.Markdown.Entity
import MessageCard.Markdown.Inline
import MessageCard.Markdown.Line
import MessageCard.Markdown.LineStart
import MessageCard.Markdown.Reference
import MessageCard.Markdown.Runs
import MessageCard.Markdown.Tag
import MessageCard.Node.Basic
import MessageCard.Node.Encoding
import MessageCard.Node.Html
import MessageCard.Node.Outline
import MessageCard.Node.Stylesheet
import MessageCard.Number.Double
import MessageCard.Number.Shortest
import MessageCard.Number.Written
import MessageCard.Options.Basic
import MessageCard.Options.Json
import MessageCard.Options.Toml
import MessageCard.Path
import MessageCard.Proofs.AlikeCompilation
import MessageCard.Proofs.AlikeReading
import MessageCard.Proofs.CardReading
import MessageCard.Proofs.CategorySelection
import MessageCard.Proofs.CompactReading
import MessageCard.Proofs.CompactText
import MessageCard.Proofs.DefaultCommand
import MessageCard.Proofs.DocumentGrammar
import MessageCard.Proofs.DocumentOrder
import MessageCard.Proofs.DocumentRun
import MessageCard.Proofs.DoubleValue
import MessageCard.Proofs.EntryAccounting
import MessageCard.Proofs.EscapedText
import MessageCard.Proofs.EventForest
import MessageCard.Proofs.FailurePlaces
import MessageCard.Proofs.FieldReading
import MessageCard.Proofs.FileNames
import MessageCard.Proofs.FirstOffence
import MessageCard.Proofs.FirstViolation
import MessageCard.Proofs.FixtureDiscovery
import MessageCard.Proofs.FixtureLines
import MessageCard.Proofs.FixtureRuns
import MessageCard.Proofs.FixtureVerdicts
import MessageCard.Proofs.GrammarAcceptance
import MessageCard.Proofs.GrammarReading
import MessageCard.Proofs.LoadedOptions
import MessageCard.Proofs.LocaleIndependence
import MessageCard.Proofs.MarkupNesting
import MessageCard.Proofs.MarkupReading
import MessageCard.Proofs.MarkupText
import MessageCard.Proofs.MovedTraces
import MessageCard.Proofs.NestedBody
import MessageCard.Proofs.NestingLimit
import MessageCard.Proofs.NodeGrammar
import MessageCard.Proofs.NullFields
import MessageCard.Proofs.Offences
import MessageCard.Proofs.OrderedFields
import MessageCard.Proofs.OrderedTraces
import MessageCard.Proofs.OutlineLines
import MessageCard.Proofs.OutlineReading
import MessageCard.Proofs.OutputModes
import MessageCard.Proofs.PlainNumber
import MessageCard.Proofs.PositionOffsets
import MessageCard.Proofs.PrunedCompilation
import MessageCard.Proofs.Pruning
import MessageCard.Proofs.QuotedText
import MessageCard.Proofs.ReadParts
import MessageCard.Proofs.ReaderInvariants
import MessageCard.Proofs.ReportAccounting
import MessageCard.Proofs.ReportClasses
import MessageCard.Proofs.ReportPlaces
import MessageCard.Proofs.ReportedValues
import MessageCard.Proofs.RoundedFraction
import MessageCard.Proofs.RunContent
import MessageCard.Proofs.SettingRelation
import MessageCard.Proofs.ShownTitles
import MessageCard.Proofs.SiblingComposition
import MessageCard.Proofs.SilentLevel
import MessageCard.Proofs.SkippedValues
import MessageCard.Proofs.SourceSpans
import MessageCard.Proofs.SpelledCommands
import MessageCard.Proofs.StreamCollection
import MessageCard.Proofs.StrictAcceptance
import MessageCard.Proofs.SuiteGrouping
import MessageCard.Proofs.SuiteOrder
import MessageCard.Proofs.SuiteRuns
import MessageCard.Proofs.TextNesting
import MessageCard.Proofs.TextParts
import MessageCard.Proofs.TextReaders
import MessageCard.Proofs.TraceAlgebra
import MessageCard.Proofs.TreeDecoding
import MessageCard.Proofs.TreeShape
import MessageCard.Proofs.UnknownTags
import MessageCard.Proofs.UnreadFields
import MessageCard.Proofs.ValidatorCalls
import MessageCard.Proofs.ValidatorTraces
import MessageCard.Proofs.ValuePlaces
import MessageCard.Proofs.VisitedEntries
import MessageCard.Report.Snippet
import MessageCard.Report.Source
import MessageCard.Suite.Basic
import MessageCard.Suite.Run
import MessageCard.Text.Blank
import MessageCard.Text.Bytes
import MessageCard.Text.Caseless
import MessageCard.Text.CharSet
import MessageCard.Text.Hidden
import MessageCard.Text.Position
import MessageCard.Text.Punctuation
import MessageCard.Text.Quoted
import MessageCard.Text.Search
import MessageCard.Text.Width
import MessageCard.Toml.Reader
import MessageCard.Toml.Scalar
import MessageCard.Toml.Settings
import MessageCard.Toml.Table
import MessageCard.Toml.Text
import MessageCard.Validator
