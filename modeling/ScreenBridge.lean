import ScreenBridge.AppConfig
import ScreenBridge.Bridge.Basic
import ScreenBridge.Bridge.Dispatch
import ScreenBridge.Bridge.Rehearsal
import ScreenBridge.Bridge.Task
import ScreenBridge.Component.Basic
import ScreenBridge.Component.Check
import ScreenBridge.Component.Translation
import ScreenBridge.CountedIds
import ScreenBridge.Files.Path
import ScreenBridge.Files.Tree
import ScreenBridge.Json.Basic
import ScreenBridge.Json.Limits
import ScreenBridge.Json.Plain
import ScreenBridge.Json.Reader
import ScreenBridge.Json.Text
import ScreenBridge.Keyed
import ScreenBridge.Log.Context
import ScreenBridge.Log.Notice
import ScreenBridge.Log.Output
import ScreenBridge.Main
import ScreenBridge.Mapping.Builtin
import ScreenBridge.Mapping.Entry
import ScreenBridge.Mapping.Registry
import ScreenBridge.Metrics
import ScreenBridge.Number.Binary64
import ScreenBridge.Number.Layout
import ScreenBridge.Number.Shortest
import ScreenBridge.Schema.Checked
import ScreenBridge.Schema.Field
import ScreenBridge.Schema.Whole
import ScreenBridge.Server.Basic
import ScreenBridge.Server.Network
import ScreenBridge.Server.Page
import ScreenBridge.Session
import ScreenBridge.Settings.Assignment
import ScreenBridge.Settings.Basic
import ScreenBridge.Settings.Notation
import ScreenBridge.Settings.Sources
import ScreenBridge.Source.Manifest
import ScreenBridge.Source.Markup
import ScreenBridge.Source.Naming
import ScreenBridge.Source.Project
import ScreenBridge.Source.Screen
import ScreenBridge.Source.Stylesheet
import ScreenBridge.Text.Blank
import ScreenBridge.Text.Case
import ScreenBridge.Text.CaseTable
import ScreenBridge.Text.Printable
import ScreenBridge.Text.Search
import ScreenBridge.Text.Utf8
import ScreenBridge.Timestamp
import ScreenBridge.Ui.Document
import ScreenBridge.Ui.Node
import ScreenBridge.Wire.Envelope
import ScreenBridge.Wire.Failure
import ScreenBridge.Wire.Message
import ScreenBridge.Proofs.Interleaving
import ScreenBridge.Proofs.Bookkeeping
import ScreenBridge.Proofs.FanOut
import ScreenBridge.Proofs.Broadcast
import ScreenBridge.Proofs.SharedConfig
import ScreenBridge.Proofs.ReaderProgress
import ScreenBridge.Proofs.ReaderSteps
import ScreenBridge.Proofs.BreakOff
import ScreenBridge.Proofs.FrameAnswers
import ScreenBridge.Proofs.MessageText
import ScreenBridge.Proofs.FrameCourse
import ScreenBridge.Proofs.GenerationStops
import ScreenBridge.Proofs.Failures
import ScreenBridge.Proofs.Conduct
import ScreenBridge.Proofs.CurrentConfig
import ScreenBridge.Proofs.Attendance
import ScreenBridge.Proofs.TranslatedTree
import ScreenBridge.Proofs.WellFormedComponents
import ScreenBridge.Proofs.TokenText
import ScreenBridge.Proofs.ReadBack
import ScreenBridge.Proofs.NearestNumber
import ScreenBridge.Proofs.NumberLength
import ScreenBridge.Proofs.Utf8Strict
import ScreenBridge.Proofs.TextLength
import ScreenBridge.Proofs.ReadLength
import ScreenBridge.Proofs.NodeMembers
import ScreenBridge.Proofs.TranslatedProps
import ScreenBridge.Proofs.TranslationSize
import ScreenBridge.Proofs.Places
import ScreenBridge.Proofs.TreeChanges
import ScreenBridge.Proofs.CaseMapping
import ScreenBridge.Proofs.GenerationCourse
import ScreenBridge.Proofs.ProjectLayout
import ScreenBridge.Proofs.ManifestLedger
import ScreenBridge.Proofs.ManifestText
import ScreenBridge.Proofs.Regeneration
import ScreenBridge.Proofs.GenerationCrashes
import ScreenBridge.Proofs.GenerationReports
import ScreenBridge.Proofs.Occurrences
import ScreenBridge.Proofs.Registration
import ScreenBridge.Proofs.ManifestHistory
import ScreenBridge.Proofs.MarkupShape
import ScreenBridge.Proofs.LineBreaks
import ScreenBridge.Proofs.MarkupReader
import ScreenBridge.Proofs.MarkupReading
import ScreenBridge.Proofs.LiveAgreement
import ScreenBridge.Proofs.KeyOrder
import ScreenBridge.Proofs.RenameLaw
import ScreenBridge.Proofs.StylesheetRules
import ScreenBridge.Proofs.FirstFault
import ScreenBridge.Proofs.ScreenFiles
import ScreenBridge.Proofs.NestingGuard
import ScreenBridge.Proofs.ConfigRereading
import ScreenBridge.Proofs.ManifestKept
import ScreenBridge.Proofs.MessageHeight
import ScreenBridge.Proofs.WritableValues
import ScreenBridge.Proofs.BroadcastHeight
import ScreenBridge.Proofs.QuotedAttributes
import ScreenBridge.Proofs.ScreenLiterals
import ScreenBridge.Proofs.RegistryHistory
import ScreenBridge.Proofs.StyleNames
