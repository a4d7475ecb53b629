import ViewTemplate.Text.Blank
import ViewTemplate.Text.Lines
import ViewTemplate.Text.Search
import ViewTemplate.Text.Letter
import ViewTemplate.Text.Case
import ViewTemplate.Text.Quoted
import ViewTemplate.Text.Markup
import ViewTemplate.Decimal.Binary
import ViewTemplate.Decimal.Layout
import ViewTemplate.Decimal.Reading
import ViewTemplate.Value.Basic
import ViewTemplate.Value.Conversion
import ViewTemplate.Value.Reader
import ViewTemplate.Script.Calls
import ViewTemplate.Script.Lexeme
import ViewTemplate.Script.Describe
import ViewTemplate.Script.Error
import ViewTemplate.Script.Parser
import ViewTemplate.Script.Arithmetic
import ViewTemplate.Script.Eval
import ViewTemplate.Script.Exec
import ViewTemplate.Script.Native
import ViewTemplate.Template.Error
import ViewTemplate.Template.Marker
import ViewTemplate.Template.Segment
import ViewTemplate.View.Basic
import ViewTemplate.Template.Scanner
import ViewTemplate.Template.Arena
import ViewTemplate.Template.Listing
import ViewTemplate.Page.Function
import ViewTemplate.Page.Head
import ViewTemplate.Program.BlockError
import ViewTemplate.Program.Linked
import ViewTemplate.Program.Machine
import ViewTemplate.Directive.Basic
import ViewTemplate.Page.Engine
import ViewTemplate.Page.Parts
import ViewTemplate.Page.Render
import ViewTemplate.Cache.Fingerprint
import ViewTemplate.Cache.Memory
import ViewTemplate.Page.Compiler
import ViewTemplate.Settings.Toml
import ViewTemplate.CommandLine.Arguments
import ViewTemplate.CommandLine.Command
import ViewTemplate.Main
import ViewTemplate.Proofs.BlockTrees
import ViewTemplate.Proofs.BlockNesting
import ViewTemplate.Proofs.BackPatching
import ViewTemplate.Proofs.BlockExecution
import ViewTemplate.Proofs.LinkedExecution
import ViewTemplate.Proofs.PieceBoundaries
import ViewTemplate.Proofs.PieceShapes
import ViewTemplate.Proofs.MarkedPieces
import ViewTemplate.Proofs.Grammar
import ViewTemplate.Proofs.Readers
import ViewTemplate.Proofs.CallMarking
import ViewTemplate.Proofs.Nesting
import ViewTemplate.Proofs.BodyScan
import ViewTemplate.Proofs.EmbeddedScripts
import ViewTemplate.Proofs.PartComposition
import ViewTemplate.Proofs.PageVisits
import ViewTemplate.Proofs.WrittenParts
import ViewTemplate.Proofs.ArenaLinks
import ViewTemplate.Proofs.OpenFrames
import ViewTemplate.Proofs.TokenRows
import ViewTemplate.Proofs.EchoedParts
import ViewTemplate.Proofs.InheritedVars
import ViewTemplate.Proofs.MachineSteps
import ViewTemplate.Proofs.MadeViews
import ViewTemplate.Proofs.InnerViews
import ViewTemplate.Proofs.InheritedScopes
import ViewTemplate.Proofs.ActiveViews
import ViewTemplate.Proofs.FinishingPages
import ViewTemplate.Proofs.NumeralText
import ViewTemplate.Proofs.ShortestDecimal
import ViewTemplate.Proofs.NumberText
import ViewTemplate.Proofs.JsonText
import ViewTemplate.Proofs.Fingerprints
import ViewTemplate.Proofs.CachedCompilation
import ViewTemplate.Proofs.WrittenExpressions
import ViewTemplate.Proofs.NeededParentheses
import ViewTemplate.Proofs.TreeTables
import ViewTemplate.Proofs.PlainText
import ViewTemplate.Proofs.BlockErrors
import ViewTemplate.Proofs.JumpTargets
import ViewTemplate.Proofs.RunningLoops
import ViewTemplate.Proofs.TrimmedLines
import ViewTemplate.Proofs.SourceLines
import ViewTemplate.Proofs.OperationLines
import ViewTemplate.Proofs.FailedStatements
import ViewTemplate.Proofs.AssignedPlaces
import ViewTemplate.Proofs.BodyEnds
import ViewTemplate.Proofs.IntegerFloats
import ViewTemplate.Proofs.IntegerArithmetic
import ViewTemplate.Proofs.MarkedOnce
import ViewTemplate.Proofs.ShortenedScripts
import ViewTemplate.Proofs.EnclosingParentheses
import ViewTemplate.Proofs.EscapedMarkers
import ViewTemplate.Proofs.MarkerNewlines
import ViewTemplate.Proofs.EscapedMarkup
import ViewTemplate.Proofs.ScriptErrors
import ViewTemplate.Proofs.LoopClauses
import ViewTemplate.Proofs.JoinedScripts
import ViewTemplate.Proofs.CallSites
import ViewTemplate.Proofs.KnownCalls
import ViewTemplate.Proofs.HeadElements
import ViewTemplate.Proofs.IntegerRanges
import ViewTemplate.Proofs.MixedArrays
import ViewTemplate.Proofs.SeparatorCuts
import ViewTemplate.Proofs.LongestMarkers
import ViewTemplate.Proofs.CopiedCalls
import ViewTemplate.Proofs.BuilderSnapshots
