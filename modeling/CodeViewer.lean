import CodeViewer.Bisect
import CodeViewer.Buffer.Basic
import CodeViewer.Buffer.Cursor
import CodeViewer.Buffer.Rope
import CodeViewer.Clipboard
import CodeViewer.CommandLine.Directory
import CodeViewer.CommandLine.Options
import CodeViewer.CommandLine.Run
import CodeViewer.Dump
import CodeViewer.Fault
import CodeViewer.Grammar.Ambiguity
import CodeViewer.Grammar.Basic
import CodeViewer.Grammar.Block
import CodeViewer.Grammar.Compile
import CodeViewer.Grammar.Compiled
import CodeViewer.Grammar.Error
import CodeViewer.Grammar.Glob
import CodeViewer.Grammar.Registry
import CodeViewer.Grammar.Words
import CodeViewer.Grammar.Zig
import CodeViewer.Highlight.Group
import CodeViewer.Highlight.Highlighter
import CodeViewer.Log
import CodeViewer.Main
import CodeViewer.Metrics.Counters
import CodeViewer.Metrics.Exposition
import CodeViewer.Metrics.Failure
import CodeViewer.Metrics.Request
import CodeViewer.Pattern.Captured
import CodeViewer.Pattern.CharSet
import CodeViewer.Pattern.Error
import CodeViewer.Pattern.Escape
import CodeViewer.Pattern.Groups
import CodeViewer.Pattern.LowerCase
import CodeViewer.Pattern.Machine
import CodeViewer.Pattern.Matcher
import CodeViewer.Pattern.Node
import CodeViewer.Pattern.Options
import CodeViewer.Pattern.Parser
import CodeViewer.Pattern.Program
import CodeViewer.Pattern.Search
import CodeViewer.Pattern.SetReader
import CodeViewer.Pattern.Shared
import CodeViewer.Pattern.Tape
import CodeViewer.Scan.Classify
import CodeViewer.Scan.ModeStack
import CodeViewer.Scan.Scanner
import CodeViewer.Scan.Step
import CodeViewer.Scan.Token
import CodeViewer.Screen.Basic
import CodeViewer.Screen.Cluster
import CodeViewer.Screen.Coordinate
import CodeViewer.Screen.Style
import CodeViewer.Screen.Width
import CodeViewer.SourceFile
import CodeViewer.Terminal.Keys
import CodeViewer.Terminal.Picture
import CodeViewer.Text.Integer
import CodeViewer.Text.Quote
import CodeViewer.Text.Storage
import CodeViewer.Text.Utf8
import CodeViewer.Unicode.Case
import CodeViewer.Unicode.Category
import CodeViewer.Unicode.Cell
import CodeViewer.Unicode.Cluster
import CodeViewer.Unicode.Digit
import CodeViewer.Unicode.Graphic
import CodeViewer.Unicode.Letter
import CodeViewer.Unicode.Mark
import CodeViewer.Unicode.Named
import CodeViewer.Unicode.Property
import CodeViewer.Unicode.Script
import CodeViewer.Unicode.Table
import CodeViewer.Viewer.Basic
import CodeViewer.Viewer.Copy
import CodeViewer.Viewer.Session
import CodeViewer.Viewer.Status
import CodeViewer.Widget.Bounds
import CodeViewer.Widget.CodeView
import CodeViewer.Widget.InputField
import CodeViewer.Widget.Key
import CodeViewer.Widget.LinePrompt
import CodeViewer.Widget.StatusBar
import CodeViewer.Widget.Theme
import CodeViewer.Proofs.Except
import CodeViewer.Proofs.Grammar.Forest
import CodeViewer.Proofs.Pattern.Extent
import CodeViewer.Proofs.Text.Pieces
import CodeViewer.Proofs.Scan.ModeStack
import CodeViewer.Proofs.Scan.OpenModes
import CodeViewer.Proofs.Scan.Search
import CodeViewer.Proofs.Scan.Step
import CodeViewer.Proofs.Scan.Run
import CodeViewer.Proofs.Scan.Progress
import CodeViewer.Proofs.Scan.Tiling
import CodeViewer.Proofs.Scan.TopLevel
import CodeViewer.Proofs.Grammar.RuleSet
import CodeViewer.Proofs.Grammar.Exploration
import CodeViewer.Proofs.Scan.Ambiguity
import CodeViewer.Proofs.Scan.Absorption
import CodeViewer.Proofs.Scan.DepthLimit
import CodeViewer.Proofs.Grammar.WellFormed
import CodeViewer.Proofs.Text.Slices
import CodeViewer.Proofs.Text.Lines
import CodeViewer.Proofs.Buffer.Rope
import CodeViewer.Proofs.Buffer.Lines
import CodeViewer.Proofs.Highlight.Lookup
import CodeViewer.Proofs.Highlight.Matches
import CodeViewer.Proofs.Widget.Drawing
import CodeViewer.Proofs.Buffer.Characters
import CodeViewer.Proofs.Buffer.OnePiece
import CodeViewer.Proofs.Highlight.Agreement
import CodeViewer.Proofs.Buffer.Cursor
import CodeViewer.Proofs.Screen.Puts
import CodeViewer.Proofs.Text.Decimal
import CodeViewer.Proofs.Screen.Cells
import CodeViewer.Proofs.Widget.Scrolling
import CodeViewer.Proofs.Widget.InputField
import CodeViewer.Proofs.Widget.LineEditor
import CodeViewer.Proofs.Widget.LinePrompt
import CodeViewer.Proofs.Viewer.Presenting
import CodeViewer.Proofs.Viewer.Safety
import CodeViewer.Proofs.Viewer.Session
import CodeViewer.Proofs.Viewer.CursorInView
import CodeViewer.Proofs.Viewer.GoingToLine
import CodeViewer.Proofs.Viewer.PromptInStep
import CodeViewer.Proofs.Scan.Cancellation
import CodeViewer.Proofs.Grammar.Registry
import CodeViewer.Proofs.Grammar.Selection
import CodeViewer.Proofs.Scan.Classes
import CodeViewer.Proofs.Text.Unquote
import CodeViewer.Proofs.Dump
import CodeViewer.Proofs.Grammar.Categories
import CodeViewer.Proofs.Scan.Arbitration
import CodeViewer.Proofs.Pattern.Literal
import CodeViewer.Proofs.Pattern.Tree
import CodeViewer.Proofs.Scan.Refusal
import CodeViewer.Proofs.Grammar.Words
import CodeViewer.Proofs.Scan.Classification
import CodeViewer.Proofs.Buffer.Positions
import CodeViewer.Proofs.Scan.Stray
import CodeViewer.Proofs.Grammar.Places
import CodeViewer.Proofs.Scan.Cascade
import CodeViewer.Proofs.Grammar.DelimitedString
import CodeViewer.Proofs.Scan.Strings
import CodeViewer.Proofs.Buffer.Offsets
import CodeViewer.Proofs.Buffer.Motions
import CodeViewer.Proofs.Widget.Browsing
import CodeViewer.Proofs.Widget.TokenJumps
import CodeViewer.Proofs.Metrics.Counters
import CodeViewer.Proofs.Viewer.Openings
import CodeViewer.Proofs.Widget.Bounds
import CodeViewer.Proofs.Widget.InsideBounds
import CodeViewer.Proofs.Screen.Width
import CodeViewer.Proofs.Widget.StatusBar
import CodeViewer.Proofs.Grammar.ModeKey
import CodeViewer.Proofs.Grammar.Visits
import CodeViewer.Proofs.Scan.Duplicates
