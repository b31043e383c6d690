import FenceSync.Block
import FenceSync.Character.Age
import FenceSync.Character.Boundary
import FenceSync.Character.Bounds
import FenceSync.Character.Case
import FenceSync.Character.Category
import FenceSync.Character.Derived
import FenceSync.Character.Letter
import FenceSync.Character.Property
import FenceSync.Character.Ranges
import FenceSync.Character.Recase
import FenceSync.Character.Script
import FenceSync.Character.Set
import FenceSync.Character.Trait
import FenceSync.CommandLine.Arguments
import FenceSync.CommandLine.Run
import FenceSync.Comment
import FenceSync.Delivery
import FenceSync.Directive
import FenceSync.Discovery
import FenceSync.Document
import FenceSync.Embed
import FenceSync.Fence
import FenceSync.FileTree
import FenceSync.Glob.Basic
import FenceSync.Glob.Pattern
import FenceSync.Glob.Written
import FenceSync.IgnoreRules
import FenceSync.Log
import FenceSync.Log.Filter
import FenceSync.Log.Style
import FenceSync.Main
import FenceSync.Marker
import FenceSync.Memory
import FenceSync.Newline
import FenceSync.Options
import FenceSync.Path
import FenceSync.Proofs.Agreement
import FenceSync.Proofs.Approach
import FenceSync.Proofs.BareLineFeeds
import FenceSync.Proofs.Calls
import FenceSync.Proofs.CarriageReturns
import FenceSync.Proofs.CarryingOut
import FenceSync.Proofs.Changes
import FenceSync.Proofs.Comments
import FenceSync.Proofs.Coupling
import FenceSync.Proofs.Crlf
import FenceSync.Proofs.CrlfReading
import FenceSync.Proofs.CrlfResolution
import FenceSync.Proofs.Decoding
import FenceSync.Proofs.Dedenting
import FenceSync.Proofs.Demand
import FenceSync.Proofs.Disturbance
import FenceSync.Proofs.DryRun
import FenceSync.Proofs.Effort
import FenceSync.Proofs.Encoding
import FenceSync.Proofs.Extraction
import FenceSync.Proofs.FenceSafety
import FenceSync.Proofs.Fences
import FenceSync.Proofs.FileLookup
import FenceSync.Proofs.FileMap
import FenceSync.Proofs.FixedPoint
import FenceSync.Proofs.Following
import FenceSync.Proofs.Forms
import FenceSync.Proofs.Idempotence
import FenceSync.Proofs.IndentInvariance
import FenceSync.Proofs.IndentedReading
import FenceSync.Proofs.Indenting
import FenceSync.Proofs.Interior
import FenceSync.Proofs.Keeping
import FenceSync.Proofs.LineCuts
import FenceSync.Proofs.LineNumbers
import FenceSync.Proofs.Lines
import FenceSync.Proofs.MarkerShapes
import FenceSync.Proofs.Markers
import FenceSync.Proofs.NewlineInvariance
import FenceSync.Proofs.Offsets
import FenceSync.Proofs.Pairing
import FenceSync.Proofs.PathOrder
import FenceSync.Proofs.Printing
import FenceSync.Proofs.Questions
import FenceSync.Proofs.Reading
import FenceSync.Proofs.Reembedding
import FenceSync.Proofs.Rescan
import FenceSync.Proofs.Resolution
import FenceSync.Proofs.Rewriting
import FenceSync.Proofs.Running
import FenceSync.Proofs.Runs
import FenceSync.Proofs.Searching
import FenceSync.Proofs.SecondRun
import FenceSync.Proofs.Sieving
import FenceSync.Proofs.Slicing
import FenceSync.Proofs.Sources
import FenceSync.Proofs.Spelling
import FenceSync.Proofs.Splicing
import FenceSync.Proofs.Splitting
import FenceSync.Proofs.Stepwise
import FenceSync.Proofs.Strictness
import FenceSync.Proofs.Switches
import FenceSync.Proofs.Tally
import FenceSync.Proofs.Trials
import FenceSync.Proofs.Trimming
import FenceSync.Proofs.Writing
import FenceSync.Regex.Basic
import FenceSync.Regex.Bracket
import FenceSync.Regex.Fault
import FenceSync.Regex.Meaning
import FenceSync.Regex.Posix
import FenceSync.Regex.Reader
import FenceSync.Regex.Source
import FenceSync.Regex.Weight
import FenceSync.Regex.Written
import FenceSync.Resolve
import FenceSync.Search
import FenceSync.Settings.Basic
import FenceSync.Settings.Toml
import FenceSync.Shell.Activity
import FenceSync.Shell.Arithmetic
import FenceSync.Shell.Assignment
import FenceSync.Shell.Brace
import FenceSync.Shell.Builtin.Describe
import FenceSync.Shell.Builtin.Input
import FenceSync.Shell.Builtin.Session
import FenceSync.Shell.Builtin.Variable
import FenceSync.Shell.Calendar
import FenceSync.Shell.Condition
import FenceSync.Shell.Digest
import FenceSync.Shell.Evaluate
import FenceSync.Shell.Expand
import FenceSync.Shell.Field
import FenceSync.Shell.Filename
import FenceSync.Shell.Invoke
import FenceSync.Shell.Kernel
import FenceSync.Shell.Launch
import FenceSync.Shell.Lookup
import FenceSync.Shell.Octet
import FenceSync.Shell.Pattern
import FenceSync.Shell.Permission
import FenceSync.Shell.Printf
import FenceSync.Shell.Program
import FenceSync.Shell.Quantity
import FenceSync.Shell.Reader
import FenceSync.Shell.Redirection
import FenceSync.Shell.Script
import FenceSync.Shell.Signal
import FenceSync.Shell.Start
import FenceSync.Shell.State
import FenceSync.Shell.Subshell
import FenceSync.Shell.System
import FenceSync.Shell.Table
import FenceSync.Shell.Test
import FenceSync.Shell.TimePhrase
import FenceSync.Shell.Tool.Arrange
import FenceSync.Shell.Tool.Attribute
import FenceSync.Shell.Tool.Basic
import FenceSync.Shell.Tool.Columns
import FenceSync.Shell.Tool.Compare
import FenceSync.Shell.Tool.Copy
import FenceSync.Shell.Tool.Digest
import FenceSync.Shell.Tool.Dump
import FenceSync.Shell.Tool.Encode
import FenceSync.Shell.Tool.Formula
import FenceSync.Shell.Tool.Listing
import FenceSync.Shell.Tool.Number
import FenceSync.Shell.Tool.Order
import FenceSync.Shell.Tool.Pieces
import FenceSync.Shell.Tool.Plain
import FenceSync.Shell.Tool.Process
import FenceSync.Shell.Tool.Remove
import FenceSync.Shell.Tool.Scale
import FenceSync.Shell.Tool.Text
import FenceSync.Shell.Tool.Translate
import FenceSync.Shell.Tool.Wrap
import FenceSync.Shell.Version
import FenceSync.Surroundings
import FenceSync.Text.Basic
import FenceSync.Text.Digit
import FenceSync.Text.Printable
import FenceSync.Text.Quoted
import FenceSync.Text.Split
import FenceSync.Text.Terminal
import FenceSync.Text.Utf8
import FenceSync.Trial
import FenceSync.Workbench
