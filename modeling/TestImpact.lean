import TestImpact.Agent
import TestImpact.Arguments
import TestImpact.Child.Launcher
import TestImpact.Child.Machine
import TestImpact.Child.Program
import TestImpact.Child.Shell.Arithmetic
import TestImpact.Child.Shell.Directory
import TestImpact.Child.Shell.Expand
import TestImpact.Child.Shell.Grammar
import TestImpact.Child.Shell.Input
import TestImpact.Child.Shell.Jobs
import TestImpact.Child.Shell.Lookup
import TestImpact.Child.Shell.Matching
import TestImpact.Child.Shell.Reader
import TestImpact.Child.Shell.Redirection
import TestImpact.Child.Shell.Run
import TestImpact.Child.Shell.Script
import TestImpact.Child.Shell.Settings
import TestImpact.Child.Shell.Start
import TestImpact.Child.Shell.Syntax
import TestImpact.Child.Shell.Variables
import TestImpact.Child.Supervise
import TestImpact.Child.Utility.Columns
import TestImpact.Child.Utility.Condition
import TestImpact.Child.Utility.FileTools
import TestImpact.Child.Utility.Listing
import TestImpact.Child.Utility.Options
import TestImpact.Child.Utility.Printing
import TestImpact.Child.Utility.Program
import TestImpact.Child.Utility.Regex
import TestImpact.Child.Utility.Search
import TestImpact.Child.Utility.Sequence
import TestImpact.Child.Utility.Signals
import TestImpact.Child.Utility.Sleep
import TestImpact.Child.Utility.Sorting
import TestImpact.Child.Utility.TextTools
import TestImpact.Child.Utility.Transfer
import TestImpact.CommandLine.Basic
import TestImpact.CommandLine.Commands
import TestImpact.CommandLine.Help
import TestImpact.CommandLine.Option
import TestImpact.CommandLine.Problem
import TestImpact.CommandLine.Snapshot
import TestImpact.CommandLine.Values
import TestImpact.Accounts
import TestImpact.CommandLine.Words
import TestImpact.Config.Basic
import TestImpact.Config.Check
import TestImpact.Config.Dump
import TestImpact.Config.EnvironmentLayer
import TestImpact.Config.Home
import TestImpact.Config.Integer
import TestImpact.Config.Issue
import TestImpact.Config.Lax
import TestImpact.Config.Library
import TestImpact.Config.Load
import TestImpact.Config.Merge
import TestImpact.Data.Basic
import TestImpact.Data.Calendar
import TestImpact.Data.Knot
import TestImpact.Data.Written
import TestImpact.Environment
import TestImpact.Error
import TestImpact.Failure
import TestImpact.Fault
import TestImpact.Files.Basic
import TestImpact.Files.Operations
import TestImpact.Json.Reader
import TestImpact.Json.Writer
import TestImpact.Launch.Artifact
import TestImpact.Launch.Basic
import TestImpact.Launch.Operation
import TestImpact.Launch.Session
import TestImpact.Log.Journal
import TestImpact.Log.Level
import TestImpact.Log.Line
import TestImpact.Log.Method
import TestImpact.Log.Record
import TestImpact.Log.Template
import TestImpact.Main
import TestImpact.Number.Binary64
import TestImpact.Number.Limit
import TestImpact.Number.Loose
import TestImpact.Number.Places
import TestImpact.Path
import TestImpact.Pattern.Basic
import TestImpact.Pattern.Dotted
import TestImpact.Pattern.Glob
import TestImpact.Pattern.Regex
import TestImpact.Plan
import TestImpact.Proofs.Files.Clearing
import TestImpact.Proofs.Files.Faults
import TestImpact.Proofs.Files.Growth
import TestImpact.Proofs.Files.Walk
import TestImpact.Proofs.Launch.Coverage
import TestImpact.Proofs.Launch.Outputs
import TestImpact.Proofs.Launch.Secrecy
import TestImpact.Proofs.Commands.Secrecy
import TestImpact.Proofs.Commands.Options
import TestImpact.Proofs.Commands.Showing
import TestImpact.Proofs.Files.Contents
import TestImpact.Proofs.Launch.Gates
import TestImpact.Proofs.Launch.Interruption
import TestImpact.Proofs.Launch.Lookup
import TestImpact.Proofs.Launch.Moments
import TestImpact.Proofs.Launch.Reentry
import TestImpact.Proofs.Launch.Sessions
import TestImpact.Proofs.Launch.Spawning
import TestImpact.Proofs.Launch.Steps
import TestImpact.Proofs.Planning
import TestImpact.Proofs.Segments
import TestImpact.Revision
import TestImpact.Run
import TestImpact.ScanPath
import TestImpact.Terminal
import TestImpact.Text.Blank
import TestImpact.Text.Case
import TestImpact.Text.Cased
import TestImpact.Text.Digits
import TestImpact.Text.Printable
import TestImpact.Text.Quoted
import TestImpact.Text.Raw
import TestImpact.Text.Similar
import TestImpact.Text.Split
import TestImpact.Text.Utf8
import TestImpact.Text.Wrap
import TestImpact.Yaml.Building
import TestImpact.Yaml.Cursor
import TestImpact.Yaml.Node
import TestImpact.Yaml.Scalar
import TestImpact.Yaml.Token.Basic
import TestImpact.Yaml.Token.Lexer
import TestImpact.Yaml.Token.Scalar
import TestImpact.Yaml.Value
import TestImpact.Proofs.Agreement
import TestImpact.Proofs.Pattern.Matching
import TestImpact.Proofs.Launch.Refusal
import TestImpact.Proofs.Pattern.Normal
import TestImpact.Proofs.Pattern.Refusal
import TestImpact.Proofs.Pattern.Spelling
import TestImpact.Proofs.Pattern.Collapsing
import TestImpact.Proofs.Pattern.PathGlob
import TestImpact.Proofs.Pattern.Canonical
import TestImpact.Proofs.RawText
import TestImpact.Proofs.Reading
import TestImpact.Proofs.Joining
import TestImpact.Proofs.PathLists
import TestImpact.Proofs.Paths.Texts
import TestImpact.Proofs.Paths.Climbing
import TestImpact.Proofs.Paths.Places
import TestImpact.Proofs.Directive.Reading
import TestImpact.Proofs.Directive.Building
import TestImpact.Proofs.Config.Layers
import TestImpact.Proofs.Requirements
import TestImpact.Proofs.ControlChannel
import TestImpact.Proofs.Config.Checks
import TestImpact.Proofs.Config.Dumping
import TestImpact.Proofs.Config.Lax
import TestImpact.Proofs.Config.Variables
import TestImpact.Proofs.Config.Reporting
import TestImpact.Proofs.Pattern.Decoding
import TestImpact.Proofs.Directive.Grammar
import TestImpact.Proofs.Launch.Endings
import TestImpact.Proofs.Launch.Account
import TestImpact.Proofs.RunPaths
import TestImpact.Proofs.ScanPaths
import TestImpact.Proofs.Launch.Supervision
import TestImpact.Proofs.Masking
import TestImpact.Proofs.Config.Overlay
import TestImpact.Proofs.Launch.Preparation
