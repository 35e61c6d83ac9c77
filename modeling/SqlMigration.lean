import SqlMigration.Text.Printable
import SqlMigration.Text.Quoted
import SqlMigration.Text.Blank
import SqlMigration.Text.Digit
import SqlMigration.Text.Utf8
import SqlMigration.Text.Unicode
import SqlMigration.Number.Binary64
import SqlMigration.Number.Shortest
import SqlMigration.Number.Notation
import SqlMigration.Number.Literal
import SqlMigration.Datum
import SqlMigration.Datum.Compare
import SqlMigration.Sorting
import SqlMigration.Path
import SqlMigration.FileTree.Basic
import SqlMigration.Catalog.Basic
import SqlMigration.Catalog.TypeMap
import SqlMigration.Ddl.Identifier
import SqlMigration.Ddl.Render
import SqlMigration.DataFile.CopyText
import SqlMigration.DataFile.Delimiter
import SqlMigration.DataFile.Bcp
import SqlMigration.Connection.Field
import SqlMigration.Connection.Basic
import SqlMigration.Text.Percent
import SqlMigration.FileTree.Glob
import SqlMigration.Command.Basic
import SqlMigration.Command.Script
import SqlMigration.Catalog.Source
import SqlMigration.Fault
import SqlMigration.Host
import SqlMigration.DataFile.Convert
import SqlMigration.Layout
import SqlMigration.Text.Lines
import SqlMigration.Host.Run
import SqlMigration.Export
import SqlMigration.Load
import SqlMigration.Apply
import SqlMigration.Shell.Syntax
import SqlMigration.Shell.Format
import SqlMigration.Shell.Pattern
import SqlMigration.Shell.Arith
import SqlMigration.Shell.BashArith
import SqlMigration.Shell.State
import SqlMigration.Shell.Test
import SqlMigration.Shell.BashTest
import SqlMigration.Shell.TestProgram
import SqlMigration.Shell.Fields
import SqlMigration.Shell.Parse
import SqlMigration.Shell.Braces
import SqlMigration.Shell.Regex
import SqlMigration.Shell.Expr
import SqlMigration.Shell.Mode
import SqlMigration.Shell.Utility
import SqlMigration.Shell.Translate
import SqlMigration.Shell.PerlRegex
import SqlMigration.Shell.GrepPattern
import SqlMigration.Shell.Grep
import SqlMigration.Text.VersionOrder
import SqlMigration.Shell.Sort
import SqlMigration.Shell.Listing
import SqlMigration.Shell.Copying
import SqlMigration.Shell.SedScript
import SqlMigration.Shell.SedRun
import SqlMigration.Shell.Sed
import SqlMigration.Shell.Find
import SqlMigration.Shell.Seq
import SqlMigration.Shell.PrintfProgram
import SqlMigration.Shell.Clock
import SqlMigration.Shell.BashPrintf
import SqlMigration.Shell.Xargs
import SqlMigration.Shell.Timeout
import SqlMigration.Shell.Awk.Syntax
import SqlMigration.Shell.Awk.Value
import SqlMigration.Shell.Awk.Lex
import SqlMigration.Shell.Awk.Parse
import SqlMigration.Shell.Awk.Table
import SqlMigration.Shell.Awk.Pattern
import SqlMigration.Shell.Awk.Run
import SqlMigration.Shell.Awk.Exec
import SqlMigration.Shell.Awk
import SqlMigration.Shell.Lines
import SqlMigration.Shell.Dump
import SqlMigration.Shell.Cut
import SqlMigration.Shell.Programs
import SqlMigration.Shell.Builtin
import SqlMigration.Shell.Eval
import SqlMigration.Shell.Program
import SqlMigration.Catalog.Reader
import SqlMigration.Migration.Report
import SqlMigration.Migration.Orchestrator
import SqlMigration.Cli.Arguments
import SqlMigration.Cli.Help
import SqlMigration.Cli.Parse
import SqlMigration.Cli.Run
import SqlMigration.Main
import SqlMigration.Proofs.Utf8
import SqlMigration.Proofs.FileTree
import SqlMigration.Proofs.Host
import SqlMigration.Proofs.CopyText
import SqlMigration.Proofs.Conversion
import SqlMigration.Proofs.Catalog
import SqlMigration.Proofs.PhaseOne
import SqlMigration.Proofs.CountCheck
import SqlMigration.Proofs.Artifacts
import SqlMigration.Proofs.Sorting
import SqlMigration.Proofs.ConstraintRows
import SqlMigration.Proofs.PhaseTwo
import SqlMigration.Proofs.Exit
import SqlMigration.Proofs.Rerun
import SqlMigration.Proofs.Unloadable
import SqlMigration.Proofs.StableSort
import SqlMigration.Proofs.SortSearch
import SqlMigration.Proofs.SortMerge
import SqlMigration.Proofs.ConstraintOrder
import SqlMigration.Proofs.ExportEffects
import SqlMigration.Proofs.FileNames
import SqlMigration.Proofs.Redaction
import SqlMigration.Proofs.AtomicWrites
import SqlMigration.Proofs.Quoting
import SqlMigration.Proofs.CreateTable
import SqlMigration.Proofs.Listing
import SqlMigration.Proofs.ArtifactRuns
