import Tagging.Text.Segment
import Tagging.Text.Blank
import Tagging.Text.Quoted
import Tagging.Highlight
import Tagging.Number.Double
import Tagging.Basic
import Tagging.Workspace
import Tagging.Path
import Tagging.FileTree
import Tagging.Store.Scratch
import Tagging.Store.Schema
import Tagging.Index
import Tagging.Corpus.Basic
import Tagging.Estimate.Timeline
import Tagging.Corpus.Load
import Tagging.Toml.Document
import Tagging.Config.Validate
import Tagging.Url.Parser
import Tagging.Report.Options
import Tagging.Report.Link
import Tagging.Report.Sheet
import Tagging.Report.Writer
import Tagging.Retrieval
import Tagging.Run.Workers
import Tagging.Run.Options
import Tagging.Run.Execute
import Tagging.CommandLine.Arguments
import Tagging.CommandLine.Program
import Tagging.Text.Canonical
import Tagging.Main
import Tagging.Proofs.Keyed
import Tagging.Proofs.Number
import Tagging.Proofs.Text.ByteOrder
import Tagging.Proofs.FileTree
import Tagging.Proofs.Store.Table
import Tagging.Proofs.Store.Rows
import Tagging.Proofs.Store.Acceptance
import Tagging.Proofs.Store.History
import Tagging.Proofs.Store.Atomicity
import Tagging.Proofs.Store.Reordering
import Tagging.Proofs.Store.Freezing
import Tagging.Proofs.Store.Refusal
import Tagging.Proofs.Store.Agreement
import Tagging.Proofs.Store.Scratch
import Tagging.Proofs.Run.Steps
import Tagging.Proofs.Run.Accounting
import Tagging.Proofs.Retrieval
import Tagging.Proofs.Run.Workers
import Tagging.Proofs.Report.Snapshots
import Tagging.Proofs.Run.Course
import Tagging.Proofs.Run.Rows
import Tagging.Proofs.Report.Failures
import Tagging.Proofs.Run.Storage
import Tagging.Proofs.Run.Endings
import Tagging.Proofs.Run.Documents
import Tagging.Proofs.Url.Form
import Tagging.Proofs.Url.Shape
import Tagging.Proofs.Report.StoredLinks
import Tagging.Proofs.Report.Layout
import Tagging.Proofs.Report.LiveLinks
import Tagging.Proofs.FileTree.Goals
import Tagging.Proofs.Report.Locations
import Tagging.Proofs.FileTree.Removing
import Tagging.Proofs.Report.Budget
import Tagging.Proofs.Report.Caps
import Tagging.Proofs.Report.Nesting
import Tagging.Proofs.Report.Undoing
import Tagging.Proofs.Report.Replacing
import Tagging.Proofs.CommandLine.Overrides
import Tagging.Proofs.Estimate.Accounting
import Tagging.Proofs.Estimate.Timeline
import Tagging.Proofs.Corpus.Search
import Tagging.Proofs.Run.Limits
import Tagging.Proofs.Run.Hints
import Tagging.Proofs.Estimate.Domination
import Tagging.Proofs.Retrieval.Batches
import Tagging.Proofs.Corpus.Terms
import Tagging.Proofs.Corpus.Ranking
import Tagging.Proofs.Text.Lowercase
import Tagging.Proofs.Highlight
import Tagging.Proofs.Text.Markup
import Tagging.Proofs.Pages
import Tagging.Proofs.Report.Values
import Tagging.Proofs.Report.FollowedLinks
import Tagging.Proofs.Report.SnapshotLinks
import Tagging.Proofs.Report.DirectoryLinks
import Tagging.Proofs.Store.Registering
import Tagging.Proofs.Config.Usable
import Tagging.Proofs.Report.Limits
import Tagging.Proofs.Report.LiveBases
import Tagging.Proofs.Report.Containment
import Tagging.Proofs.Report.LiveTargets
import Tagging.Proofs.Corpus.Readers
import Tagging.Proofs.Report.FreeLocations
