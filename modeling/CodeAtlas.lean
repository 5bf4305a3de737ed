import CodeAtlas.Analysis
import CodeAtlas.CommandLine
import CodeAtlas.Console
import CodeAtlas.Digest.Blake3
import CodeAtlas.Digest.Hex
import CodeAtlas.Digest.Sha1
import CodeAtlas.Files.Disk
import CodeAtlas.Files.Tree
import CodeAtlas.Files.Walk
import CodeAtlas.Graph.Edges
import CodeAtlas.Graph.Imports
import CodeAtlas.History.Draft
import CodeAtlas.History.Git
import CodeAtlas.History.LineCounts
import CodeAtlas.History.Log
import CodeAtlas.History.Object
import CodeAtlas.History.Queue
import CodeAtlas.History.Renames
import CodeAtlas.History.Repository
import CodeAtlas.History.Similarity
import CodeAtlas.History.Summary
import CodeAtlas.Home
import CodeAtlas.Inference.Fallback
import CodeAtlas.Inference.Plan
import CodeAtlas.Inference.Remote
import CodeAtlas.Inference.Services
import CodeAtlas.Inference.Similarity
import CodeAtlas.Json.Basic
import CodeAtlas.Json.Error
import CodeAtlas.Json.Reader
import CodeAtlas.Json.Shape
import CodeAtlas.Json.Writer
import CodeAtlas.Kinds
import CodeAtlas.Language
import CodeAtlas.Libraries
import CodeAtlas.Main
import CodeAtlas.Number.Binary
import CodeAtlas.Number.Digits
import CodeAtlas.Number.Shortest
import CodeAtlas.Outline.Basic
import CodeAtlas.Outline.Generic
import CodeAtlas.Outline.Indented
import CodeAtlas.Outline.Script.Expression
import CodeAtlas.Outline.Script.Extract
import CodeAtlas.Outline.Script.Grammar
import CodeAtlas.Outline.Script.Parser
import CodeAtlas.Outline.Script.Scan
import CodeAtlas.Outline.Script.Statement
import CodeAtlas.Outline.Script.Syntax
import CodeAtlas.Outline.Strategy
import CodeAtlas.Pattern
import CodeAtlas.Program
import CodeAtlas.Proofs.Attained
import CodeAtlas.Proofs.Bytes
import CodeAtlas.Proofs.Calls
import CodeAtlas.Proofs.CommitListings
import CodeAtlas.Proofs.Company
import CodeAtlas.Proofs.Connections
import CodeAtlas.Proofs.ControlLines
import CodeAtlas.Proofs.Conversations
import CodeAtlas.Proofs.Cosines
import CodeAtlas.Proofs.Coverage
import CodeAtlas.Proofs.Derived
import CodeAtlas.Proofs.DocumentOrder
import CodeAtlas.Proofs.Documents
import CodeAtlas.Proofs.Excerpts
import CodeAtlas.Proofs.Exchanges
import CodeAtlas.Proofs.Exclusion
import CodeAtlas.Proofs.Execution
import CodeAtlas.Proofs.Failures
import CodeAtlas.Proofs.Findings
import CodeAtlas.Proofs.Freshness
import CodeAtlas.Proofs.ImportGrammar
import CodeAtlas.Proofs.ImportLines
import CodeAtlas.Proofs.Juxtaposition
import CodeAtlas.Proofs.KeywordLists
import CodeAtlas.Proofs.Keywords
import CodeAtlas.Proofs.Listings
import CodeAtlas.Proofs.Marks
import CodeAtlas.Proofs.Matching
import CodeAtlas.Proofs.Naming
import CodeAtlas.Proofs.Nesting
import CodeAtlas.Proofs.Operations
import CodeAtlas.Proofs.Outcome
import CodeAtlas.Proofs.Parts
import CodeAtlas.Proofs.Paths
import CodeAtlas.Proofs.Pieces
import CodeAtlas.Proofs.Places
import CodeAtlas.Proofs.Progress
import CodeAtlas.Proofs.Rankings
import CodeAtlas.Proofs.Readback
import CodeAtlas.Proofs.Ready
import CodeAtlas.Proofs.Recall
import CodeAtlas.Proofs.References
import CodeAtlas.Proofs.Refusals
import CodeAtlas.Proofs.Repetition
import CodeAtlas.Proofs.Replacement
import CodeAtlas.Proofs.Replies
import CodeAtlas.Proofs.Requests
import CodeAtlas.Proofs.Resolution
import CodeAtlas.Proofs.Rewriting
import CodeAtlas.Proofs.Rounding
import CodeAtlas.Proofs.Rules
import CodeAtlas.Proofs.Scalars
import CodeAtlas.Proofs.Sections
import CodeAtlas.Proofs.Separation
import CodeAtlas.Proofs.Slices
import CodeAtlas.Proofs.Soundness
import CodeAtlas.Proofs.Sources
import CodeAtlas.Proofs.Spans
import CodeAtlas.Proofs.Splitting
import CodeAtlas.Proofs.Stages
import CodeAtlas.Proofs.Summaries
import CodeAtlas.Proofs.Tables
import CodeAtlas.Proofs.Traversal
import CodeAtlas.Proofs.Turns
import CodeAtlas.Proofs.Vectors
import CodeAtlas.Proofs.Walks
import CodeAtlas.Records
import CodeAtlas.Records.Document
import CodeAtlas.Retrieval.Conversation
import CodeAtlas.Retrieval.Keywords
import CodeAtlas.Retrieval.Merge
import CodeAtlas.Retrieval.Prompt
import CodeAtlas.Retrieval.Ranking
import CodeAtlas.Retrieval.Reply
import CodeAtlas.Retrieval.Search
import CodeAtlas.Session
import CodeAtlas.Settings
import CodeAtlas.Settings.File
import CodeAtlas.Store.Basic
import CodeAtlas.Store.Cell
import CodeAtlas.Store.Coded
import CodeAtlas.Store.Contents
import CodeAtlas.Store.Documents
import CodeAtlas.Store.Error
import CodeAtlas.Store.Image
import CodeAtlas.Store.Links
import CodeAtlas.Store.Operation
import CodeAtlas.Store.Questions
import CodeAtlas.Store.Records
import CodeAtlas.Store.Rows
import CodeAtlas.Store.Subjects
import CodeAtlas.Store.Table
import CodeAtlas.Store.VectorBytes
import CodeAtlas.Text.Blank
import CodeAtlas.Text.CharClass
import CodeAtlas.Text.CharTable
import CodeAtlas.Text.Lines
import CodeAtlas.Text.Lowercase
import CodeAtlas.Text.Utf8
import CodeAtlas.Toml.Reader
import CodeAtlas.Toml.Value
import CodeAtlas.Vocabulary
