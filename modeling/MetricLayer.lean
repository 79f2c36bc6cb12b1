import MetricLayer.Catalog.Build
import MetricLayer.Catalog.Limit
import MetricLayer.Catalog.Load
import MetricLayer.Check.Basic
import MetricLayer.Check.Scalar
import MetricLayer.Compile
import MetricLayer.Fault
import MetricLayer.Http.Address
import MetricLayer.Http.Response
import MetricLayer.Http.Serve
import MetricLayer.Join.Basic
import MetricLayer.Join.Resolve
import MetricLayer.Join.Tree
import MetricLayer.Main
import MetricLayer.Model.Aggregation
import MetricLayer.Model.Report
import MetricLayer.Model.Request
import MetricLayer.Model.Semantic
import MetricLayer.Number.Binary
import MetricLayer.Number.Read
import MetricLayer.Number.Shortest
import MetricLayer.Plan.Aggregate
import MetricLayer.Plan.Kpi
import MetricLayer.Plan.Label
import MetricLayer.Plan.Query
import MetricLayer.Plan.Report
import MetricLayer.Program.Launch
import MetricLayer.Program.Start
import MetricLayer.Service.AutoMap
import MetricLayer.Service.Engine
import MetricLayer.Service.Lookup
import MetricLayer.Service.Pool
import MetricLayer.Service.Semantic
import MetricLayer.Service.World
import MetricLayer.Settings
import MetricLayer.Setup
import MetricLayer.Sql.Builder
import MetricLayer.Sql.Dialect
import MetricLayer.Sql.Expr
import MetricLayer.Sql.Guard
import MetricLayer.Sql.Guard.Grammar
import MetricLayer.Sql.Guard.Statements
import MetricLayer.Sql.Guard.Token
import MetricLayer.Sql.Select
import MetricLayer.Store.Basic
import MetricLayer.Store.Memory
import MetricLayer.Store.Relational
import MetricLayer.Store.Row
import MetricLayer.Text.Blank
import MetricLayer.Text.Case
import MetricLayer.Text.CaseTable
import MetricLayer.Text.Utf8
import MetricLayer.Text.Word
import MetricLayer.Text.WordTable
import MetricLayer.Tools.Call
import MetricLayer.Tools.Reply
import MetricLayer.Value.Basic
import MetricLayer.Value.Json
import MetricLayer.Value.JsonText
import MetricLayer.Value.Text
import MetricLayer.Yaml.Block
import MetricLayer.Yaml.Cursor
import MetricLayer.Yaml.Document
import MetricLayer.Yaml.Layout
import MetricLayer.Yaml.Moment
import MetricLayer.Yaml.Node
import MetricLayer.Yaml.Plain
import MetricLayer.Yaml.Quoted
import MetricLayer.Yaml.ScalarValue
import MetricLayer.Yaml.Tag
import MetricLayer.Yaml.Token
import MetricLayer.Proofs.Catalog.Complete
import MetricLayer.Proofs.Catalog.Faults
import MetricLayer.Proofs.Catalog.Nodes
import MetricLayer.Proofs.Catalog.Sections
import MetricLayer.Proofs.Catalog.Sound
import MetricLayer.Proofs.Compile.Accounted
import MetricLayer.Proofs.Compile.Bound
import MetricLayer.Proofs.Compile.Draft
import MetricLayer.Proofs.Compile.Ignored
import MetricLayer.Proofs.Compile.Isolated
import MetricLayer.Proofs.Compile.Median
import MetricLayer.Proofs.Compile.Query
import MetricLayer.Proofs.Compile.Reference
import MetricLayer.Proofs.Compile.SingleFact
import MetricLayer.Proofs.Compile.Values
import MetricLayer.Proofs.Fault
import MetricLayer.Proofs.Join.BreadthFirst
import MetricLayer.Proofs.Join.LeftOut
import MetricLayer.Proofs.Join.Pairwise
import MetricLayer.Proofs.Join.Resolution
import MetricLayer.Proofs.Join.Spanning
import MetricLayer.Proofs.Keyed
import MetricLayer.Proofs.Plan.Agree
import MetricLayer.Proofs.Plan.Assembly
import MetricLayer.Proofs.Plan.Condition
import MetricLayer.Proofs.Plan.Expansion
import MetricLayer.Proofs.Plan.Grammar
import MetricLayer.Proofs.Plan.Grouping
import MetricLayer.Proofs.Plan.Joinable
import MetricLayer.Proofs.Plan.Kept
import MetricLayer.Proofs.Plan.Label
import MetricLayer.Proofs.Plan.Mapped
import MetricLayer.Proofs.Plan.Matching
import MetricLayer.Proofs.Plan.OnePass
import MetricLayer.Proofs.Plan.Operators
import MetricLayer.Proofs.Plan.ReadableParts
import MetricLayer.Proofs.Plan.Report
import MetricLayer.Proofs.Plan.Scope
import MetricLayer.Proofs.Plan.Shape
import MetricLayer.Proofs.Plan.Substitution
import MetricLayer.Proofs.Plan.Unambiguous
import MetricLayer.Proofs.Service.Abreast
import MetricLayer.Proofs.Service.AutoMap
import MetricLayer.Proofs.Service.Consulted
import MetricLayer.Proofs.Service.Dialects
import MetricLayer.Proofs.Service.Drill
import MetricLayer.Proofs.Service.Effects
import MetricLayer.Proofs.Service.Guarded
import MetricLayer.Proofs.Service.History
import MetricLayer.Proofs.Service.Interchange
import MetricLayer.Proofs.Service.Lookup
import MetricLayer.Proofs.Service.Memoized
import MetricLayer.Proofs.Service.Ownership
import MetricLayer.Proofs.Service.PairFailures
import MetricLayer.Proofs.Service.Persist
import MetricLayer.Proofs.Service.Pools
import MetricLayer.Proofs.Service.Query
import MetricLayer.Proofs.Service.Rerun
import MetricLayer.Proofs.Service.Served
import MetricLayer.Proofs.Sql.Aggregate
import MetricLayer.Proofs.Sql.BindNames
import MetricLayer.Proofs.Sql.Builder
import MetricLayer.Proofs.Sql.Parts
import MetricLayer.Proofs.Sql.Readable
import MetricLayer.Proofs.Sql.Scope
import MetricLayer.Proofs.Sql.Spelling
import MetricLayer.Proofs.Store.Batch
import MetricLayer.Proofs.Store.Built
import MetricLayer.Proofs.Store.Cells
import MetricLayer.Proofs.Store.Connection
import MetricLayer.Proofs.Store.Distinct
import MetricLayer.Proofs.Store.Held
import MetricLayer.Proofs.Store.Mappings
import MetricLayer.Proofs.Store.Records
import MetricLayer.Proofs.Store.Run
import MetricLayer.Proofs.Store.Stored
import MetricLayer.Proofs.Store.Tables
import MetricLayer.Proofs.Text.Caseless
import MetricLayer.Proofs.Yaml.Place
import MetricLayer.Proofs.Yaml.Readers
import MetricLayer.Proofs.Yaml.Anchors
import MetricLayer.Proofs.Yaml.Noted
import MetricLayer.Proofs.Catalog.Anchors
