import Chronicle.Binary64.Basic
import Chronicle.Binary64.Numeral
import Chronicle.Binary64.Shortest
import Chronicle.Binary64.Significant
import Chronicle.Binary64.Text
import Chronicle.Condition.Basic
import Chronicle.Condition.Compile
import Chronicle.Database.Host
import Chronicle.Database.Query
import Chronicle.Database.Save
import Chronicle.Database.Session
import Chronicle.Database.Validate
import Chronicle.Digest.Blake3
import Chronicle.Entity.Basic
import Chronicle.Entity.Link
import Chronicle.EntityKind
import Chronicle.Error
import Chronicle.Json.Literal
import Chronicle.Json.Numeral
import Chronicle.Json.Token
import Chronicle.Json.Tree
import Chronicle.KeyPolicy
import Chronicle.Predicate.Basic
import Chronicle.Predicate.Codec
import Chronicle.Predicate.Stored
import Chronicle.Proofs.Work
import Chronicle.Regex.Basic
import Chronicle.Regex.Bracket
import Chronicle.Regex.Escape
import Chronicle.Regex.Flags
import Chronicle.Regex.Pattern
import Chronicle.Regex.PropertyName
import Chronicle.Regex.Reach
import Chronicle.Regex.Reader
import Chronicle.Regex.Standard
import Chronicle.Regex.Weight
import Chronicle.RowId
import Chronicle.Settings.Basic
import Chronicle.Settings.Document
import Chronicle.Settings.Formats
import Chronicle.Settings.Load
import Chronicle.Settings.Scalar
import Chronicle.Settings.Setting
import Chronicle.Settings.Standard
import Chronicle.SortedMap
import Chronicle.SortedMap.Lookup
import Chronicle.Sql.Engine
import Chronicle.Sql.Expr
import Chronicle.Sql.Reader
import Chronicle.Sql.Standard
import Chronicle.Sql.Token
import Chronicle.Sql.Verdict
import Chronicle.Store.Amend
import Chronicle.Store.Attribute
import Chronicle.Store.Basic
import Chronicle.Store.Cell
import Chronicle.Store.Select
import Chronicle.Store.Tables
import Chronicle.Store.Work
import Chronicle.Text.Blank
import Chronicle.Text.Digits
import Chronicle.Text.Quoted
import Chronicle.Text.Utf8
import Chronicle.Timestamp.Basic
import Chronicle.Timestamp.Text
import Chronicle.Unicode.Category
import Chronicle.Unicode.CategoryTable
import Chronicle.Unicode.CharSet
import Chronicle.Unicode.Folding
import Chronicle.Unicode.FoldingTable
import Chronicle.Unicode.Property
import Chronicle.Unicode.PropertyTable
import Chronicle.Unicode.Script
import Chronicle.Unicode.ScriptTable
import Chronicle.Value
import Chronicle.Proofs.Save.Checks
import Chronicle.Proofs.Save.Refusal
import Chronicle.Proofs.Save.AllOrNothing
import Chronicle.Proofs.Text.Digits
import Chronicle.Proofs.Timestamp.Text
import Chronicle.Proofs.Timestamp.Order
import Chronicle.Proofs.Store.AttributeTable
import Chronicle.Proofs.Store.Sync
import Chronicle.Proofs.Store.Change
import Chronicle.Proofs.Save.Changes
import Chronicle.Proofs.Store.Operations
import Chronicle.Proofs.Store.Sound
import Chronicle.Proofs.Predicate.Compiled
import Chronicle.Proofs.Query.Reading
import Chronicle.Proofs.Query.Selection
import Chronicle.Proofs.Store.Frame
import Chronicle.Proofs.Query.Restored
import Chronicle.Proofs.Query.Found
import Chronicle.Proofs.Query.Membership
import Chronicle.Proofs.Save.Landings
import Chronicle.Proofs.Json.Numeral
import Chronicle.Proofs.Json.Token
import Chronicle.Proofs.Text.Utf8
import Chronicle.Proofs.Json.Tree
import Chronicle.Proofs.Predicate.Codec
import Chronicle.Proofs.Predicate.Reread
import Chronicle.Proofs.Save.Lingering
import Chronicle.Proofs.Save.Contents
import Chronicle.Proofs.Binary64.Rounding
import Chronicle.Proofs.Binary64.Nearest
import Chronicle.Proofs.Binary64.Shortest
import Chronicle.Proofs.Binary64.Closeness
import Chronicle.Proofs.Json.Range
import Chronicle.Proofs.Json.LastRounding
import Chronicle.Proofs.Json.Recovered
import Chronicle.Proofs.Query.ReadBack
import Chronicle.Proofs.Save.Deeds
import Chronicle.Proofs.Save.OneByOne
import Chronicle.Proofs.Store.Uuids
import Chronicle.Proofs.Save.Lookups
import Chronicle.Proofs.Save.Members
import Chronicle.Proofs.Save.Reconciled
import Chronicle.Proofs.Save.AtHome
import Chronicle.Proofs.Save.Cancelling
import Chronicle.Proofs.Save.Overwriting
import Chronicle.Proofs.Save.Hosts
import Chronicle.Proofs.Save.Outcome
import Chronicle.Proofs.Query.Listed
import Chronicle.Proofs.Query.WellFormed
import Chronicle.Proofs.Save.Progress
import Chronicle.Proofs.Save.Failures
import Chronicle.Proofs.Predicate.Exact
import Chronicle.Proofs.Predicate.Thresholds
import Chronicle.Proofs.Query.Thresholds
import Chronicle.Proofs.Timestamp.Calendar
import Chronicle.Proofs.Save.Enforced
import Chronicle.Proofs.Save.Loaded
import Chronicle.Proofs.Store.Readable
import Chronicle.Proofs.Store.AllOrNothing
import Chronicle.Proofs.Store.TypedMaps
import Chronicle.Proofs.Predicate.Faults
import Chronicle.Proofs.Predicate.Skeleton
import Chronicle.Proofs.Sql.Tokens
import Chronicle.Proofs.Sql.Grammar
import Chronicle.Proofs.Sql.Verdict
import Chronicle.Proofs.Sql.Holds
import Chronicle.Proofs.Sql.Built
import Chronicle.Proofs.Sql.Stored
import Chronicle.Proofs.Save.Twins
import Chronicle.Proofs.Save.Again
import Chronicle.Proofs.Save.Merging
import Chronicle.Proofs.Settings.Sources
import Chronicle.Proofs.Save.OneStore
