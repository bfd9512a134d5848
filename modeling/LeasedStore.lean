import LeasedStore.Database.Address
import LeasedStore.Settings.Basic
import LeasedStore.Store.Step
import LeasedStore.Proofs.Results
import LeasedStore.Proofs.Backend
import LeasedStore.Proofs.Lease.Manager
import LeasedStore.Proofs.Database.Table
import LeasedStore.Proofs.Entity.Lawful
import LeasedStore.Proofs.Store.Single
import LeasedStore.Proofs.History.Basic
import LeasedStore.Proofs.History.Entry
import LeasedStore.Proofs.History.Linked
import LeasedStore.Proofs.Store.Rows
import LeasedStore.Proofs.History.Rows
import LeasedStore.Proofs.History.LostUpdate
import LeasedStore.Proofs.Database.Search
import LeasedStore.Proofs.Sql.Binding
import LeasedStore.Proofs.Store.Paging
import LeasedStore.Proofs.Store.Search
import LeasedStore.Proofs.History.Exclusion
import LeasedStore.Proofs.Json.Reading
import LeasedStore.Proofs.Json.Canonical
import LeasedStore.Proofs.Json.Decoding
import LeasedStore.Proofs.Json.Depth
import LeasedStore.Proofs.Entity.Faithful
import LeasedStore.Proofs.Machine.Basic
import LeasedStore.Proofs.Machine.Refinement
import LeasedStore.Proofs.Decimal.Written
import LeasedStore.Proofs.Json5.Numbers
import LeasedStore.Proofs.Json5.Strings
import LeasedStore.Proofs.Json5.Reading
import LeasedStore.Proofs.Query.Meaning
import LeasedStore.Proofs.Json5.Names
import LeasedStore.Proofs.Json5.Member
import LeasedStore.Proofs.Entity.Properties
import LeasedStore.Proofs.Query.Translation
import LeasedStore.Proofs.Database.Level
import LeasedStore.Proofs.Database.Answer
import LeasedStore.Proofs.Query.Order
import LeasedStore.Proofs.Query.Answer
import LeasedStore.Proofs.Store.Query
import LeasedStore.Proofs.Machine.Query
import LeasedStore.Proofs.Json5.WellFormed
import LeasedStore.Proofs.Database.Part
import LeasedStore.Proofs.Store.Whole
import LeasedStore.Proofs.Lease.Active
import LeasedStore.Proofs.Query.Stored
import LeasedStore.Proofs.Store.Ready
import LeasedStore.Proofs.History.Ready
import LeasedStore.Proofs.Store.Tally
import LeasedStore.Proofs.History.Tally
import LeasedStore.Proofs.History.Balance
import LeasedStore.Proofs.Store.Matching
import LeasedStore.Proofs.Store.Claiming
import LeasedStore.Proofs.Store.Candidates
import LeasedStore.Proofs.Store.FailedClaim
import LeasedStore.Proofs.Race.Basic
import LeasedStore.Proofs.Race.Sharing
import LeasedStore.Proofs.Store.Alike
import LeasedStore.Proofs.Forgetful.Basic
import LeasedStore.Proofs.Forgetful.Simulation
import LeasedStore.Proofs.Forgetful.Refinement
import LeasedStore.Proofs.Store.Apart
import LeasedStore.Proofs.Store.Independence
import LeasedStore.Proofs.Entity.Codec
import LeasedStore.Proofs.Machine.Copies
import LeasedStore.Proofs.Query.Satisfied
import LeasedStore.Proofs.Sql.Shape
import LeasedStore.Proofs.Store.Fetching
import LeasedStore.Proofs.Store.Stream
import LeasedStore.Proofs.Json5.Tokens
import LeasedStore.Proofs.Json5.Subset
import LeasedStore.Proofs.Query.Matching
import LeasedStore.Proofs.Store.Window
import LeasedStore.Proofs.Store.Exact
import LeasedStore.Proofs.Text.Parts
import LeasedStore.Proofs.Lease.Expiry
import LeasedStore.Proofs.History.Expiry
import LeasedStore.Proofs.Sql.Acceptance
import LeasedStore.Proofs.Sql.Places
import LeasedStore.Proofs.Sql.Numbering
import LeasedStore.Proofs.Store.Queue
import LeasedStore.Proofs.Store.Handout
import LeasedStore.Proofs.Store.Transaction
import LeasedStore.Proofs.Sql.Assignment
import LeasedStore.Proofs.Store.Repair
import LeasedStore.Proofs.Sql.Dialects
import LeasedStore.Proofs.Store.Counting
import LeasedStore.Proofs.Store.Lookup
import LeasedStore.Proofs.Json.TooDeep
import LeasedStore.Proofs.Entity.Ledger
import LeasedStore.Proofs.Store.Reload
import LeasedStore.Proofs.Store.Bookkeeping
import LeasedStore.Proofs.Decimal.Extended
import LeasedStore.Proofs.Decimal.Value
import LeasedStore.Proofs.Decimal.Finite
import LeasedStore.Proofs.Json5.Room
import LeasedStore.Proofs.Json5.Literals
import LeasedStore.Proofs.Store.Members
import LeasedStore.Proofs.Settings
import LeasedStore.Proofs.Sql.Path
import LeasedStore.Proofs.Sql.RowStatements
