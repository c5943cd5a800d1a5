import RelMap.Connect
import RelMap.Derive.Expansion
import RelMap.Describe
import RelMap.Native
import RelMap.Postgres.Client
import RelMap.Proofs.Handle.Overlay
import RelMap.Proofs.Postgres.Integers
import RelMap.Proofs.Postgres.Representations
import RelMap.Proofs.Sql.Erasure
import RelMap.Proofs.Sql.Formula
import RelMap.Proofs.Sql.Grouping
import RelMap.Proofs.Sql.Placeholders
import RelMap.Proofs.Sql.Renumbering
import RelMap.Proofs.Sql.WellFormed
import RelMap.Proofs.Sqlite.RoundTrip
import RelMap.Sqlite.Table
import RelMap.Proofs.Native
import RelMap.Operation
import RelMap.Proofs.Sql.Attachment
import RelMap.Proofs.Handle.Programs
import RelMap.Proofs.Handle.Discipline
import RelMap.Session
import RelMap.Proofs.Handle.Sessions
import RelMap.Proofs.Sql.Identifiers
import RelMap.Proofs.Sql.Capacity
import RelMap.Proofs.Error.Contexts
import RelMap.Proofs.Build.Site
import RelMap.Proofs.Narrowing
import RelMap.Proofs.Postgres.Timestamps
import RelMap.Proofs.Handle.Writing
import RelMap.Proofs.Handle.Creation
import RelMap.Proofs.IntegerText
import RelMap.Proofs.TimestampText
import RelMap.Proofs.Conversion
import RelMap.Proofs.Sql.Hoisting
import RelMap.Proofs.Sql.Restriction
import RelMap.Proofs.Error.Clones
import RelMap.Proofs.Error.Wrapping
import RelMap.Proofs.Mapping
import RelMap.Proofs.TableNames
import RelMap.Proofs.Derive.Brackets
import RelMap.Proofs.Derive.Faithful
import RelMap.Proofs.Sqlite.RowIds
import RelMap.Proofs.Sql.Scanning
import RelMap.Proofs.Rows
