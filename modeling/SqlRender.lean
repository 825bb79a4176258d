import SqlRender.Buffer
import SqlRender.Dialect.Registry
import SqlRender.Json.Reader
import SqlRender.Sql.Check
import SqlRender.Sql.Layout
import SqlRender.Statement.Delete
import SqlRender.Statement.Insert
import SqlRender.Statement.Select
import SqlRender.Statement.Update
import SqlRender.Value.Equality
import SqlRender.Api.BodyLimit
import SqlRender.Api.Request
import SqlRender.Api.Service
import SqlRender.Session.Connection
import SqlRender.Session.Data
import SqlRender.Session.Step
import SqlRender.Proofs.ModeAgreement
import SqlRender.Proofs.RenderSuccess
import SqlRender.Proofs.StringIndependence
import SqlRender.Proofs.Api.LexicalSafety
import SqlRender.Proofs.Buffer.Run
import SqlRender.Proofs.InlinedTemplate
import SqlRender.Proofs.Session.Records
import SqlRender.Proofs.Session.Data
import SqlRender.Proofs.Session.Transaction
import SqlRender.Proofs.Session.Step
import SqlRender.Proofs.Session.OpenTransaction
import SqlRender.Proofs.Session.Ledger
import SqlRender.Proofs.Session.FailedCommit
import SqlRender.Proofs.Session.Block
import SqlRender.Proofs.Session.Calls
import SqlRender.Proofs.Session.Discipline
import SqlRender.Proofs.Session.LifeCycle
import SqlRender.Proofs.Surface.Condition
import SqlRender.Proofs.Surface.Compound
import SqlRender.Proofs.Region
import SqlRender.Proofs.StringLiteral
import SqlRender.Proofs.Surface.Bare
import SqlRender.Proofs.Surface.Row
import SqlRender.Api.Build
import SqlRender.Proofs.Surface.Membership
import SqlRender.Proofs.Api.Build
import SqlRender.Proofs.Draft.Within
import SqlRender.Proofs.Api.ErrorCodes
import SqlRender.Proofs.QuotedName
import SqlRender.Proofs.NumberLiteral
import SqlRender.Proofs.DatetimeLiteral
import SqlRender.Proofs.LastPaired
import SqlRender.Proofs.Statement.Clauses
import SqlRender.Proofs.Statement.Conflict
import SqlRender.Proofs.Statement.RecordRows
import SqlRender.Proofs.Node.Within
import SqlRender.Proofs.Session.Rows
import SqlRender.Proofs.Api.Listing
import SqlRender.Proofs.Api.BodyLimit
import SqlRender.Proofs.Numeral
import SqlRender.Proofs.SnakeCase
import SqlRender.Proofs.Json.ShortNumbers
import SqlRender.Proofs.Api.ShortNumbers
