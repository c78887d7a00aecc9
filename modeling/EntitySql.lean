import EntitySql.Json.Reading
import EntitySql.Query.Analysis
import EntitySql.Session.Basic
import EntitySql.Proofs.Diagnostic.Blame
import EntitySql.Proofs.Diagnostic.Colouring
import EntitySql.Proofs.Function.Rendering
import EntitySql.Proofs.Query.Layout
import EntitySql.Proofs.Query.Decomposition
import EntitySql.Proofs.Query.Acceptance
import EntitySql.Proofs.Query.Cursor
import EntitySql.Proofs.Query.Endings
import EntitySql.Proofs.Query.Positions
import EntitySql.Proofs.Query.Composition
import EntitySql.Proofs.Query.Reanalysis
import EntitySql.Proofs.Query.Partner
import EntitySql.Proofs.Source.Lines
import EntitySql.Proofs.Source.Location
import EntitySql.Proofs.Source.Slice
import EntitySql.Proofs.Text.FinalSigma
import EntitySql.Proofs.Text.Offsets
import EntitySql.Proofs.Text.SmallLetters
import EntitySql.Proofs.Text.Stops
import EntitySql.Proofs.Text.Stripping
import EntitySql.Proofs.Json.Fields
import EntitySql.Proofs.Json.Literals
import EntitySql.Proofs.Json.MemberOrder
import EntitySql.Proofs.Json.Records
import EntitySql.Proofs.Json.Text
import EntitySql.Proofs.Json.RoundTrip
import EntitySql.Proofs.ParseResult.Calls
import EntitySql.Proofs.ParseResult.Hover
import EntitySql.Proofs.ParseResult.LetterCase
import EntitySql.Proofs.ParseResult.Lookup
import EntitySql.Proofs.ParseResult.SpanCheck
import EntitySql.Proofs.ParseResult.Text
import EntitySql.Proofs.Session.Effects
import EntitySql.Proofs.Session.Isolation
import EntitySql.Proofs.Session.Logging
import EntitySql.Proofs.Session.Provenance
