import OrderBy.Command.Run
import OrderBy.Expression.Writer
import OrderBy.Json.Reader
import OrderBy.Log.Session
import OrderBy.Main
import OrderBy.Service
import OrderBy.Sorting.Program
import OrderBy.Proofs.Text.Occurrence
import OrderBy.Proofs.Text.Pieces
import OrderBy.Proofs.Text.Trimming
import OrderBy.Proofs.Expression.Meaning
import OrderBy.Proofs.Expression.Folding
import OrderBy.Proofs.Expression.RoundTrip
import OrderBy.Proofs.Resolver.Interleaving
import OrderBy.Proofs.Outcome
import OrderBy.Proofs.Settings.Acceptance
import OrderBy.Proofs.Default
import OrderBy.Proofs.Resolver.Totality
import OrderBy.Proofs.Service.Loading
import OrderBy.Proofs.Service.Caches
import OrderBy.Proofs.Service.EntryPoints
import OrderBy.Proofs.Service.Naming
import OrderBy.Proofs.Command.Resolving
import OrderBy.Proofs.Sorting.Program
import OrderBy.Proofs.Json.RoundTrip
import OrderBy.Proofs.Schema
import OrderBy.Proofs.Log.Setup
import OrderBy.Proofs.Log.Session
import OrderBy.Proofs.Direction
import OrderBy.Proofs.Expression.Accounting
import OrderBy.Proofs.Resolver.Precedence
import OrderBy.Proofs.Log.Failure
import OrderBy.Proofs.Resolver.Isolation
import OrderBy.Proofs.Expression.Runs
import OrderBy.Proofs.Expression.Layout
import OrderBy.Proofs.Sorting.Building
import OrderBy.Proofs.Schema.Conversion
import OrderBy.Proofs.Project
import OrderBy.Proofs.Clause.Content
import OrderBy.Proofs.Log.Template
import OrderBy.Proofs.Command.Logging
import OrderBy.Proofs.Service.Paths
