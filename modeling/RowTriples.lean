import RowTriples.Address.Search
import RowTriples.Geodesy
import RowTriples.Json.Canonical
import RowTriples.Main
import RowTriples.Proofs.Entity.Supplied
import RowTriples.Text.Case
import RowTriples.Proofs.NTriples.Grammar
import RowTriples.Proofs.Entity.Origins
import RowTriples.Proofs.NTriples.Literals
import RowTriples.Proofs.Entity.Rendered
import RowTriples.Proofs.Entity.Grammatical
import RowTriples.Proofs.Conversion.Chunks
import RowTriples.Proofs.Conversion.Reports
import RowTriples.Proofs.Identifier.Separation
import RowTriples.Proofs.Entity.Sketch
import RowTriples.Proofs.Entity.Geocoding
import RowTriples.Proofs.Entity.Inherited
import RowTriples.Proofs.Entity.Columns
import RowTriples.Proofs.Entity.Steady
import RowTriples.Proofs.Entity.Replacement
import RowTriples.Proofs.Template.Typed
import RowTriples.Proofs.Entity.Precedence
import RowTriples.Proofs.Entity.Repetitions
import RowTriples.Proofs.Entity.Typings
import RowTriples.Proofs.Conversion.Concatenation
import RowTriples.Proofs.Entity.EmptyLiterals
import RowTriples.Proofs.Entity.Respelling
import RowTriples.Proofs.Identifier.Cycles
import RowTriples.Proofs.Entity.Accounting
import RowTriples.Proofs.Entity.Admission
import RowTriples.Proofs.Entity.OwnOptions
import RowTriples.Proofs.NTriples.Escaping
import RowTriples.Proofs.NTriples.Rendering
import RowTriples.Proofs.Entity.Derivation
import RowTriples.Proofs.Identifier.Borders
import RowTriples.Proofs.NTriples.BareNames
import RowTriples.Proofs.Json.Canonical
import RowTriples.Proofs.Schema.Declarations
import RowTriples.Proofs.Row.Scopes
import RowTriples.Proofs.Template.Faithful
import RowTriples.Proofs.Json.RoundTrip
import RowTriples.Proofs.Time.RoundTrip
import RowTriples.Proofs.Typing.Integers
import RowTriples.Proofs.Binding.Splitting
import RowTriples.Proofs.Binding.Points
import RowTriples.Proofs.Entity.Lookups
import RowTriples.Proofs.Address.UsableParts
import RowTriples.Proofs.Settings.Layers
