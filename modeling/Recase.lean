import Recase.Cli.World
import Recase.Main
import Recase.Schema.Lemmas
import Recase.Proofs.CamelCase
import Recase.Proofs.Dump.Blocks
import Recase.Proofs.Dump.Concatenation
import Recase.Proofs.Dump.Names
import Recase.Proofs.Dump.Noise
import Recase.Proofs.Dump.Printing
import Recase.Proofs.Dump.Tidiness
import Recase.Proofs.Migration.Catalog
import Recase.Proofs.Migration.Completeness
import Recase.Proofs.Migration.Containment
import Recase.Proofs.Migration.Execution
import Recase.Proofs.Migration.Layout
import Recase.Proofs.Migration.Redeclaration
import Recase.Proofs.Schema.Latest
import Recase.Proofs.Schema.Merging
import Recase.Proofs.Script.Advice
import Recase.Proofs.Script.Conversion
import Recase.Proofs.Script.Dropping
import Recase.Proofs.Script.Exclusion
import Recase.Proofs.Script.Executable
import Recase.Proofs.Script.Folding
import Recase.Proofs.Script.Reading
import Recase.Proofs.SnakeCase
import Recase.Proofs.Json.Layout
import Recase.Proofs.Migration.Collisions
import Recase.Proofs.Json.Reading
import Recase.Proofs.Options.RoundTrip
import Recase.Proofs.Json.Decoding
import Recase.Proofs.Schema.RoundTrip
import Recase.Proofs.Json.Skipping
import Recase.Proofs.Json.Members
import Recase.Proofs.Options.Members
import Recase.Proofs.Json.Wellformed
import Recase.Proofs.Cli.Failing
import Recase.Proofs.Disk
import Recase.Proofs.Cli.Delivery
import Recase.Proofs.Cli.Interchange
import Recase.Proofs.Text.Pattern
import Recase.Proofs.Dump.Patterns
import Recase.Proofs.Dump.Grammar
import Recase.Proofs.Schema.Lookup
import Recase.Proofs.Migration.Excluding
import Recase.Proofs.Script.DropSection
import Recase.Proofs.Text.Settled
import Recase.Proofs.CamelCase.Joining
import Recase.Proofs.SnakeCase.Restoring
import Recase.Proofs.CamelCase.Plainness
import Recase.Proofs.Listing
import Recase.Proofs.Text.Utf8
