import RoutePattern.Proofs.Alternation
import RoutePattern.Proofs.Anchors
import RoutePattern.Proofs.Chains
import RoutePattern.Proofs.Classes
import RoutePattern.Proofs.Delivery
import RoutePattern.Proofs.Failures
import RoutePattern.Proofs.Flags
import RoutePattern.Proofs.Guards
import RoutePattern.Proofs.Headers
import RoutePattern.Proofs.Nesting
import RoutePattern.Proofs.Numbering
import RoutePattern.Proofs.Passthrough
import RoutePattern.Proofs.Paths
import RoutePattern.Proofs.Placement
import RoutePattern.Proofs.Plain.Compiled
import RoutePattern.Proofs.Recompiling
import RoutePattern.Proofs.References
import RoutePattern.Proofs.Routes
import RoutePattern.Proofs.Scan.Expansion
import RoutePattern.Proofs.Scan.Grammar
import RoutePattern.Proofs.Slashes
import RoutePattern.Proofs.Spellings
import RoutePattern.Proofs.Trace
import RoutePattern.Proofs.Unterminated
import RoutePattern.Proofs.Values
import RoutePattern.Proofs.Verbatim
import RoutePattern.Proofs.Widening
import RoutePattern.Proofs.Wildcards
import RoutePattern.Session
