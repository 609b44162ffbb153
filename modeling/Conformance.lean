import Conformance.Validator
import Conformance.Proofs.Decision
import Conformance.Proofs.Record
import Conformance.Proofs.Extends
import Conformance.Proofs.Frame
import Conformance.Proofs.Coupling
import Conformance.Proofs.Limit
import Conformance.Proofs.Repeat
import Conformance.Proofs.History
import Conformance.Proofs.Accepting
import Conformance.Proofs.Stability
import Conformance.Proofs.Modes
import Conformance.Proofs.Invariants
import Conformance.Proofs.Faults
import Conformance.Proofs.Stack
import Conformance.Proofs.Naming
import Conformance.Proofs.Locations
import Conformance.Proofs.Requests
import Conformance.Proofs.Stateful
import Conformance.Proofs.Order
import Conformance.Proofs.Missing
import Conformance.Proofs.Lineage
import Conformance.Proofs.Reported
import Conformance.Proofs.Policies
import Conformance.Proofs.Memory.Sessions
import Conformance.Proofs.Alternatives
import Conformance.Proofs.Objects
import Conformance.Proofs.Padding
import Conformance.Proofs.Descent
import Conformance.Proofs.Cycles
import Conformance.Proofs.NormalForm
import Conformance.Proofs.Decimals
import Conformance.Proofs.Bounds
import Conformance.Proofs.Indices
import Conformance.Proofs.Tuples
