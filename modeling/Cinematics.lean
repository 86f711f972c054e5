import Cinematics.Document.Interpretation
import Cinematics.Json.Writer
import Cinematics.Session
import Cinematics.Proofs.Performance
import Cinematics.Proofs.Run
import Cinematics.Proofs.Admissibility
import Cinematics.Proofs.Crossing
import Cinematics.Proofs.Clearance
import Cinematics.Proofs.Fault
import Cinematics.Proofs.Refusal
import Cinematics.Proofs.NonPenetration
import Cinematics.Proofs.Bookkeeping
import Cinematics.Proofs.Duration
import Cinematics.Proofs.Translation
import Cinematics.Proofs.Lift
import Cinematics.Proofs.Timing
import Cinematics.Proofs.Length
import Cinematics.Proofs.Path
import Cinematics.Proofs.Containment
import Cinematics.Proofs.Rotation
import Cinematics.Proofs.Standoff
import Cinematics.Proofs.Digits
import Cinematics.Proofs.Rendering
import Cinematics.Proofs.Records
import Cinematics.Proofs.Documents
import Cinematics.Proofs.Place
import Cinematics.Proofs.MemberOrder
import Cinematics.Proofs.Leniency
import Cinematics.Proofs.FreeArc
import Cinematics.Proofs.Room
import Cinematics.Proofs.Slab
import Cinematics.Proofs.Confinement
import Cinematics.Proofs.Incidence
import Cinematics.Proofs.OrbitSum
import Cinematics.Proofs.LineOfSight
import Cinematics.Proofs.Return
import Cinematics.Proofs.Elevation
import Cinematics.Proofs.Panning
import Cinematics.Proofs.Destination
import Cinematics.Proofs.Precedence
import Cinematics.Proofs.Constancy
import Cinematics.Proofs.Worth
import Cinematics.Proofs.Naming
import Cinematics.Proofs.Corners
import Cinematics.Proofs.Curve
import Cinematics.Proofs.Chord
import Cinematics.Proofs.Exit
import Cinematics.Proofs.Axes
import Cinematics.Proofs.Turning
import Cinematics.Proofs.Lowering
import Cinematics.Proofs.Wording
