import Rulebook.Config.Document
import Rulebook.Entry.Decode
import Rulebook.Entry.Document
import Rulebook.Entry.Encode
import Rulebook.Formula.Bounds
import Rulebook.Graph.Basic
import Rulebook.Proofs.Entry.Account
import Rulebook.Proofs.Entry.Breaches
import Rulebook.Proofs.Entry.Progression
import Rulebook.Proofs.Entry.RoundTrip
import Rulebook.Proofs.Entry.WellFormed
import Rulebook.Proofs.Formula.Expected
import Rulebook.Proofs.Formula.Overflow
import Rulebook.Proofs.Formula.Respelling
import Rulebook.Proofs.Graph.Distinct
import Rulebook.Proofs.Graph.Growth
import Rulebook.Proofs.Graph.Isolation
import Rulebook.Proofs.Graph.Reorder
import Rulebook.Proofs.Graph.Tuning
import Rulebook.Proofs.Registry.Messages
import Rulebook.Proofs.Sorting
import Rulebook.Proofs.Template.Alignment
import Rulebook.Proofs.Template.Indentation
import Rulebook.Proofs.Template.Reference
import Rulebook.Proofs.Template.Rejection
import Rulebook.Proofs.Template.Rendering
import Rulebook.Proofs.Template.Repeated
import Rulebook.Proofs.Template.Separator
import Rulebook.Report
