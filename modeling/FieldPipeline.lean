import FieldPipeline.Declaration.Diagnostic
import FieldPipeline.Processing
import FieldPipeline.Proofs.ArgumentKey
import FieldPipeline.Proofs.Derivation
import FieldPipeline.Proofs.Memo
import FieldPipeline.Proofs.Succession
import FieldPipeline.Rejection.Reader
import FieldPipeline.Scripted.Nodes
import FieldPipeline.Proofs.Aborting
import FieldPipeline.Proofs.Answers
import FieldPipeline.Proofs.Supply
import FieldPipeline.Proofs.Breaking
import FieldPipeline.Proofs.Whereabouts
import FieldPipeline.Proofs.Naming
import FieldPipeline.Proofs.Tracing
import FieldPipeline.Proofs.Booting
import FieldPipeline.Proofs.Trail
import FieldPipeline.Proofs.Jobs
import FieldPipeline.Proofs.Repetition
import FieldPipeline.Proofs.Marks
import FieldPipeline.Proofs.Backing
import FieldPipeline.Proofs.Clearing
import FieldPipeline.Proofs.Enrichment
import FieldPipeline.Proofs.Descent
import FieldPipeline.Proofs.Elements
import FieldPipeline.Proofs.Alternatives
import FieldPipeline.Proofs.Gathering
import FieldPipeline.Proofs.Templates
import FieldPipeline.Proofs.Recovery
import FieldPipeline.Proofs.Sequel
import FieldPipeline.Proofs.Interchange
import FieldPipeline.Proofs.Transparency
import FieldPipeline.Proofs.Precedence
import FieldPipeline.Proofs.Atomicity
import FieldPipeline.Proofs.Inventory
import FieldPipeline.Proofs.Reordering
import FieldPipeline.Proofs.Impartiality
import FieldPipeline.Proofs.Consistency
import FieldPipeline.Proofs.Congruence
import FieldPipeline.Proofs.Independence
import FieldPipeline.Proofs.Literals
import FieldPipeline.Proofs.Frames
import FieldPipeline.Proofs.Methods
import FieldPipeline.Proofs.Letters
import FieldPipeline.Proofs.Spelling
