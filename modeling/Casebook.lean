import Casebook.Main
import Casebook.Proofs.Metadata.Written
import Casebook.Proofs.Step.Forms
import Casebook.Proofs.Book.History
import Casebook.Proofs.Book.Resubmission
import Casebook.Proofs.Book.Isolation
import Casebook.Proofs.Book.Lines
import Casebook.Proofs.Case.WellFormed
import Casebook.Proofs.Program
import Casebook.Proofs.Configuration.Document
import Casebook.Proofs.Book.Stubs
import Casebook.Proofs.Suite.Selection
import Casebook.Proofs.Book.LineEnds
import Casebook.Proofs.Configuration.Sites
import Casebook.Proofs.Text.Normalized
import Casebook.Proofs.Text.Restored
import Casebook.Proofs.Book.Acceptance
import Casebook.Proofs.Script.Kept
import Casebook.Proofs.Script.Attached
import Casebook.Proofs.Step.Fragments
import Casebook.Proofs.Metadata.Grammar
import Casebook.Proofs.Configuration.Inference
import Casebook.Proofs.Book.MandatoryTags
import Casebook.Proofs.Book.Valueless
import Casebook.Proofs.Sample
import Casebook.Proofs.Text.Extension
