import BuilderGen.Main
import BuilderGen.Proofs.Accounted
import BuilderGen.Proofs.Announced
import BuilderGen.Proofs.Cleaning
import BuilderGen.Proofs.Confinement
import BuilderGen.Proofs.Emit.Behavior
import BuilderGen.Proofs.Emit.Determined
import BuilderGen.Proofs.Emit.Mentions
import BuilderGen.Proofs.Emit.Setters
import BuilderGen.Proofs.FileTree.Atomic
import BuilderGen.Proofs.FileTree.Orphan
import BuilderGen.Proofs.Generation
import BuilderGen.Proofs.Independence
import BuilderGen.Proofs.Layout
import BuilderGen.Proofs.Lowering
import BuilderGen.Proofs.Manifest.Label
import BuilderGen.Proofs.Manifest.Rejected
import BuilderGen.Proofs.Manifest.Verdict
import BuilderGen.Proofs.Pipeline.Errors
import BuilderGen.Proofs.Pipeline.History
import BuilderGen.Proofs.Pipeline.Schedule
import BuilderGen.Proofs.Removal
import BuilderGen.Proofs.Sample
import BuilderGen.Proofs.Starter
import BuilderGen.Proofs.Text.Lossy
import BuilderGen.Sample.Contact
import BuilderGen.Sample.Person
