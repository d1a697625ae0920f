import ClassProfile.Policy.File
import ClassProfile.Yaml.Reading
import ClassProfile.Proofs.Arrangement
import ClassProfile.Proofs.Artifact.Likeness
import ClassProfile.Proofs.Builder.Accounting
import ClassProfile.Proofs.Builder.Coverage
import ClassProfile.Proofs.Builder.Minimality
import ClassProfile.Proofs.Builder.Order
import ClassProfile.Schema.Accessor
import ClassProfile.Proofs.Builder.Erasure
import ClassProfile.Proofs.Notation.Relabelling
import ClassProfile.Proofs.Notation.Scanning
import ClassProfile.Proofs.Notation.Writing
import ClassProfile.Proofs.Notation.Stopping
import ClassProfile.Proofs.Resolution.Spine
import ClassProfile.Proofs.Builder.Extension
import ClassProfile.Proofs.Resolution.Fallback
import ClassProfile.Proofs.Builder.PolicyFields
import ClassProfile.Proofs.Artifact.Layout
import ClassProfile.Proofs.Schema.Shape
import ClassProfile.Proofs.Policy.Document
import ClassProfile.Proofs.Policy.File
import ClassProfile.Proofs.Accessor.PropertyName
import ClassProfile.Proofs.QualifiedName
import ClassProfile.Proofs.Resolution.Traversal
import ClassProfile.Proofs.Notation.Splitting
