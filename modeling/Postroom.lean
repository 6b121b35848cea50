import Postroom.Configuration.Loading
import Postroom.Journal
import Postroom.Messaging
import Postroom.Property.Setting
import Postroom.Requirement.Document
import Postroom.Proofs.Condition.Running
import Postroom.Proofs.Condition.Truth
import Postroom.Proofs.Capability.Facts
import Postroom.Proofs.Capability.Period
import Postroom.Proofs.Property.References
import Postroom.Proofs.Selection.FirstMatch
import Postroom.Proofs.Selection.Firsts
import Postroom.Proofs.Sender.Choice
import Postroom.Proofs.Message.Rendering
import Postroom.Proofs.Messaging.Delivery
import Postroom.Proofs.Template.Rendering
import Postroom.Proofs.Requirement.Meaning
import Postroom.Proofs.Capability.Repeating
import Postroom.Proofs.Property.Scanning
import Postroom.Proofs.Property.Segments
import Postroom.Proofs.Configuration.Scanning
import Postroom.Proofs.Configuration.Substituting
import Postroom.Proofs.Selection.Matches
import Postroom.Proofs.Selection.Fallback
import Postroom.Proofs.Sender.Fallback
import Postroom.Proofs.Sender.Qualifying
import Postroom.Proofs.Environment
import Postroom.Proofs.Selection.Tested
import Postroom.Proofs.Message.Translating
import Postroom.Proofs.Resource.Resolving
import Postroom.Proofs.Template.Variants
import Postroom.Proofs.Messaging.Variants
import Postroom.Proofs.Template.Placeholders
import Postroom.Proofs.Document.Flattening
import Postroom.Proofs.Resource.Confinement
import Postroom.Proofs.Condition.Negation
import Postroom.Proofs.Pattern.Matching
import Postroom.Proofs.Property.Failing
import Postroom.Proofs.Property.Nesting
import Postroom.Proofs.Pattern.Scanning
import Postroom.Proofs.Pattern.Pieces
import Postroom.Proofs.Pattern.Reading
import Postroom.Proofs.Pattern.WholeValue
import Postroom.Proofs.Requirement.Blocks
import Postroom.Proofs.Requirement.Compiling
import Postroom.Proofs.Messaging.Refusing
import Postroom.Proofs.Document.ReadBack
import Postroom.Proofs.Steadiness
import Postroom.Proofs.Messaging.Predicting
import Postroom.Proofs.Property.Setting
import Postroom.Proofs.Selection.History
import Postroom.Proofs.Template.Extensions
import Postroom.Proofs.MediaType.Nesting
import Postroom.Proofs.MediaType.Extensions
import Postroom.Proofs.Property.Chain
import Postroom.Proofs.Resource.Rewriting
import Postroom.Proofs.Condition.Operators
import Postroom.Proofs.Condition.Equality
