import Postroom.Configuration.Format
import Postroom.MediaType.Provider
import Postroom.Property.Evaluation
import Postroom.Requirement.Basic
import Postroom.Sender.Basic
import Postroom.Template.Engine

namespace Postroom

/-- What goes wrong when something is selected, tried in turn or looked up. -/
inductive SelectionError
  | noMatch (cause : NoMatch)
  | exhausted (cause : Exhausted)
  | missingAdapter (cause : MissingAdapter)
  | config (cause : ConfigError)
  | property (cause : PropertyError)
  | invalidPattern (cause : InvalidPattern)
  | internal (text : String)
  deriving DecidableEq, Repr

def SelectionError.message : SelectionError → String
  | noMatch cause => "No match: " ++ cause.message
  | exhausted cause => "Fallback exhausted: " ++ cause.message
  | missingAdapter cause => "Misconfigured adapter: " ++ cause.message
  | config cause => "Config error: " ++ cause.message
  | property cause => "Property error: " ++ cause.message
  | invalidPattern cause => "Invalid pattern: " ++ cause.pattern
  | internal text => text

inductive MessagingError
  | selection (cause : SelectionError)
  | send (cause : SendError)
  | template (cause : TemplateError)
  | resource (cause : ResourceError)
  | variant (cause : VariantNotFound)
  | mediaType (cause : MediaTypeError)
  | configuration (text : String)
  deriving DecidableEq, Repr

def MessagingError.message : MessagingError → String
  | selection cause => "Kernel error: " ++ cause.message
  | send cause => "Send error: " ++ cause.message
  | template cause => "Template error: " ++ cause.message
  | resource cause => "Resource error: " ++ cause.message
  | variant cause => "Variant error: " ++ cause.message
  | mediaType cause => "Mime type error: " ++ cause.message
  | configuration text => "Configuration error: " ++ text

/-- An error with its notes, the latest first. -/
structure Report (ε : Type) where
  error : ε
  notes : List String := []
  deriving DecidableEq, Repr

namespace Report

variable {ε ε' : Type}

def attach (r : Report ε) (note : String) : Report ε := { r with notes := note :: r.notes }

def inContext (r : Report ε) (e : ε') : Report ε' := ⟨e, r.notes⟩

end Report

end Postroom
