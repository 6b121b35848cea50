import Postroom.Resource.Path
import Postroom.Selection.Adapter

namespace Postroom

open Text

structure TemplateRequest where
  path : ResourcePath
  source : String
  bindings : List (String × String) := []
  deriving DecidableEq, Repr

namespace TemplateRequest

def withVariable (r : TemplateRequest) (name value : String) : TemplateRequest :=
  { r with bindings := putKey name value r.bindings }

def shown (r : TemplateRequest) : String :=
  shownRecord "TemplateRequest" [("path", r.path.shown), ("source", quote r.source),
    ("variables", shownMap ((r.bindings.mergeSort fun a b => a.1 ≤ b.1).map fun v =>
      (quote v.1, quote v.2)))]

end TemplateRequest

end Postroom
