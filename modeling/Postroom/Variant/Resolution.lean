import Postroom.Resource.Resolution
import Postroom.Variant.Basic

namespace Postroom

open Text

structure VariantRequest where
  template : ResourcePath
  variant : Variant
  deriving DecidableEq, Repr

/-- No proposed path exists. -/
structure VariantNotFound where
  template : String
  variant : Variant
  tested : List String
  deriving DecidableEq, Repr

def VariantNotFound.message (e : VariantNotFound) : String :=
  "no " ++ e.variant.name ++ " variant of '" ++ e.template ++ "' (tested: [" ++ commas e.tested ++
    "])"

def putVariant (v : Variant) (extension : String) :
    List (Variant × String) → List (Variant × String)
  | [] => [(v, extension)]
  | (u, e) :: rest => if u = v then (v, extension) :: rest else (u, e) :: putVariant v extension rest

/-- A resolver that appends the extension of a variant to the template's path. -/
structure VariantResolver where
  name : String
  extensions : List (Variant × String) := []
  deriving DecidableEq, Repr

namespace VariantResolver

def withExtension (r : VariantResolver) (v : Variant) (extension : String) : VariantResolver :=
  { r with extensions := putVariant v extension r.extensions }

def candidate? (r : VariantResolver) (q : VariantRequest) : Option ResourcePath :=
  (r.extensions.lookup q.variant).map fun e => q.template.withPath (q.template.path ++ e)

end VariantResolver

/-- Whether the path that a resolver proposes exists. -/
structure ExistenceTest where
  resolver : VariantResolver
  deriving DecidableEq, Repr

instance : Named ExistenceTest := ⟨fun t => "exists(" ++ t.resolver.name ++ ")"⟩

def ExistenceTest.holds (resources : Resolution) (q : VariantRequest) (t : ExistenceTest) : Bool :=
  (t.resolver.candidate? q).any resources.has

structure VariantResolution where
  resources : Resolution
  registry : Registry ExistenceTest VariantResolver := { name := "variant-resolvers" }

namespace VariantResolution

def add (v : VariantResolution) (r : VariantResolver) : VariantResolution :=
  let candidate : Candidate ExistenceTest VariantResolver :=
    { key := r.name, implementation := r, guard := some (.test ⟨r⟩) }
  { v with registry := v.registry.register candidate }

def resolvers (v : VariantResolution) : List VariantResolver :=
  v.registry.candidates.map Candidate.implementation

/-- The first proposed path that exists. -/
def resolve (v : VariantResolution) (q : VariantRequest) : Except VariantNotFound ResourcePath :=
  let found := Session.alone
    (v.registry.find? (.ofTests (ExistenceTest.holds v.resources q)) .unconditional)
  match found.bind fun c => c.implementation.candidate? q with
  | some p => .ok p
  | none =>
    .error ⟨q.template.written, q.variant,
      v.resolvers.filterMap fun r => (r.candidate? q).map ResourcePath.written⟩

def shown (v : VariantResolution) : String :=
  shownRecord "FirstExistingVariantResolver"
    [("resolvers", shownList (v.registry.keys.map quote))]

end VariantResolution

end Postroom
