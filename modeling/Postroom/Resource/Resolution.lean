import Postroom.Resource.Resolver
import Postroom.Selection.Registry

namespace Postroom

open Text

/-- Whether a path has one of some lookups. -/
structure LookupTest where
  lookups : List Lookup
  deriving DecidableEq, Repr

instance : Named LookupTest :=
  ⟨fun t => "lookup(" ++ String.intercalate "|" (t.lookups.map Lookup.name) ++ ")"⟩

def LookupTest.holds (p : ResourcePath) (t : LookupTest) : Bool := p.lookup.any t.lookups.contains

structure Resolution where
  registry : Registry LookupTest Resolver := { name := "resource-resolvers" }
  defaultLookup : Option Lookup := none

namespace Resolution

def add (r : Resolution) (resolver : Resolver) : Resolution :=
  let candidate : Candidate LookupTest Resolver :=
    { key := resolver.name, implementation := resolver, guard := some (.test ⟨resolver.lookups⟩) }
  { r with registry := r.registry.register candidate }

def resolverNames (r : Resolution) : List String := r.registry.keys

def effective (r : Resolution) (p : ResourcePath) : ResourcePath := p.orLookup r.defaultLookup

/-- The resolver that answers for a path. -/
def select (r : Resolution) (p : ResourcePath) : Except NoMatch Resolver :=
  let p := r.effective p
  (Session.alone (r.registry.select (.ofTests (LookupTest.holds p)) .unconditional p.shown)).map
    Candidate.implementation

def resolve (r : Resolution) (p : ResourcePath) : Except ResourceError Resource :=
  let p := r.effective p
  match r.select p with
  | .ok resolver => resolver.resolve p
  | .error e => .error (.noResolver e)

def has (r : Resolution) (p : ResourcePath) : Bool :=
  let p := r.effective p
  match r.select p with
  | .ok resolver => resolver.has p
  | .error _ => false

def shown (r : Resolution) : String :=
  shownRecord "FirstSupportingResourceResolver"
    [("resolvers", shownList (r.resolverNames.map quote)),
      ("default_lookup", shownOption (r.defaultLookup.map Lookup.shown))]

end Resolution

/-- What a resolution is made of. -/
structure ResolutionPlan where
  resolvers : List Resolver := []
  parent : Option String := none
  extension : Option String := none
  defaultLookup : Option Lookup := none

/-- The resolution of a plan. A parent path or an extension is put before every resolver that they
apply to. -/
def ResolutionPlan.build (p : ResolutionPlan) : Resolution :=
  let placed (r : Resolver) : Resolver :=
    if (p.parent.isSome || p.extension.isSome) && r.relativisable then
      .relative (p.parent.getD "") (p.extension.getD "") r
    else r
  p.resolvers.foldl (fun r resolver => r.add (placed resolver))
    { defaultLookup := p.defaultLookup }

end Postroom
