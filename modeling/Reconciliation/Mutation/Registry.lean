import Reconciliation.Mutation.Policy

/-!
# The policy registry

Which policy merges the objects of which kind, whatever policies are made of. A registry is built
from a list of registrations and the list of kinds it has to cover:

* `Registry.Builder` -- registrations so far; a kind registered twice is remembered, the earliest
  such registration first;
* `Registry.build` -- a duplicate fails first, then any required kind without a policy;
* `Registry.mutate` -- the merge of a desired object into an existing one: metadata, then the policy
  of the kind, on a copy.
-/

namespace Reconciliation

/-- Why a registry cannot be built. -/
inductive RegistryError where
  | duplicatePolicy (kind : Kind)
  | missingPolicies (kinds : List Kind)

/-- The cause in words. -/
def RegistryError.message : RegistryError → String
  | duplicatePolicy k => "duplicate merge policy registered for kind " ++ k.name
  | missingPolicies ks =>
    "missing mutate implementation for " ++ ", ".intercalate (ks.map (·.name))

/-- The policies by kind, built-in ones unless said otherwise. -/
structure Registry (π : Type := Policy) where
  policies : Dict Kind π

namespace Registry

variable {π : Type}

/-! ## 1. Lookup -/

/-- The policy of a kind. -/
def policy (r : Registry π) (kind : Kind) : Except MutateError π :=
  match r.policies.get? kind with
  | some p => .ok p
  | none => .error (.missingPolicy kind)

/-- Whether a kind has a policy. -/
def supports (r : Registry π) (kind : Kind) : Bool := r.policies.contains kind

/-- The kinds that have a policy, in order. -/
def kinds (r : Registry π) : List Kind := r.policies.keys

/-- The kinds of a list which have no policy, each once, in order. -/
def missing (r : Registry π) (kinds : List Kind) : List Kind :=
  (Dict.ofList ((kinds.filter fun k => !r.supports k).map fun k => (k, ()))).keys

/-- Fails if one of the kinds has no policy. -/
def ensureSupports (r : Registry π) (kinds : List Kind) : Except RegistryError Unit :=
  if (r.missing kinds).isEmpty then .ok () else .error (.missingPolicies (r.missing kinds))

/-! ## 2. Construction -/

/-- Registrations so far, and the first kind that was registered again. -/
structure Builder (π : Type := Policy) where
  policies : Dict Kind π
  duplicate : Option Kind

/-- No registrations. -/
def Builder.empty : Builder π := ⟨.empty, none⟩

/-- Registers a policy; the later one of a kind is kept. -/
def Builder.register [MergePolicy π] (b : Builder π) (p : π) : Builder π :=
  let kind := MergePolicy.kind p
  { policies := b.policies.insert kind p
    duplicate := b.duplicate <|> if b.policies.contains kind then some kind else none }

/-- Registers policies one after another. -/
def Builder.registerAll [MergePolicy π] (b : Builder π) (ps : List π) : Builder π :=
  ps.foldl Builder.register b

/-- Finishes the registry, which has to cover the required kinds. -/
def Builder.build (b : Builder π) (required : List Kind) : Except RegistryError (Registry π) :=
  match b.duplicate with
  | some k => .error (.duplicatePolicy k)
  | none => ((⟨b.policies⟩ : Registry π).ensureSupports required).map fun _ => ⟨b.policies⟩

/-- The registry of a list of registrations. -/
def build [MergePolicy π] (registrations : List π) (required : List Kind) :
    Except RegistryError (Registry π) :=
  (Builder.empty.registerAll registrations).build required

/-- The registry of the built-in policies. -/
def standard : Registry := ⟨.ofList (Policy.defaults.map fun p => (p.kind, p))⟩

/-- The built-in policies, checked to cover the given kinds. -/
def forKinds (required : List Kind) : Except RegistryError Registry :=
  build Policy.defaults required

/-! ## 3. Mutation -/

/-- Lays a desired object over an existing one. -/
def mutate [MergePolicy π] (r : Registry π) (existing desired : ManagedObject) :
    Except MutateError ManagedObject :=
  if existing.kind ≠ desired.kind then
    .error (.kindMismatch existing.kind desired.kind)
  else do
    let p ← r.policy desired.kind
    MergePolicy.merge p (existing.withMetadata (existing.metadata.merge desired.metadata)) desired

end Registry

end Reconciliation
