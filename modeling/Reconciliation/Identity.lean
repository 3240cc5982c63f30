import Reconciliation.Kind

/-!
# Identities

An object is known within the cluster by its kind, its namespace and its name. Kinds outside of
namespaces have no namespace whatever the object says (`ObjectIdentity.of`). Identities are ordered
by kind, then namespace (none first), then name.
-/

namespace Reconciliation

/-- What distinguishes an object from all others. -/
structure ObjectIdentity where
  kind : Kind
  (namespace? : Option String)
  name : String
deriving DecidableEq

namespace ObjectIdentity

/-- The identity of an object: a namespace counts only for namespaced kinds. -/
def of (kind : Kind) (namespace? : Option String) (name : String) : ObjectIdentity :=
  ⟨kind, if kind.isNamespaced then namespace? else none, name⟩

/-- Kind, then namespace, then name. -/
def order : ObjectIdentity → ObjectIdentity → Ordering :=
  compareLex (compareOn (·.kind)) (compareLex (compareOn (·.namespace?)) (compareOn (·.name)))

instance : Ord ObjectIdentity := ⟨order⟩

instance : Std.TransOrd ObjectIdentity :=
  inferInstanceAs (Std.TransCmp (compareLex (compareOn ObjectIdentity.kind)
    (compareLex (compareOn ObjectIdentity.namespace?) (compareOn ObjectIdentity.name))))

instance : Std.LawfulEqOrd ObjectIdentity where
  eq_of_compare := by
    intro a b h
    obtain ⟨h₁, h₂⟩ := Ordering.then_eq_eq.1 h
    obtain ⟨h₂, h₃⟩ := Ordering.then_eq_eq.1 h₂
    cases a; cases b
    simp only [compareOn, Std.LawfulEqOrd.compare_eq_iff_eq] at h₁ h₂ h₃
    simp_all

/-- The identity in words: kind, and name within the namespace if there is one. -/
def display (id : ObjectIdentity) : String :=
  match id.namespace? with
  | some ns => id.kind.name ++ " " ++ ns ++ "/" ++ id.name
  | none => id.kind.name ++ " " ++ id.name

end ObjectIdentity

end Reconciliation
