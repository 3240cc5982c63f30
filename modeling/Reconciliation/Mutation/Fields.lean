import Reconciliation.Json.Override
import Reconciliation.Objects.Metadata

/-!
# Merging parts of objects

The pieces from which the policies of the kinds are made:

* `mergeLabels` -- desired keys override, keys that only exist stay;
* `ObjectMeta.merge` -- labels and annotations that way, owner references replaced when the desired
  object has any, all else kept;
* `Codec.merge?` -- the override merge of two values of a type through their wire form.
-/

namespace Reconciliation

/-- Lays desired labels over existing ones; without any, even an absent field stays absent. -/
def mergeLabels (existing desired : Option (Dict String String)) : Option (Dict String String) :=
  match desired with
  | none => existing
  | some d => if d.isEmpty then existing else some ((existing.getD .empty).overlay d)

/-- Lays desired metadata over existing metadata. -/
def ObjectMeta.merge (existing desired : ObjectMeta) : ObjectMeta :=
  { existing with
    labels := mergeLabels existing.labels desired.labels
    annotations := mergeLabels existing.annotations desired.annotations
    ownerReferences :=
      if desired.references.isEmpty then existing.ownerReferences else desired.ownerReferences }

/-- The override merge of two values, carried out on their wire form. -/
def Codec.merge? (c : Codec α) (existing desired : α) : Option α :=
  c.ofJson? ((c.encode existing).override (c.encode desired))

end Reconciliation
