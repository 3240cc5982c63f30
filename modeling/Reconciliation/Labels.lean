import Reconciliation.Dict

/-!
# Ownership labels

Every object that the engine creates carries the labels of its owner, by which it is found again:
the application name, which differs per kind of owner, the owner's name, and the operator's name.
A workload also names the component it belongs to.

* `ownerLabels`, `componentLabels` -- the labels to set;
* `LabelSelector` -- required labels; `selects` decides, `toQuery` is the form that the API takes.
-/

namespace Reconciliation

namespace Label

/-- Key of the application name. -/
def application : String := "app.kubernetes.io/name"

/-- Key of the owner's name. -/
def owner : String := "app.kubernetes.io/instance"

/-- Key of the managing operator. -/
def managedBy : String := "app.kubernetes.io/managed-by"

/-- Key of the component that a workload belongs to. -/
def component : String := "app.kubernetes.io/component"

/-- The managing operator on every object. -/
def manager : String := "tempo-operator"

end Label

/-- The labels of every object created for an owner. -/
def ownerLabels (application owner : String) : Dict String String :=
  .ofList [(Label.application, application), (Label.owner, owner),
    (Label.managedBy, Label.manager)]

/-- The labels of an object that belongs to a component of an owner. -/
def componentLabels (application owner component : String) : Dict String String :=
  (ownerLabels application owner).insert Label.component component

/-- Labels that an object is required to carry. -/
structure LabelSelector where
  required : Dict String String
deriving DecidableEq

namespace LabelSelector

/-- The selector of everything created for an owner. -/
def forOwner (application owner : String) : LabelSelector := ⟨ownerLabels application owner⟩

/-- Whether the labels contain every required pair. -/
def selects (s : LabelSelector) (labels : Option (Dict String String)) : Bool :=
  s.required.entries.all fun e => labels.bind (·.get? e.1) == some e.2

/-- The query form: the required pairs joined by commas. -/
def toQuery (s : LabelSelector) : String :=
  ",".intercalate (s.required.entries.map fun e => e.1 ++ "=" ++ e.2)

end LabelSelector

end Reconciliation
