import Reconciliation.Json.Codec

/-!
# Status conditions

Observations about an owner, one per type, in the order in which the types were first seen. A
condition has changed when its status or its reason has; a new message alone is no transition.

* `Condition` -- the observation, with the time of its last transition;
* `updateCondition` -- one observation folded into a list;
* `findCondition` -- the observation of one of the types that the engine writes (`ConditionType`).
-/

namespace Reconciliation

/-! ## 1. Conditions -/

/-- Whether the observation holds. -/
inductive ConditionStatus where
  | true
  | false
  | unknown
deriving DecidableEq

namespace ConditionStatus

/-- The written form. -/
def name : ConditionStatus → String
  | true => "True"
  | false => "False"
  | unknown => "Unknown"

/-- The status of a truth value. -/
def ofBool (b : Bool) : ConditionStatus := if b then .true else .false

/-- Every status. -/
def all : List ConditionStatus := [.true, .false, .unknown]

/-- The status with a name. -/
def ofName? (s : String) : Option ConditionStatus := all.find? fun c => c.name == s

end ConditionStatus

/-- The condition types that the engine writes. -/
inductive ConditionType where
  | ready
  | degraded
  | failed
  | configurationError
deriving DecidableEq

/-- The written form. -/
def ConditionType.name : ConditionType → String
  | ready => "Ready"
  | degraded => "Degraded"
  | failed => "Failed"
  | configurationError => "ConfigurationError"

/-- An observation about an owner. Types and times of others are kept as they are. -/
structure Condition where
  type : String
  status : ConditionStatus
  reason : String
  message : String
  lastTransitionTime : Option String
deriving DecidableEq

namespace Condition

/-- The members of a condition. -/
def members : Fields Condition Condition :=
  (Fields.of mk)
    |>.field (·.type) (.mandatory "type" .text)
    |>.field (·.status)
      (.mandatory "status" (.choice ConditionStatus.name ConditionStatus.ofName?))
    |>.field (·.reason) (.defaulted "reason" .text "")
    |>.field (·.message) (.defaulted "message" .text "")
    |>.field (·.lastTransitionTime) (.defaulted "lastTransitionTime" (.option .text) none)

/-- A new observation, not yet stamped. -/
def observed (type : ConditionType) (holds : Bool) (reason message : String) : Condition :=
  ⟨type.name, .ofBool holds, reason, message, none⟩

/-- Whether the observation holds. -/
def isTrue (c : Condition) : Bool := c.status == .true

end Condition

/-! ## 2. History -/

/-- The observation of a type. -/
def findCondition (conditions : List Condition) (type : ConditionType) : Option Condition :=
  conditions.find? fun c => c.type == type.name

/-- What becomes of the recorded condition of a type when it is observed again: the same status and
reason only take the new message, anything else is a transition at the given time. -/
def Condition.refresh (current observation : Condition) (stamp : String) : Condition :=
  if current.status = observation.status ∧ current.reason = observation.reason then
    { current with message := observation.message }
  else
    { current with
      status := observation.status
      reason := observation.reason
      message := observation.message
      lastTransitionTime := some stamp }

/-- Folds an observation made at a time into the conditions. The first condition of its type is
refreshed in place; an unseen type is appended. -/
def updateCondition (conditions : List Condition) (observation : Condition) (now : Instant) :
    List Condition :=
  match conditions with
  | [] => [{ observation with lastTransitionTime := some now.toText }]
  | current :: rest =>
    if current.type = observation.type then current.refresh observation now.toText :: rest
    else current :: updateCondition rest observation now

end Reconciliation
