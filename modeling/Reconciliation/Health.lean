import Reconciliation.Owner

/-!
# Component health

The replicas of an owner's deployments and stateful sets, summed per component. A workload without
component label is a component of its own name; it is meant to run one replica unless it says
otherwise, and none is ready unless its status says so. Counts and sums are 32-bit words, and a sum
that does not fit wraps around.

* `StackHealth.observe` -- one workload added;
* `StackHealth.readyCondition`, `StackHealth.degradedCondition` -- what the sums say.
-/

namespace Reconciliation

/-- The replicas of a component. -/
structure ComponentHealth where
  desired : Int32
  ready : Int32
deriving DecidableEq

namespace ComponentHealth

/-- Whether as many replicas are ready as are desired. -/
def isReady (c : ComponentHealth) : Bool := c.desired ≤ c.ready

/-- Whether replicas are running, but fewer than desired. -/
def isDegraded (c : ComponentHealth) : Bool := 0 < c.ready && c.ready < c.desired

/-- The sum of two counts. -/
def add (a b : ComponentHealth) : ComponentHealth := ⟨a.desired + b.desired, a.ready + b.ready⟩

end ComponentHealth

/-- The replica counts of a workload; other objects have none. -/
def ManagedObject.replicas? : ManagedObject → Option ComponentHealth
  | .deployment o =>
    some ⟨(o.spec.bind (·.replicas)).getD 1, (o.status.bind (·.readyReplicas)).getD 0⟩
  | .statefulSet o =>
    some ⟨(o.spec.bind (·.replicas)).getD 1, (o.status.bind (·.readyReplicas)).getD 0⟩
  | _ => none

/-- The component that an object belongs to. -/
def ManagedObject.component (o : ManagedObject) : String :=
  (o.metadata.label? Label.component).getD o.name

/-- The replicas of every component of an owner. -/
structure StackHealth where
  components : Dict String ComponentHealth
deriving DecidableEq

namespace StackHealth

/-- No component. -/
def empty : StackHealth := ⟨.empty⟩

/-- Adds the replicas of a workload to its component. -/
def observe (h : StackHealth) (workload : ManagedObject) : StackHealth :=
  match workload.replicas? with
  | none => h
  | some counts =>
    let sum := ((h.components.get? workload.component).getD ⟨0, 0⟩).add counts
    ⟨h.components.insert workload.component sum⟩

/-- Adds the replicas of workloads. -/
def observeAll (h : StackHealth) (workloads : List ManagedObject) : StackHealth :=
  workloads.foldl observe h

/-- The names of the components with a property, ascending. -/
def named (h : StackHealth) (p : ComponentHealth → Bool) : List String :=
  (h.components.entries.filter fun e => p e.2).map (·.1)

/-- The components that are not ready. -/
def pending (h : StackHealth) : List String := h.named fun c => !c.isReady

/-- The components that are degraded. -/
def degraded (h : StackHealth) : List String := h.named (·.isDegraded)

/-- Ready once there is a component and none is pending. -/
def readyCondition (h : StackHealth) : Condition :=
  if h.components.isEmpty then
    .observed .ready false "PendingComponents" "no components found"
  else if h.pending.isEmpty then
    .observed .ready true "Ready" "All components are operational"
  else
    .observed .ready false "PendingComponents"
      ("components not ready: " ++ ", ".intercalate h.pending)

/-- Degraded while a component is. -/
def degradedCondition (h : StackHealth) : Condition :=
  if h.degraded.isEmpty then .observed .degraded false "NoDegradedComponents" ""
  else
    .observed .degraded true "Degraded"
      ("components running below desired replicas: " ++ ", ".intercalate h.degraded)

end StackHealth

end Reconciliation
