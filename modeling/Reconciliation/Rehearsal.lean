import Reconciliation.Pass.Engine
import Reconciliation.Store.Call
import Reconciliation.Store.Memory

/-!
# Rehearsals

An engine's run against the store in memory, in which what can go wrong goes wrong on cue: an
operation is unavailable, the pass is cancelled after so many calls, another client writes an object
between two calls of the engine, the status cannot be written. Every call is logged, and every
status that was written is kept.

* `Rehearsal` -- the world of such a run;
* `Rehearsal.perform` -- one call: it is logged, then refused if its operation is unavailable, then
  done by the store; only a call that succeeded counts towards cancellation and sets off a race;
* `Rehearsal.engine` -- the engine over this world.
-/

namespace Reconciliation

/-! ## 1. Races -/

/-- What a race waits for. -/
inductive RaceCue where
  | object (operation : Operation) (identity : ObjectIdentity)
  | listing (kind : Kind)
deriving DecidableEq

/-- What a call gives the cue for. -/
def StoreCall.cue : StoreCall → RaceCue
  | get id => .object .get id
  | create id => .object .create id
  | update id => .object .update id
  | delete id => .object .delete id
  | list kind _ _ => .listing kind

/-- A write by another client. -/
inductive Interference where
  | insert (object : ManagedObject)
  | update (object : ManagedObject)
  | delete (identity : ObjectIdentity)

/-- Does the write; an error leaves the store as it is. -/
def Interference.play (m : Memory) : Interference → Except StoreError Unit × Memory
  | insert o => (.ok (), (m.insert o).2)
  | update o => ((m.update o).1.map fun _ => (), (m.update o).2)
  | delete id => m.delete id

/-- A write by another client that waits for its cue. -/
structure Race where
  cue : RaceCue
  write : Interference

/-! ## 2. The world -/

/-- The world of a rehearsed run. -/
structure Rehearsal where
  memory : Memory
  /-- The calls so far, in order. -/
  calls : List StoreCall
  /-- The unavailable operations, the latest first. -/
  outages : List (Operation × String)
  /-- The races not yet run, in order. -/
  races : List Race
  /-- How many more successes of an operation cancel the pass. -/
  countdown : Option (Operation × Nat)
  cancelled : Bool
  /-- Why statuses cannot be written. -/
  statusFailure : Option String
  /-- The statuses written so far, in order. -/
  statuses : List (StatusTarget × OwnerStatus)

namespace Rehearsal

/-- Nothing stored, and nothing that will go wrong. -/
def start (clock : Instant) : Rehearsal := ⟨.empty clock, [], [], [], none, false, none, []⟩

/-- Begins a pass: it may be cancelled already, or be cancelled after so many calls. -/
def beginPass (r : Rehearsal) (cancelled : Bool) (countdown : Option (Operation × Nat)) :
    Rehearsal :=
  { r with cancelled, countdown }

/-- Nothing fails any more. -/
def clearFailures (r : Rehearsal) : Rehearsal :=
  { r with memory := r.memory.clearFailures, outages := [], statusFailure := none }

/-- The error of an unavailable operation. -/
def outage? (r : Rehearsal) (op : Operation) : Option StoreError :=
  (r.outages.find? fun o => o.1 = op).map fun o => .unavailable o.2

/-- Counts a success towards cancellation. -/
def countSuccess (r : Rehearsal) (op : Operation) : Rehearsal :=
  match r.countdown with
  | some (awaited, n) =>
    if awaited = op then
      if n ≤ 1 then { r with countdown := none, cancelled := true }
      else { r with countdown := some (awaited, n - 1) }
    else r
  | none => r

/-- Sets off the first race that waits for a cue. -/
def runRace (r : Rehearsal) (cue : RaceCue) : Except StoreError Unit × Rehearsal :=
  match r.races.find? fun race => race.cue = cue with
  | none => (.ok (), r)
  | some race =>
    let (result, memory) := race.write.play r.memory
    (result, { r with memory, races := r.races.eraseP fun race => race.cue = cue })

/-! ## 3. Calls -/

/-- Makes one call. It answers what the store answered, unless the race that it set off failed. -/
def perform (call : StoreCall) (act : StateM Memory (Except StoreError α)) :
    StateM Rehearsal (Except StoreError α) := fun r =>
  let r := { r with calls := r.calls ++ [call] }
  match r.outage? call.operation with
  | some e => (.error e, r)
  | none =>
    match act r.memory with
    | (.error e, memory) => (.error e, { r with memory })
    | (.ok a, memory) =>
      let (raced, r) := ({ r with memory }.countSuccess call.operation).runRace call.cue
      (raced.map fun _ => a, r)

/-- The calls as a store. -/
def store : ObjectStore Rehearsal where
  get id := perform (.get id) (Memory.store.get id)
  create o := perform (.create o.identity) (Memory.store.create o)
  update o := perform (.update o.identity) (Memory.store.update o)
  delete id := perform (.delete id) (Memory.store.delete id)
  list kind namespace? selector :=
    perform (.list kind namespace? selector) (Memory.store.list kind namespace? selector)

/-- Keeps a status, unless statuses cannot be written. -/
def writeStatus : StatusWriter Rehearsal := fun target status r =>
  match r.statusFailure with
  | some message => (.error (.unavailable message), r)
  | none => (.ok (), { r with statuses := r.statuses ++ [(target, status)] })

/-- The engine over a rehearsed world. -/
def engine (registry : Registry π) (settings : Settings) : Engine Rehearsal π :=
  ⟨store, writeStatus, (·.cancelled), registry, settings⟩

end Rehearsal

end Reconciliation
