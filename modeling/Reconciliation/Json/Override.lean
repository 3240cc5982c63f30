import Reconciliation.Json.Basic

/-!
# Override merge

Laying a source value over a target so that what the source says wins and what it leaves out stays.
"Says" means: is not empty (`Json.isEmpty`); an empty source never clears a target. Objects are
merged key by key, everything else is replaced whole -- lists too.

* `Json.override` -- the merge;
* `Json.override_of_isEmpty`, `Json.override_obj`, `Json.override_of_not_obj` -- its three cases.
-/

namespace Reconciliation.Json

mutual

/-- Lays the second value over the first. -/
def override (target : Json) : Json → Json
  | obj [] => target
  | obj (f :: fs) =>
    match target with
    | obj fields => obj (overrideFields fields (f :: fs))
    | _ => obj (f :: fs)
  | source => if source.isEmpty then target else source

/-- Lays members over the members of a target one after another: a known key is merged, a new key
is added unless its value is empty. -/
def overrideFields (fields : List (String × Json)) :
    List (String × Json) → List (String × Json)
  | [] => fields
  | (key, source) :: rest =>
    let merged :=
      match Entries.lookup key fields with
      | some value => Entries.insert key (override value source) fields
      | none => if source.isEmpty then fields else Entries.insert key source fields
    overrideFields merged rest

end

theorem override_of_isEmpty {source : Json} (h : source.isEmpty = true) (target : Json) :
    target.override source = target := by
  cases source with
  | obj fields =>
    cases fields with
    | nil => simp [override]
    | cons f fs => simp [isEmpty] at h
  | _ => simp_all [override]

theorem override_obj (fields source : List (String × Json)) :
    (obj fields).override (obj source) = obj (overrideFields fields source) := by
  cases source with
  | nil => simp [override, overrideFields]
  | cons f fs => simp [override]

theorem override_of_not_obj {target source : Json} (h : source.isEmpty = false)
    (ho : target.isObject = false ∨ source.isObject = false) :
    target.override source = source := by
  cases source with
  | obj fields =>
    cases fields with
    | nil => simp [isEmpty] at h
    | cons f fs => cases target <;> simp_all [override, isObject]
  | _ => simp_all [override]

end Reconciliation.Json
