import Reconciliation.Json.Basic

/-!
# JSON as it stands in a text

The grammar of JSON admits more than there are values: a key may be repeated, a number may exceed
every format, an escape may name half a character. Whoever reads only some members of an object
minds none of this in the others. So a text is first taken apart by the grammar alone:

* `RawJson` -- the parts of a text: members in their order, repeated ones included, and
  `unreadable` where the grammar holds but no value is named;
* `RawJson.occurrences` -- all values that an object gives to a key;
* `RawJson.value?` -- the value of the whole, the last of repeated members counting; none if any
  part is unreadable;
* `Json.raw` -- a value as the parts of a text, from which it is read back (`Json.value?_raw`).
-/

namespace Reconciliation

/-- The parts of a JSON text. -/
inductive RawJson where
  | null
  | bool (b : Bool)
  | num (n : Number)
  | str (s : String)
  | arr (items : List RawJson)
  | obj (members : List (String × RawJson))
  /-- A part that follows the grammar but names no value. -/
  | unreadable

namespace RawJson

instance : Inhabited RawJson := ⟨null⟩

/-- The values that the members give to a key, in their order. -/
def occurrences (members : List (String × RawJson)) (key : String) : List RawJson :=
  (members.filter (·.1 == key)).map (·.2)

mutual

/-- The value of the whole; of repeated members the last one counts. -/
def value? : RawJson → Option Json
  | null => some .null
  | bool b => some (.bool b)
  | num n => some (.num n)
  | str s => some (.str s)
  | arr items => (valueItems? items).map .arr
  | obj members => (valueMembers? members).map .ofMembers
  | unreadable => none

/-- The values of all items. -/
def valueItems? : List RawJson → Option (List Json)
  | [] => some []
  | r :: rest => do
    let j ← value? r
    let items ← valueItems? rest
    some (j :: items)

/-- The values of all members. -/
def valueMembers? : List (String × RawJson) → Option (List (String × Json))
  | [] => some []
  | (key, r) :: rest => do
    let j ← value? r
    let members ← valueMembers? rest
    some ((key, j) :: members)

end

end RawJson

namespace Json

mutual

/-- The parts of a text that names the value. -/
def raw : Json → RawJson
  | null => .null
  | bool b => .bool b
  | num n => .num n
  | str s => .str s
  | arr items => .arr (rawItems items)
  | obj fields => .obj (rawFields fields)

/-- The parts of every item. -/
def rawItems : List Json → List RawJson
  | [] => []
  | j :: rest => raw j :: rawItems rest

/-- The parts of every member. -/
def rawFields : List (String × Json) → List (String × RawJson)
  | [] => []
  | (key, j) :: rest => (key, raw j) :: rawFields rest

end

mutual

theorem value?_raw (j : Json) (h : j.Ordered) : j.raw.value? = some j := by
  cases j with
  | null => rfl
  | bool b => rfl
  | num n => rfl
  | str s => rfl
  | arr items =>
    have ih := valueItems?_rawItems items (by simpa [Ordered] using h)
    simp [raw, RawJson.value?, ih]
  | obj fields =>
    have h' : Entries.Ascending fields ∧ OrderedFields fields := by simpa [Ordered] using h
    have ih := valueMembers?_rawFields fields h'.2
    simp [raw, RawJson.value?, ih, ofMembers, Entries.Ascending.insertAll_nil h'.1]

theorem valueItems?_rawItems (items : List Json) (h : OrderedItems items) :
    RawJson.valueItems? (rawItems items) = some items := by
  cases items with
  | nil => rfl
  | cons j rest =>
    have h' : j.Ordered ∧ OrderedItems rest := by simpa [OrderedItems] using h
    simp [rawItems, RawJson.valueItems?, value?_raw j h'.1, valueItems?_rawItems rest h'.2]

theorem valueMembers?_rawFields (fields : List (String × Json)) (h : OrderedFields fields) :
    RawJson.valueMembers? (rawFields fields) = some fields := by
  cases fields with
  | nil => rfl
  | cons f rest =>
    obtain ⟨key, j⟩ := f
    have h' : j.Ordered ∧ OrderedFields rest := by simpa [OrderedFields] using h
    simp [rawFields, RawJson.valueMembers?, value?_raw j h'.1, valueMembers?_rawFields rest h'.2]

end

end Json

end Reconciliation
