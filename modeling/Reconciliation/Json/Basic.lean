import Reconciliation.Binary64
import Reconciliation.Dict
import Reconciliation.Digits

/-!
# JSON values

The wire form of every object. Numbers keep integers and floats apart: `1` is not `1.0`. An object
is the list of its members; every reader and every operation of the library lists them in ascending
key order, which is what `Json.Ordered` says at every level.

* `Json.same` -- equality of values, with the two float zeros equal;
* `Json.isEmpty` -- the zero value of each shape;
* `Json.get?`, `Json.at?` -- the member of an object, the value at a list of keys;
* `Json.pointer?` -- the value a JSON pointer names.
-/

namespace Reconciliation

/-- A JSON number, written without or with a fraction or exponent. -/
inductive Number where
  | int (n : Int)
  | float (x : Binary64)
deriving DecidableEq

namespace Number

/-- Whether the number is zero. -/
def isZero : Number → Bool
  | int n => n == 0
  | float x => x.isZero

/-- Equality within the integers and within the floats. -/
def same : Number → Number → Bool
  | int a, int b => a == b
  | float a, float b => a.same b
  | _, _ => false

@[simp] theorem same_self (n : Number) : n.same n = true := by cases n <;> simp [same]

end Number

/-- A JSON value. -/
inductive Json where
  | null
  | bool (b : Bool)
  | num (n : Number)
  | str (s : String)
  | arr (items : List Json)
  | obj (fields : List (String × Json))

namespace Json

instance : Inhabited Json := ⟨null⟩

/-! ## 1. Shapes and lookups -/

/-- The zero value of a shape: null, false, a number equal to zero, the empty text, list, object. -/
def isEmpty : Json → Bool
  | null => true
  | bool b => !b
  | num n => n.isZero
  | str s => s.isEmpty
  | arr items => items.isEmpty
  | obj fields => fields.isEmpty

/-- Whether the value is null. -/
def isNull : Json → Bool
  | null => true
  | _ => false

/-- Whether the value is an object. -/
def isObject : Json → Bool
  | obj _ => true
  | _ => false

/-- The members of an object; any other value has none. -/
def fields : Json → List (String × Json)
  | obj fields => fields
  | _ => []

/-- The member of an object; a value which is no object has no members. -/
def get? (j : Json) (key : String) : Option Json := Entries.lookup key j.fields

/-- The value reached by following object keys. -/
def at? (j : Json) : List String → Option Json
  | [] => some j
  | key :: path => (j.get? key).bind (·.at? path)

/-- The object with the given members, later ones winning, in key order. -/
def ofMembers (members : List (String × Json)) : Json := obj (Entries.insertAll members [])

/-- The integer as a JSON number. -/
def ofInt (n : Int) : Json := num (.int n)

/-- The natural number as a JSON number. -/
def ofNat (n : Nat) : Json := num (.int n)

/-- The text if there is one, else null. -/
def ofText? (s : Option String) : Json := s.elim null str

/-! ## 2. Equality -/

mutual

/-- Equality of values; the two float zeros are equal, and an integer is never equal to a float. -/
def same : Json → Json → Bool
  | null, null => true
  | bool a, bool b => a == b
  | num a, num b => a.same b
  | str a, str b => a == b
  | arr a, arr b => sameItems a b
  | obj a, obj b => sameFields a b
  | _, _ => false

/-- `same`, item by item. -/
def sameItems : List Json → List Json → Bool
  | [], [] => true
  | a :: as, b :: bs => same a b && sameItems as bs
  | _, _ => false

/-- `same`, member by member: equal keys and equal values in the same order. -/
def sameFields : List (String × Json) → List (String × Json) → Bool
  | [], [] => true
  | (k, a) :: as, (l, b) :: bs => k == l && same a b && sameFields as bs
  | _, _ => false

end

mutual

@[simp] theorem same_self (j : Json) : j.same j = true := by
  cases j with
  | null => rfl
  | bool b => simp [same]
  | num n => simp [same]
  | str s => simp [same]
  | arr items => simpa [same] using sameItems_self items
  | obj fields => simpa [same] using sameFields_self fields

@[simp] theorem sameItems_self (items : List Json) : sameItems items items = true := by
  cases items with
  | nil => rfl
  | cons j rest => simp [sameItems, same_self j, sameItems_self rest]

@[simp] theorem sameFields_self (fields : List (String × Json)) :
    sameFields fields fields = true := by
  cases fields with
  | nil => rfl
  | cons f rest =>
    obtain ⟨k, j⟩ := f
    simp [sameFields, same_self j, sameFields_self rest]

end

theorem map_fst_of_sameFields {xs ys : List (String × Json)}
    (h : sameFields xs ys = true) : xs.map (·.1) = ys.map (·.1) := by
  induction xs generalizing ys with
  | nil =>
    cases ys with
    | nil => rfl
    | cons y ys => cases h
  | cons x xs ih =>
    cases ys with
    | nil => cases h
    | cons y ys =>
      simp only [sameFields, Bool.and_eq_true, beq_iff_eq] at h
      rw [List.map_cons, List.map_cons, h.1.1, ih h.2]

/-! ## 3. Key order -/

mutual

/-- The keys of every object inside the value ascend strictly. -/
def Ordered : Json → Prop
  | arr items => OrderedItems items
  | obj fields => Entries.Ascending fields ∧ OrderedFields fields
  | _ => True

/-- Every item is ordered. -/
def OrderedItems : List Json → Prop
  | [] => True
  | j :: rest => Ordered j ∧ OrderedItems rest

/-- Every member's value is ordered. -/
def OrderedFields : List (String × Json) → Prop
  | [] => True
  | (_, j) :: rest => Ordered j ∧ OrderedFields rest

end

/-! ## 4. Pointers -/

/-- Undoes the escapes of a pointer token: `~1` is a slash, `~0` a tilde. -/
def unescapeToken (token : String) : String := (token.replace "~1" "/").replace "~0" "~"

/-- An array position: digits without sign, and without a leading zero unless it stands alone. -/
def position? (token : String) : Option Nat :=
  let digits := token.toList
  if digits.isEmpty || !digits.all Char.isDigit then none
  else if digits.head? = some '0' && 1 < digits.length then none
  else some (Digits.value digits)

/-- Follows pointer tokens: a member of an object, an item of an array. -/
def follow? : Json → List String → Option Json
  | j, [] => some j
  | obj fields, token :: rest =>
    (Entries.lookup (unescapeToken token) fields).bind (follow? · rest)
  | arr items, token :: rest =>
    ((position? (unescapeToken token)).bind (items[·]?)).bind (follow? · rest)
  | _, _ :: _ => none

/-- The value a JSON pointer names: the empty pointer names the whole value, any other starts with
a slash and names one member or item per token. -/
def pointer? (j : Json) (pointer : String) : Option Json :=
  match pointer.splitOn "/" with
  | [""] => some j
  | "" :: tokens => j.follow? tokens
  | _ => none

end Json

end Reconciliation
