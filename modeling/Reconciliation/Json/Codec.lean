import Reconciliation.Base64
import Reconciliation.Instant
import Reconciliation.Json.Raw

/-!
# Codecs

How the values of a type are written as JSON and read back. Reading starts from the parts of a text
(`RawJson`), so that what a structure does not know need not even name a value. Scalars, lists and
dictionaries have codecs of their own; a structure gets one from the list of its members:

* `Codec` -- an encoder and a decoder; `Codec.ofJson?` decodes a JSON value;
* `Member` -- one member of an object: what is written when, and what a missing or null one means;
* `Fields σ α` -- members collected so far, which write a `σ` and read an `α`; the constructor of a
  structure with all its members, `Fields σ σ`, is a codec (`Fields.codec`, `Fields.positional`).

Members that no codec knows are dropped in reading. Members are written in key order.
-/

namespace Reconciliation

/-- A way to write the values of a type as JSON and to read them back. -/
structure Codec (α : Type) where
  encode : α → Json
  decode? : RawJson → Option α

namespace Codec

/-- Decodes a JSON value. -/
def ofJson? (c : Codec α) (j : Json) : Option α := c.decode? j.raw

/-! ## 1. Scalars -/

/-- A text. -/
def text : Codec String where
  encode := .str
  decode?
    | .str s => some s
    | _ => none

/-- A truth value. -/
def flag : Codec Bool where
  encode := .bool
  decode?
    | .bool b => some b
    | _ => none

/-- An integer of 32 bits; a float is no integer. -/
def int32 : Codec Int32 where
  encode n := .ofInt n.toInt
  decode?
    | .num (.int n) =>
      if Int32.minValue.toInt ≤ n ∧ n ≤ Int32.maxValue.toInt then some (Int32.ofInt n) else none
    | _ => none

/-- An integer of 64 bits; a float is no integer. -/
def int64 : Codec Int64 where
  encode n := .ofInt n.toInt
  decode?
    | .num (.int n) =>
      if Int64.minValue.toInt ≤ n ∧ n ≤ Int64.maxValue.toInt then some (Int64.ofInt n) else none
    | _ => none

/-- A natural number of so many bits. -/
def natural (bits : Nat) : Codec Nat where
  encode n := .ofNat n
  decode?
    | .num (.int n) => if 0 ≤ n ∧ n.toNat < 1 <<< bits then some n.toNat else none
    | _ => none

/-- Bytes in base64; null reads as no bytes. -/
def bytes : Codec (List UInt8) where
  encode b := .str (String.ofList (Base64.encode b))
  decode?
    | .null => some []
    | .str s => Base64.decode? s.toList
    | _ => none

/-- A point in time, written to the second. -/
def instant : Codec Instant where
  encode t := .str t.toText
  decode?
    | .str s => Instant.ofText? s
    | _ => none

/-- Any JSON value. -/
def json : Codec Json where
  encode j := j
  decode? r := r.value?

/-- A choice among names, written as the name; it is also read from an object whose only member has
the name as its key and null as its value. -/
def choice (name : α → String) (ofName? : String → Option α) : Codec α where
  encode a := .str (name a)
  decode?
    | .str s => ofName? s
    | .obj [(s, .null)] => ofName? s
    | _ => none

/-! ## 2. Containers -/

/-- Decodes every item, or fails. -/
def decodeItems (c : Codec α) : List RawJson → Option (List α)
  | [] => some []
  | r :: rest => do
    let a ← c.decode? r
    let as ← decodeItems c rest
    some (a :: as)

/-- A list. -/
def list (c : Codec α) : Codec (List α) where
  encode items := .arr (items.map c.encode)
  decode?
    | .arr items => c.decodeItems items
    | _ => none

/-- Decodes the value of every member, or fails. -/
def decodeMembers (c : Codec α) : List (String × RawJson) → Option (List (String × α))
  | [] => some []
  | (key, r) :: rest => do
    let a ← c.decode? r
    let as ← decodeMembers c rest
    some ((key, a) :: as)

/-- A dictionary keyed by text; of repeated keys the last one counts. -/
def dict (c : Codec α) : Codec (Dict String α) where
  encode d := .obj (d.entries.map fun e => (e.1, c.encode e.2))
  decode?
    | .obj members => (c.decodeMembers members).map Dict.ofList
    | _ => none

/-- A value that may be absent, with null for absence. -/
def option (c : Codec α) : Codec (Option α) where
  encode a := a.elim .null c.encode
  decode?
    | .null => some none
    | r => (c.decode? r).map some

end Codec

/-! ## 3. Members -/

/-- One member of a JSON object. Writing may leave it out; reading is told when it is missing. -/
structure Member (α : Type) where
  key : String
  write : α → Option Json
  read : Option RawJson → Option α

namespace Member

/-- Written when set; missing and null read as unset. -/
def optional (key : String) (c : Codec α) : Member (Option α) where
  key
  write a := a.map c.encode
  read
    | none | some .null => some none
    | some r => (c.decode? r).map some

/-- Always written; missing and null read as the zero value. -/
def required (key : String) (c : Codec α) (zero : α) : Member α where
  key
  write a := some (c.encode a)
  read
    | none | some .null => some zero
    | some r => c.decode? r

/-- Always written and always expected. -/
def mandatory (key : String) (c : Codec α) : Member α where
  key
  write a := some (c.encode a)
  read r := r.bind c.decode?

/-- Always written; missing reads as the given value, and null is left to the codec. -/
def defaulted (key : String) (c : Codec α) (zero : α) : Member α where
  key
  write a := some (c.encode a)
  read
    | none => some zero
    | some r => c.decode? r

/-- Reads the member from all its occurrences: each has to be readable, and the last one counts. -/
def readAll (m : Member α) : List RawJson → Option α
  | [] => m.read none
  | [r] => m.read (some r)
  | r :: rest => (m.read (some r)).bind fun _ => m.readAll rest

end Member

/-! ## 4. Structures -/

/-- Members which are written from a `σ` and from which an `α` is read. -/
structure Fields (σ α : Type) where
  /-- The keys in declaration order. -/
  keys : List String
  /-- The members that are present. -/
  write : σ → List (String × Json)
  /-- Reads the members through their occurrences. -/
  read : (String → List RawJson) → Option α

namespace Fields

/-- No members yet: reading yields the given value, usually a constructor that awaits its fields. -/
def of (make : α) : Fields σ α where
  keys := []
  write _ := []
  read _ := some make

/-- Adds a member, written from a projection and read into the next argument. -/
def field (f : Fields σ (α → β)) (get : σ → α) (m : Member α) : Fields σ β where
  keys := f.keys ++ [m.key]
  write s := f.write s ++ ((m.write (get s)).map fun j => (m.key, j)).toList
  read env := do
    let make ← f.read env
    let a ← m.readAll (env m.key)
    some (make a)

/-- Whether the part is the given text. -/
def isText (value : String) : RawJson → Bool
  | .str s => s = value
  | _ => false

/-- Adds a member that always holds the given text: another value does not read. -/
def literal (f : Fields σ α) (key value : String) : Fields σ α where
  keys := f.keys ++ [key]
  write s := f.write s ++ [(key, .str value)]
  read env := if (env key).all (isText value) then f.read env else none

/-- The codec of a structure: an object with the members. -/
def codec (f : Fields σ σ) : Codec σ where
  encode s := Json.ofMembers (f.write s)
  decode?
    | .obj members => f.read (RawJson.occurrences members)
    | _ => none

/-- The codec of a structure that does not allow a member to be repeated, and that may also be read
from the bare list of its members' values in declaration order; members past the end of the list are
missing, surplus items are refused. -/
def positional (f : Fields σ σ) : Codec σ where
  encode := f.codec.encode
  decode?
    | .arr items =>
      if items.length ≤ f.keys.length then f.read fun key => items[f.keys.idxOf key]?.toList
      else none
    | .obj members =>
      if f.keys.all fun key => (RawJson.occurrences members key).length ≤ 1 then
        f.read (RawJson.occurrences members)
      else none
    | _ => none

end Fields

end Reconciliation
