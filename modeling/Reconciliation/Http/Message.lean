import Reconciliation.Http.Query
import Reconciliation.Json.Reader
import Reconciliation.Json.Writer

/-!
# Requests and answers

What goes to an API server and comes back from it; how it travels is left to a transport over a
world `σ`.

* `RequestTarget.ofAddress?` -- what an address asks for: a path and a query string. What follows a
  `#` is not sent, and an address with characters that neither part allows is none;
* `HttpRequest.to?` -- a request to an address, perhaps with JSON as its body;
* `HttpResponse`, `Transport` -- what is answered, and the way there.
-/

namespace Reconciliation

/-! ## 1. Targets -/

/-- What a request asks for. -/
structure RequestTarget where
  path : String
  query : String
deriving DecidableEq

namespace RequestTarget

/-- Whether a character is neither a control character of ASCII nor the blank. -/
def isVisible (c : Char) : Bool := 0x20 < c.toNat && c.toNat != 0x7F

/-- Whether a character may stand in a query string: control characters, the blank, the double quote
and angle brackets may not. -/
def allowedInQuery (c : Char) : Bool :=
  isVisible c && c != '"' && c != '<' && c != '>'

/-- Whether a character may stand in a path: control characters, the blank, angle brackets and the
grave accent may not. -/
def allowedInPath (c : Char) : Bool :=
  isVisible c && c != '<' && c != '>' && c != '\x60'

/-- The target that an address of at most 65534 bytes names. -/
def ofAddress? (address : String) : Option RequestTarget :=
  let sent := address.toList.takeWhile (· != '#')
  let path := sent.takeWhile (· != '?')
  let query := (sent.dropWhile (· != '?')).drop 1
  if address.utf8ByteSize ≤ 65534 && path.all allowedInPath && query.all allowedInQuery then
    some ⟨String.ofList path, String.ofList query⟩
  else none

/-- The parameters of the query string. -/
def parameters (t : RequestTarget) : List (String × String) := Query.decode t.query

end RequestTarget

/-! ## 2. Requests -/

/-- The method of a request. -/
inductive HttpMethod where
  | get
  | post
  | put
  | patch
  | delete
deriving DecidableEq

/-- The name of the method. -/
def HttpMethod.name : HttpMethod → String
  | get => "GET"
  | post => "POST"
  | put => "PUT"
  | patch => "PATCH"
  | delete => "DELETE"

/-- A body in JSON, and the type of content it is declared as. -/
structure HttpContent where
  type : String
  json : Json

/-- The body as it is sent. -/
def HttpContent.text (c : HttpContent) : String := c.json.compact

/-- A request to an API server. -/
structure HttpRequest where
  method : HttpMethod
  target : RequestTarget
  content : Option HttpContent

/-- A request to an address, if the address names a target. -/
def HttpRequest.to? (method : HttpMethod) (address : String) (content : Option HttpContent) :
    Option HttpRequest :=
  (RequestTarget.ofAddress? address).map fun target => ⟨method, target, content⟩

/-! ## 3. Answers -/

/-- An answer of an API server. -/
structure HttpResponse where
  status : Nat
  body : String

/-- Whether the answer refuses the request. -/
def HttpResponse.isRefusal (r : HttpResponse) : Bool := 400 ≤ r.status && r.status < 600

/-- Sends a request and waits for the answer. -/
abbrev Transport (σ : Type) := HttpRequest → StateM σ HttpResponse

end Reconciliation
