import Reconciliation.Http.Message
import Reconciliation.Json.Codec
import Reconciliation.Text.Quoted

/-!
# What the API server says of a request

* `Refusal` -- why a request was not carried out. An answer that refuses a request but does not say
  why counts as a refusal with the code of the answer, and its text as the message
  (`Refusal.ofResponse`);
* `ApiStatus` -- how a request went that answers with no object.
-/

namespace Reconciliation

/-! ## 1. Refusals -/

/-- Why the API server does not carry out a request. -/
structure Refusal where
  status : String
  message : String
  reason : String
  code : Nat
deriving DecidableEq

namespace Refusal

/-- The members of a refusal. -/
def members : Fields Refusal Refusal :=
  (Fields.of mk)
    |>.field (·.status) (.mandatory "status" .text)
    |>.field (·.message) (.defaulted "message" .text "")
    |>.field (·.reason) (.defaulted "reason" .text "")
    |>.field (·.code) (.mandatory "code" (.natural 16))

/-- The refusal in an answer. -/
def ofResponse (r : HttpResponse) : Refusal :=
  ((RawJson.ofText? r.body).bind members.positional.decode?).getD
    ⟨"Failure", Quoted.encode r.body, "Failed to parse error data", r.status⟩

end Refusal

/-! ## 2. Statuses -/

/-- Whether a request was carried out. -/
inductive StatusSummary where
  | success
  | failure
deriving DecidableEq

namespace StatusSummary

/-- The name of the summary. -/
def name : StatusSummary → String
  | success => "Success"
  | failure => "Failure"

/-- The summary with the given name. -/
def ofName? : String → Option StatusSummary
  | "Success" => some success
  | "Failure" => some failure
  | _ => none

/-- Written as its name. -/
def codec : Codec StatusSummary := .choice name ofName?

end StatusSummary

/-- One cause of a failure. -/
structure StatusCause where
  reason : String
  message : String
  field : String
deriving DecidableEq

/-- The members of a cause. -/
def StatusCause.members : Fields StatusCause StatusCause :=
  (Fields.of mk)
    |>.field (·.reason) (.defaulted "reason" .text "")
    |>.field (·.message) (.defaulted "message" .text "")
    |>.field (·.field) (.defaulted "field" .text "")

/-- What a request was about, and what it failed for. -/
structure StatusDetails where
  name : String
  group : String
  kind : String
  uid : String
  causes : List StatusCause
  retryAfterSeconds : Nat
deriving DecidableEq

/-- The members of status details. -/
def StatusDetails.members : Fields StatusDetails StatusDetails :=
  (Fields.of mk)
    |>.field (·.name) (.defaulted "name" .text "")
    |>.field (·.group) (.defaulted "group" .text "")
    |>.field (·.kind) (.defaulted "kind" .text "")
    |>.field (·.uid) (.defaulted "uid" .text "")
    |>.field (·.causes) (.defaulted "causes" (.list StatusCause.members.positional) [])
    |>.field (·.retryAfterSeconds) (.defaulted "retryAfterSeconds" (.natural 32) 0)

/-- How a request went. -/
structure ApiStatus where
  status : Option StatusSummary
  code : Nat
  message : String
  reason : String
  details : Option StatusDetails
deriving DecidableEq

/-- The members of a status. -/
def ApiStatus.members : Fields ApiStatus ApiStatus :=
  (Fields.of mk)
    |>.field (·.status) (.defaulted "status" (.option StatusSummary.codec) none)
    |>.field (·.code) (.defaulted "code" (.natural 16) 0)
    |>.field (·.message) (.defaulted "message" .text "")
    |>.field (·.reason) (.defaulted "reason" .text "")
    |>.field (·.details)
      (.defaulted "details" (.option StatusDetails.members.positional) none)

end Reconciliation
