import Fanout.Json.Basic
import Fanout.Remote.Error
import Fanout.Remote.Url

/-!
# Requests

* `Request`, `Response`, `Fetch m` : what is asked of a service, what it answers, and how answers
  are had in a monad;
* `exchange` : the text of a good answer. A request that cannot be sent reaches no service.
-/

namespace Fanout

inductive Method
  | get
  | post
  deriving Repr, DecidableEq

def Method.name : Method → String
  | .get => "GET"
  | .post => "POST"

structure Request where
  method : Method
  url : Url
  headers : List (String × String)
  body : Option Json := none

structure Response where
  status : Nat
  body : String
  deriving Repr, DecidableEq

abbrev Fetch (m : Type → Type) := Request → m (Except RemoteError Response)

def Response.isSuccess (r : Response) : Bool := 200 ≤ r.status && r.status < 300

/-- Whether a text may be the value of a header. -/
def isHeaderText (s : String) : Bool := s.toList.all fun c => c == '\t' || (' ' ≤ c && c != '\x7f')

def Request.isSendable (r : Request) : Bool :=
  r.url.isWeb && r.headers.all fun (_, value) => isHeaderText value

variable {m : Type → Type} [Monad m]

/-- The text that a service answers with, if the answer is a good one. -/
def exchange (fetch : Fetch m) (service : String) (r : Request) : ExceptT RemoteError m String := do
  if !r.isSendable then throw (.transport "the request cannot be built")
  else do
    let answer ← ExceptT.mk (fetch r)
    if answer.isSuccess then pure answer.body
    else throw (.status service answer.status answer.body)

/-- The headers of every request with a body, and those of a bearer of a token. -/
def contentHeaders : Option Json → List (String × String)
  | some _ => [("content-type", "application/json")]
  | none => []

def bearer (token : String) : String × String := ("authorization", "Bearer " ++ token)

end Fanout
