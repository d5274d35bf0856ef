/-!
# Errors of remote services

`RemoteError` tells why a service gave no answer that can be used; `RemoteError.message` is its
text.
-/

namespace Fanout

inductive RemoteError where
  /-- No reply came, for a reason. -/
  | transport (reason : String)
  | status (service : String) (code : Nat) (body : String)
  | missingCredential (variable_ : String)
  | malformedReply (reason : String)
  | undecodable (reason : String)
  | invalidUrl (reason : String)
  deriving Repr, DecidableEq, Inhabited

def RemoteError.message : RemoteError → String
  | .transport reason => "request failed: " ++ reason
  | .status service code body => s!"{service} responded with status {code}: {body}"
  | .missingCredential name =>
    s!"missing credential: environment variable {name} is not set"
  | .malformedReply reason => "malformed reply: " ++ reason
  | .undecodable reason => "failed to decode content: " ++ reason
  | .invalidUrl reason => "invalid url: " ++ reason

end Fanout
