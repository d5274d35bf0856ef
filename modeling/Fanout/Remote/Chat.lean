import Fanout.Insight.Prompt
import Fanout.Insight.Reply
import Fanout.Json.Shape
import Fanout.Log.Event
import Fanout.Remote.Http
import Fanout.Settings.Effective

/-!
# Insights from a remote model

* `ChatSettings.ask` : what a model says of a source, or why it says nothing;
* `ChatSettings.insight` : the same, where a failure is told of and says nothing.
-/

namespace Fanout
open Json

def choiceReply : Shape (Option (Option String)) :=
  .record1 "ChatChoice"
    { key := "message"
      shape := .optional (.record1 "ChatReply"
        { key := "content", shape := .optional .text, absent := some none })
      absent := some none }

def chatReply : Shape (List (Option (Option String))) :=
  .record1 "ChatResponse"
    { key := "choices", shape := .list choiceReply, absent := some [], beyond := some [] }

/-- The content of the first choice of a reply. -/
def contentOfReply (text : String) : Except RemoteError String :=
  match Shape.ofText chatReply text with
  | .error f => .error (.malformedReply f.message)
  | .ok (some (some content) :: _) => .ok content
  | .ok _ => .error (.malformedReply "reply has no message content")

namespace ChatSettings

variable (s : ChatSettings)

/-- The address that completions are asked of, as it is written. -/
def completions : String :=
  String.ofList (Text.dropEndWhile (· == '/') s.endpoint.toList) ++ "/chat/completions"

def body (source : String) : Json :=
  .object
    [("model", .string s.model),
      ("messages", .array
        [.object [("role", .string "user"), ("content", .string (prompt s.format source))]])]

def request (url : Url) (source : String) : Request :=
  let body := s.body source
  { method := .post, url, body := some body
    headers := [bearer s.key, ("accept", "*/*")] ++ contentHeaders (some body) }

variable {m : Type → Type} [Monad m] (fetch : Fetch m)

def reply (source : String) : ExceptT RemoteError m String := do
  match Url.ofText s.completions with
  | .error f => throw (.transport f.message)
  | .ok url =>
    let text ← exchange fetch "model" (s.request url source)
    ExceptT.mk (pure (contentOfReply text))

def ask (source : String) : m (Except RemoteError Insight) :=
  (return .ofReply s.format (← s.reply fetch source) : ExceptT RemoteError m Insight).run

def insight (source : String) (tell : Event → m Unit := Event.unheard) : m Insight := do
  tell (.requesting s.completions s.model)
  match ← s.ask fetch source with
  | .ok i => pure i
  | .error e =>
    tell (.unanswered e)
    pure .empty

end ChatSettings
end Fanout
