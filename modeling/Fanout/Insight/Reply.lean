import Fanout.Insight.LabeledReply
import Fanout.Insight.ObjectReply

/-!
# Replies of a model

`Insight.ofReply` reads a reply in the form that was asked for. No reply is an error: what cannot be
read says nothing.
-/

namespace Fanout

def Insight.ofReply : ReplyFormat → String → Insight
  | .json, text => .ofObjectReply text
  | .labeled, text => .ofLabeledReply text

end Fanout
