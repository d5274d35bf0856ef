import Fanout.Log.Event
import Fanout.Review.Process
import Fanout.Settings.Root

/-!
# Events in outcomes

* `Event.ofFound` : what the log tells of a configuration;
* `Event.ofReview` : what it tells of a review.
-/

namespace Fanout.Event

def ofFound : Found → List Event
  | .invalid path => [.invalidConfig path]
  | _ => []

def ofDelivery (c : Comment) : Delivery → List Event
  | .failed e => [.unposted c.path c.line e]
  | _ => []

def ofFile (f : ChangedFile) : FileOutcome → List Event
  | .skipped => [.skipped f.filename f.status]
  | .unfetched e => [.unfetched f.filename e]
  | .unparsed e => [.unreviewed f.filename e]
  | .scanned issues comments =>
    .matched f.filename issues :: comments.flatMap fun (c, d) => ofDelivery c d

def ofReview : ReviewOutcome → List Event
  | .headless e => [.headless e]
  | .unlisted e => [.unlisted e]
  | .reviewed head files =>
    .reviewing files.length head :: files.flatMap fun (f, o) => ofFile f o

end Fanout.Event
