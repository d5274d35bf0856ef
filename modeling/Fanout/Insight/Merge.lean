import Fanout.Analysis.Result
import Fanout.Insight.Basic

/-!
# Merging an insight into local findings

* `Metrics.overriddenBy` : local figures, where a remote figure that says something wins;
* `merge` : the result of local issues and an insight.
-/

namespace Fanout

/-- A remote figure, where it is a number other than zero. -/
def preferRemote (remote local_ : Float) : Float :=
  if remote != 0 && remote.isFinite then remote else local_

def Metrics.overriddenBy (m : Metrics) (r : Insight) : Metrics where
  loadTime := preferRemote r.loadTimeImpact m.loadTime
  databaseLoad := preferRemote r.databaseEfficiency m.databaseLoad
  networkRequests := preferRemote r.networkOptimization m.networkRequests
  potentialImprovement := preferRemote r.potentialImprovement m.potentialImprovement

/-- The local issues and then the remote ones. Figures come from the local issues, recommendations
from all. -/
def merge (issues : List Issue) (r : Insight) (model : LoadTimeModel) : Result :=
  let metrics := (Metrics.synthesize issues model).overriddenBy r
  let all := issues ++ r.additionalIssues
  ⟨all, metrics, advise all metrics⟩

end Fanout
