import Fanout.Impact.Metrics
import Fanout.Pattern.Rules

/-!
# Recommendations

* `Recommendation` : a title, a description and perhaps example code;
* `advise` : one recommendation for every issue, and one more for each figure above its threshold.
-/

namespace Fanout
open Json

structure Recommendation where
  title : String
  description : String
  exampleCode : String
  deriving Repr, DecidableEq, Inhabited

namespace Recommendation

def toJson (r : Recommendation) : Json :=
  .object
    [("title", .string r.title), ("description", .string r.description),
      ("exampleCode", .string r.exampleCode)]

def ofJson? (v : Json) : Option Recommendation := do
  match ← record? [["title"], ["description"], ["exampleCode"]] v with
  | [title, description, exampleCode] =>
    some {
      title := ← required? string? title
      description := ← required? string? description
      exampleCode := ← required? string? exampleCode }
  | _ => none

end Recommendation

def batchFetchExample : String := "
const fetchProductsWithDetails = async (productIds) => \x7b
  const response = await fetch('/api/products/batch', \x7b
    method: 'POST',
    body: JSON.stringify(\x7b ids: productIds \x7d),
  \x7d);
  return response.json();
\x7d;"

def requestBatchingExample : String := "
const batchRequests = async (requests) => \x7b
  return Promise.all(
    requests.map(req => fetch(req.url, req.options))
  );
\x7d;"

def queryOptimizationExample : String := "
const getProductsWithCategories = async () => \x7b
  return await prisma.product.findMany(\x7b
    include: \x7b category: true \x7d,
    where: \x7b active: true \x7d,
    orderBy: \x7b createdAt: 'desc' \x7d,
  \x7d);
\x7d;"

/-- Example code for the title of an issue, empty where none is known. -/
def exampleCode (title : String) : String :=
  if title = Rules.repeatedTitle then batchFetchExample else ""

def fixFor (issue : Issue) : Recommendation where
  title := "Fix " ++ issue.title
  description := issue.suggestion.getD "No specific recommendation available"
  exampleCode := exampleCode issue.title

def batchRequests : Recommendation where
  title := "Implement Request Batching"
  description := "Reduce the number of network requests by implementing request batching"
  exampleCode := requestBatchingExample

def optimizeQueries : Recommendation where
  title := "Optimize Database Queries"
  description := "Implement database query optimization techniques"
  exampleCode := queryOptimizationExample

/-- More requests than this call for batching. -/
def batchingThreshold : Float := 10

/-- More load than this calls for better queries. -/
def queryThreshold : Float := 5

def advise (issues : List Issue) (m : Metrics) : List Recommendation :=
  issues.map fixFor ++
    (if m.networkRequests > batchingThreshold then [batchRequests] else []) ++
    (if m.databaseLoad > queryThreshold then [optimizeQueries] else [])

end Fanout
