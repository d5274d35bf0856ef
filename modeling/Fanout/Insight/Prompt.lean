import Fanout.Insight.Basic

/-!
# The prompt

`prompt` is the text that a model is asked: the source between a request and the form of the reply.
-/

namespace Fanout

namespace Prompt

def preamble : String :=
  "Analyze the following code for performance issues and provide metrics:"

def requests : String := "Please provide:
1. Estimated load time impact (in seconds)
2. Database efficiency assessment (0-10 scale)
3. Network optimization opportunities (0-10 scale)
4. Overall potential improvement percentage
5. List of any additional performance issues found"

def objectForm : String :=
  "Return the response as **strictly valid JSON**. Ensure all property names are enclosed in double quotes.
Use exactly these keys: \"loadTimeImpact\", \"databaseEfficiency\", \"networkOptimization\", \"potentialImprovement\" (numbers) and \"issues\" (an array of objects with \"severity\" one of info|warning|critical, \"title\", \"description\", optional \"line\", optional \"suggestion\", optional \"impact\")."

def labeledForm : String := "Answer in exactly this format, one value per line:
Load Time Impact: <seconds>
Database Efficiency: <0-10>
Network Optimization: <0-10>
Potential Improvement: <percent>
Issues:
1. [<info|warning|critical>] <title> - <description>"

def form : ReplyFormat → String
  | .json => objectForm
  | .labeled => labeledForm

end Prompt

def prompt (format : ReplyFormat) (source : String) : String :=
  Prompt.preamble ++ "\n\nCode:\n" ++ source ++ "\n\n" ++ Prompt.requests ++ "\n\n" ++
    Prompt.form format ++ "\n"

end Fanout
