import Fanout.Grammar.Reading
import Fanout.Proofs.Analysis.Finish
import Fanout.Proofs.Pattern.Findings
import Fanout.Proofs.Review.Accounts
import Fanout.Proofs.Tree.Depth
import Fanout.Scan.Complete

/-!
# The comments of a review

* `exists_line_of_mem` : each issue of a parsed source names a line, counted from one;
* `Comment.on`, `commentsFor` : the comment on an issue, and the comments on a file by the answer to the call
  for its content;
* `fetches` : the calls for the contents of files, in the order of the files;
* `Commented` : the calls for some files and the comments on them;
* `Lists`, `Answered` : a host that has a head and lists files, and what it answers for each of them;
* `review_comments` : a review comments on each issue of its files once and posts each comment once, and what
  a host answers for one file changes nothing in the comments on another.

The comments on a file are a function of its path and of one answer. That two reviews agree in the comments on
a file where the answers for it agree is read off this, whatever the hosts answer for other files and to posts.
-/

namespace Fanout

/-! ## Lines of issues -/

theorem Rules.exists_visit_of_mem {root : Node} {file : Option String} {i : Issue}
    (h : i ∈ findIssues root file) : ∃ v ∈ root.visits, i.line = some v.node.place.line := by
  rw [findIssues_eq_flatMap, ← Node.visits_eq] at h
  obtain ⟨v, hv, h⟩ := List.mem_flatMap.1 h
  refine ⟨v, hv, ?_⟩
  obtain h | h := List.mem_append.1 h
  all_goals
    obtain ⟨-, h⟩ := List.mem_ite_nil_right.1 h
    rw [List.mem_singleton.1 h]
    rfl

/-- No node of a parsed tree stands on line zero. -/
theorem line_pos_of_parse [TreeReader] {language : Language} {text : String} {root : Node}
    (h : parse language text = .ok root) : ∀ v ∈ root.visits, 0 < v.node.place.line := by
  obtain ⟨rfl, -⟩ := Concrete.lower_ok_iff.1 (lower_of_parse h)
  intro v hv
  obtain ⟨p, d, -, -, hbecomes, -⟩ := Concrete.exists_keeps_of_visit hv
  rw [hbecomes.1, Concrete.place, UInt32.lt_iff_toNat_lt]
  exact Point.location_line_pos _

theorem exists_line_of_mem [TreeReader] {path content : String} {issues : List Issue}
    (h : foundIn path content = .ok issues) : ∀ i ∈ issues, ∃ line, i.line = some line ∧ 0 < line := by
  obtain ⟨root, hparse, rfl⟩ := findSourceIssues_eq_ok_iff.1 h
  intro i hi
  obtain ⟨v, hv, hline⟩ := Rules.exists_visit_of_mem hi
  exact ⟨_, hline, line_pos_of_parse hparse v hv⟩

/-! ## The comments on a file -/

/-- The comment on an issue: on its line, with its description and its suggestion. -/
def Comment.on (path : String) (i : Issue) : Comment where
  path := path
  line := i.line.getD 0
  body := "🔍 Performance Issue Detected: " ++ i.description ++ "\n\nSuggestion: " ++
    match i.suggestion with
    | some suggestion => suggestion
    | none => "No specific recommendation available"

/-- The comments on a file, one for each issue, where the call for its content was answered with a content
that can be parsed. -/
def commentsFor [TreeReader] (path : String) : Option (Except RemoteError String) → List Comment
  | some (.ok content) => ((foundIn path content).toOption.getD []).map (Comment.on path)
  | _ => []

theorem commentsFor_fails [TreeReader] {path content : String} {e : ParseError} (h : foundIn path content = .error e) :
    commentsFor path (some (.ok content)) = [] := by
  rw [commentsFor, h]
  rfl

theorem commentsFor_parses [TreeReader] {path content : String} {issues : List Issue}
    (h : foundIn path content = .ok issues) :
    commentsFor path (some (.ok content)) = issues.map (Comment.on path) := by
  rw [commentsFor, h]
  rfl

theorem Comment.ofIssue?_of_line {path : String} {i : Issue} {line : UInt32} (h : i.line = some line)
    (hpos : 0 < line) : Comment.ofIssue? path i = some (Comment.on path i) := by
  have hfilter : i.line.filter (0 < ·) = some line := by
    rw [h, Option.filter_some, if_pos (by simpa using hpos)]
  have hbody : i.commentBody = (Comment.on path i).body := by
    unfold Issue.commentBody Comment.on
    cases i.suggestion <;> rfl
  rw [ofIssue?, hfilter, Option.map_some, hbody]
  simp only [Comment.on, h, Option.getD_some]

/-- No issue of a parsed source goes without its comment. -/
theorem commentsOn_eq_map [TreeReader] {path content : String} {issues : List Issue}
    (h : foundIn path content = .ok issues) : commentsOn path issues = issues.map (Comment.on path) := by
  have hline := exists_line_of_mem h
  clear h
  unfold commentsOn
  induction issues with
  | nil => rfl
  | cons i issues ih =>
    obtain ⟨⟨line, hi, hpos⟩, hrest⟩ := List.forall_mem_cons.1 hline
    rw [List.filterMap_cons_some (Comment.ofIssue?_of_line hi hpos), ih hrest, List.map_cons]

/-! ## Calls that fetch and calls that post -/

namespace HostCall

def isPost : HostCall → Bool
  | post _ _ _ => true
  | _ => false

/-- The commit and the comment of a call that posts one. -/
def post? : HostCall → Option (String × Comment)
  | post commit comment _ => some (commit, comment)
  | _ => none

/-- The calls that only read. -/
def reads (calls : List HostCall) : List HostCall := calls.filter (!·.isPost)

theorem reads_append (calls calls' : List HostCall) : reads (calls ++ calls') = reads calls ++ reads calls' :=
  List.filter_append ..

end HostCall

open HostCall

/-- The calls for the contents of files at a commit, where a file without an answer is not asked for. -/
def fetches (head : String) (files : List ChangedFile) (answers : List (Option (Except RemoteError String))) :
    List HostCall :=
  (files.zip answers).filterMap fun (f, answer) => answer.map (.content f.filename head)

/-- The calls for some files and the comments on each of them, by the answer to the call for the content of each
file, none where there was no call. -/
structure Commented [TreeReader] (extensions : List String) (dryRun : Bool) (head : String) (files : List ChangedFile)
    (answers : List (Option (Except RemoteError String))) (calls : List HostCall)
    (comments : List (List Comment)) : Prop where
  /-- Just the files that are to be reviewed are asked for. -/
  asked : answers.map Option.isSome = files.map (·.eligible extensions)
  reads_eq : reads calls = fetches head files answers
  comments_eq : comments = List.zipWith (fun f => commentsFor f.filename) files answers
  /-- Each comment is posted once at the head, in order; in a dry run none is. -/
  posts : calls.filterMap post? = if dryRun then [] else comments.flatten.map (head, ·)

section
variable {extensions : List String} {dryRun : Bool} {head : String}

theorem reads_deliveries (deliveries : List (Comment × Delivery)) :
    reads (deliveries.flatMap (deliveryCalls head)) = [] := by
  refine List.filter_eq_nil_iff.2 fun c hc => ?_
  obtain ⟨d, -, hc⟩ := List.mem_flatMap.1 hc
  obtain ⟨comment, answer, rfl⟩ := isPost_of_mem head hc
  simp [isPost]

/-- Whatever the host answers to posts, each comment is posted once, unless comments are only planned. -/
theorem posts_deliveries {deliveries : List (Comment × Delivery)}
    (h : ∀ d ∈ deliveries, d.2.isPlanned = dryRun) :
    (deliveries.flatMap (deliveryCalls head)).filterMap post? =
      if dryRun then [] else (deliveries.map Prod.fst).map (head, ·) := by
  induction deliveries with
  | nil => cases dryRun <;> rfl
  | cons d ds ih =>
    obtain ⟨hd, hds⟩ := List.forall_mem_cons.1 h
    rw [List.flatMap_cons, List.filterMap_append, ih hds]
    subst hd
    obtain ⟨c, _ | _ | e⟩ := d <;> rfl

/-- The comments on a file, and the calls that belong to it. -/
theorem FileRun.commented [TreeReader] {f : ChangedFile} {o : FileOutcome} {calls : List HostCall}
    (h : FileRun extensions dryRun head f o calls) :
    ∃ answer, Commented extensions dryRun head [f] [answer] calls [o.deliveries.map Prod.fst] := by
  have hnone : ([] : List (String × Comment)) = if dryRun then [] else [].map (head, ·) := by
    cases dryRun <;> rfl
  cases h with
  | skipped ineligible => exact ⟨none, by simp [ineligible], rfl, rfl, hnone⟩
  | unfetched eligible e => exact ⟨some (.error e), by simp [eligible], rfl, rfl, hnone⟩
  | @unparsed eligible content e fails =>
    refine ⟨some (.ok content), by simp [eligible], rfl, ?_, hnone⟩
    rw [List.zipWith_cons_cons, commentsFor_fails fails]
    rfl
  | @scanned eligible content issues deliveries parses delivers =>
    refine ⟨some (.ok content), by simp [eligible], ?_, ?_, ?_⟩
    · have hposts : reads (deliveries.flatMap (deliveryCalls head)) = [] := reads_deliveries deliveries
      rw [reads, List.filter_cons_of_pos rfl]
      exact congrArg _ hposts
    · rw [List.zipWith_cons_cons, commentsFor_parses parses, FileOutcome.deliveries, delivers.comments_eq,
        commentsOn_eq_map parses]
      rfl
    · rw [List.filterMap_cons_none rfl, posts_deliveries delivers.isPlanned_eq, FileOutcome.deliveries,
        List.flatten_cons, List.flatten_nil, List.append_nil]

theorem Commented.cons [TreeReader] {f : ChangedFile} {files : List ChangedFile}
    {answer : Option (Except RemoteError String)} {answers : List (Option (Except RemoteError String))}
    {calls calls' : List HostCall} {comments : List Comment} {comments' : List (List Comment)}
    (c : Commented extensions dryRun head [f] [answer] calls [comments])
    (c' : Commented extensions dryRun head files answers calls' comments') :
    Commented extensions dryRun head (f :: files) (answer :: answers) (calls ++ calls')
      (comments :: comments') := by
  constructor
  · have h := c.asked
    simp only [List.map_cons, List.map_nil, List.cons.injEq, and_true] at h
    rw [List.map_cons, List.map_cons, h, c'.asked]
  · rw [reads_append, c.reads_eq, c'.reads_eq]
    simp only [fetches, List.zip_cons_cons, List.zip_nil_left]
    rw [← List.filterMap_append]
    rfl
  · have h := c.comments_eq
    simp only [List.zipWith_cons_cons, List.zipWith_nil_left, List.cons.injEq, and_true] at h
    rw [List.zipWith_cons_cons, h, c'.comments_eq]
  · rw [List.filterMap_append, c.posts, c'.posts]
    cases dryRun <;> simp

theorem Commented.of_steps [TreeReader] {files : List ChangedFile}
    {steps : List ((ChangedFile × FileOutcome) × List HostCall)}
    (each : List.Forall₂
      (fun f step => step.1.1 = f ∧ FileRun extensions dryRun head f step.1.2 step.2) files steps) :
    ∃ answers, Commented extensions dryRun head files answers (steps.flatMap Prod.snd)
      (steps.map fun step => step.1.2.deliveries.map Prod.fst) := by
  induction each with
  | nil => exact ⟨[], rfl, rfl, rfl, by cases dryRun <;> rfl⟩
  | cons h _ ih =>
    obtain ⟨-, hrun⟩ := h
    obtain ⟨answer, hc⟩ := hrun.commented
    obtain ⟨answers, hcs⟩ := ih
    exact ⟨answer :: answers, hc.cons hcs⟩

end
/-! ## Reviews -/

/-- The comments of a review, one list for each listed file. -/
def ReviewOutcome.commentsByFile : ReviewOutcome → List (List Comment)
  | .reviewed _ files => files.map fun (_, o) => o.deliveries.map Prod.fst
  | _ => []

theorem comments_ofOutcome (dryRun : Bool) (outcome : ReviewOutcome) :
    (ReviewReport.ofOutcome dryRun outcome).comments = outcome.commentsByFile.flatten := by
  cases outcome with
  | headless e => rfl
  | unlisted e => rfl
  | reviewed head files =>
    show (files.flatMap fun x => x.2.deliveries).map Prod.fst =
      (files.map fun x => x.2.deliveries.map Prod.fst).flatten
    rw [List.map_flatMap, List.flatMap_def]

section
variable {σ τ : Type}

/-- What a review by a host in some state comes to. -/
def outcomeOf [TreeReader] (host : Host (StateM σ)) (pr : PullRequest) (extensions : List String) (dryRun : Bool)
    (s : σ) : ReviewOutcome :=
  ((reviewOutcome host pr extensions dryRun).run s).run.1

/-- From this state on the host has a head and then lists files. -/
def Lists (host : Host (StateM σ)) (pr : PullRequest) (s : σ) (head : String) (files : List ChangedFile) :
    Prop :=
  ∃ s₁ s₂, ((host.headSha pr).run s).run = (.ok head, s₁) ∧ ((host.listFiles pr).run s₁).run = (.ok files, s₂)

/-- Calls in which a host has a head, lists files and then answers for the content of each file that is to be
reviewed. -/
structure Answered (extensions : List String) (head : String) (files : List ChangedFile)
    (answers : List (Option (Except RemoteError String))) (calls : List HostCall) : Prop where
  asked : answers.map Option.isSome = files.map (·.eligible extensions)
  reads_eq : reads calls = .head (.ok head) :: .listing (.ok files) :: fetches head files answers

theorem Commented.answered [TreeReader] {extensions : List String} {dryRun : Bool} {head : String}
    {files : List ChangedFile} {answers : List (Option (Except RemoteError String))} {calls : List HostCall}
    {comments : List (List Comment)} (c : Commented extensions dryRun head files answers calls comments) :
    Answered extensions head files answers (.head (.ok head) :: .listing (.ok files) :: calls) where
  asked := c.asked
  reads_eq := by
    rw [← c.reads_eq]
    rfl

theorem fetches_inj {head : String} {files : List ChangedFile}
    {answers answers' : List (Option (Except RemoteError String))}
    (hlength : answers.length = files.length) (hasked : answers.map Option.isSome = answers'.map Option.isSome)
    (h : fetches head files answers = fetches head files answers') : answers = answers' := by
  induction files generalizing answers answers' with
  | nil =>
    obtain rfl := List.length_eq_zero_iff.1 hlength
    exact (List.map_eq_nil_iff.1 hasked.symm).symm
  | cons f files ih =>
    obtain ⟨a, answers, rfl⟩ := List.exists_cons_of_length_eq_add_one hlength
    obtain ⟨a', answers', rfl, hsome, hrest⟩ := List.map_eq_cons_iff.1 hasked.symm
    have hlength' : answers.length = files.length := Nat.succ.inj hlength
    cases a with
    | none =>
      obtain rfl : a' = none := by simpa using hsome
      rw [ih hlength' hrest.symm h]
    | some a =>
      obtain ⟨b, rfl⟩ := Option.isSome_iff_exists.1 hsome
      simp only [fetches, List.zip_cons_cons, List.filterMap_cons, Option.map_some, List.cons.injEq,
        HostCall.content.injEq, true_and] at h
      rw [h.1, ih hlength' hrest.symm h.2]

/-- The calls tell what was answered for each file. -/
theorem Answered.unique {extensions : List String} {head head' : String} {files files' : List ChangedFile}
    {answers answers' : List (Option (Except RemoteError String))} {calls : List HostCall}
    (a : Answered extensions head files answers calls) (a' : Answered extensions head' files' answers' calls) :
    head = head' ∧ files = files' ∧ answers = answers' := by
  have h := a.reads_eq.symm.trans a'.reads_eq
  simp only [List.cons.injEq, HostCall.head.injEq, HostCall.listing.injEq, Except.ok.injEq] at h
  obtain ⟨rfl, rfl, h⟩ := h
  have hlength : answers.length = files.length := by
    simpa using congrArg List.length a.asked
  exact ⟨rfl, rfl, fetches_inj hlength (a.asked.trans a'.asked.symm) h⟩

theorem noteCall_run {α : Type} {call : α → HostCall} {answer : StateM σ α} {s s' : σ} {a : α}
    (h : (answer.run s).run = (a, s')) (done : List HostCall) :
    (((noteCall call answer).run done).run s).run = ((a, done ++ [call a]), s') := by
  have h' : answer.run s = pure (a, s') := h
  simp [noteCall, h']

variable (host : Host (StateM σ)) (pr : PullRequest) (extensions : List String) (dryRun : Bool)

/-- A host that has a head and lists files is asked for both, and then each file runs its course. -/
theorem exists_steps_of_lists [TreeReader] {s : σ} {head : String} {files : List ChangedFile}
    (h : Lists host pr s head files) :
    ∃ steps : List ((ChangedFile × FileOutcome) × List HostCall),
      List.Forall₂
        (fun f step => step.1.1 = f ∧ FileRun extensions dryRun head f step.1.2 step.2) files steps ∧
      hostCalls host pr extensions dryRun s =
        .head (.ok head) :: .listing (.ok files) :: steps.flatMap Prod.snd ∧
      outcomeOf host pr extensions dryRun s = .reviewed head (steps.map Prod.fst) := by
  obtain ⟨s₁, s₂, hhead, hfiles⟩ := h
  obtain ⟨outcomes, calls, s', hnoted, hplain, steps, hsteps, rfl, rfl⟩ :=
    Notes.mapM (reviewFile_notes host pr head extensions dryRun) files s₂
      [.head (.ok head), .listing (.ok files)]
  have hcalls : hostCalls host pr extensions dryRun s =
      (((reviewOutcome host.noted pr extensions dryRun).run []).run s).run.1.2 := rfl
  refine ⟨steps, hsteps, ?_, ?_⟩
  · have hhead' : (((host.noted.headSha pr).run []).run s).run = ((.ok head, [.head (.ok head)]), s₁) :=
      noteCall_run hhead []
    have hfiles' : (((host.noted.listFiles pr).run [.head (.ok head)]).run s₁).run =
        ((.ok files, [.head (.ok head), .listing (.ok files)]), s₂) := noteCall_run hfiles _
    rw [hcalls, reviewOutcome, StateT.run_bind, StateT.run_bind, Id.run_bind, hhead']
    dsimp only
    rw [StateT.run_bind, StateT.run_bind, Id.run_bind, hfiles']
    dsimp only
    rw [StateT.run_bind, StateT.run_bind, Id.run_bind, hnoted]
    rfl
  · rw [outcomeOf, reviewOutcome, StateT.run_bind, Id.run_bind, hhead]
    dsimp only
    rw [StateT.run_bind, Id.run_bind, hfiles]
    dsimp only
    rw [StateT.run_bind, Id.run_bind, hplain]
    rfl

/-- A host that has a head and lists files is asked for the content of each file that is to be reviewed, and the
review comments on each file by the answer. -/
theorem exists_commented [TreeReader] {s : σ} {head : String} {files : List ChangedFile} (h : Lists host pr s head files) :
    ∃ answers calls,
      hostCalls host pr extensions dryRun s = .head (.ok head) :: .listing (.ok files) :: calls ∧
      Commented extensions dryRun head files answers calls
        (outcomeOf host pr extensions dryRun s).commentsByFile := by
  obtain ⟨steps, hsteps, hcalls, houtcome⟩ := exists_steps_of_lists host pr extensions dryRun h
  obtain ⟨answers, hcommented⟩ := Commented.of_steps hsteps
  refine ⟨answers, _, hcalls, ?_⟩
  rw [houtcome, ReviewOutcome.commentsByFile, List.map_map]
  exact hcommented

/-- The calls for files tell the comments on each of them. -/
theorem commentsByFile_of_answered [TreeReader] {s : σ} {head : String} {files : List ChangedFile}
    {answers : List (Option (Except RemoteError String))} (h : Lists host pr s head files)
    (a : Answered extensions head files answers (hostCalls host pr extensions dryRun s)) :
    (outcomeOf host pr extensions dryRun s).commentsByFile =
      List.zipWith (fun f => commentsFor f.filename) files answers := by
  obtain ⟨answers', calls, hcalls, hcommented⟩ := exists_commented host pr extensions dryRun h
  rw [hcalls] at a
  obtain ⟨-, -, rfl⟩ := a.unique hcommented.answered
  exact hcommented.comments_eq

/-- What the rules find in a parsed source has a line, and is what a scan of the source finds. -/
theorem scanned_of_foundIn [TreeReader] {path content : String} {issues : List Issue}
    (h : foundIn path content = .ok issues) (model : LoadTimeModel) :
    (scanSource (m := Id) none model path content).run.files.map (·.result.issues) = [issues] := by
  have houtcome : (namedFile path content).outcome = .matched issues := by
    show LocalOutcome.ofFound (some path) (foundIn path content) = _
    rw [h]
    rfl
  show [(finish (namedFile path content).outcome none model).issues] = [issues]
  rw [houtcome]
  rfl

/-- A review by a host that has a head and lists files comments on each issue of each file of which it gets a
content that can be parsed: once, in the order of the files and of the issues, on the line of the issue. Each
issue has a line, and a scan of the content finds the same ones. Each comment is posted once at the head, in
order and whatever the host answers to posts, unless comments are only planned. The comments on a file hang on
the answer for this file alone: two reviews of the same files agree in them where the answers agree. -/
theorem review_comments [TreeReader] (extensions : List String) :
    (∀ (host : Host (StateM σ)) (pr : PullRequest) (dryRun : Bool) (s : σ) (head : String)
      (files : List ChangedFile), Lists host pr s head files →
      let calls := hostCalls host pr extensions dryRun s
      let comments := (reportOf host pr extensions dryRun s).comments
      ∃ answers, Answered extensions head files answers calls ∧
        comments = (outcomeOf host pr extensions dryRun s).commentsByFile.flatten ∧
        (outcomeOf host pr extensions dryRun s).commentsByFile =
          List.zipWith (fun f => commentsFor f.filename) files answers ∧
        calls.filterMap post? = if dryRun then [] else comments.map (head, ·)) ∧
    (∀ (path content : String) (issues : List Issue), foundIn path content = .ok issues →
      commentsFor path (some (.ok content)) = issues.map (Comment.on path) ∧
      (∀ i ∈ issues, ∃ line, i.line = some line ∧ 0 < line) ∧
      ∀ model, (scanSource (m := Id) none model path content).run.files.map (·.result.issues) = [issues]) ∧
    ∀ (host : Host (StateM σ)) (host' : Host (StateM τ)) (pr pr' : PullRequest) (dryRun dryRun' : Bool) (s : σ)
      (s' : τ) (head head' : String) (files : List ChangedFile)
      (answers answers' : List (Option (Except RemoteError String))),
      Lists host pr s head files → Lists host' pr' s' head' files →
      Answered extensions head files answers (hostCalls host pr extensions dryRun s) →
      Answered extensions head' files answers' (hostCalls host' pr' extensions dryRun' s') →
      ∀ j : Nat, answers[j]? = answers'[j]? →
        (outcomeOf host pr extensions dryRun s).commentsByFile[j]? =
          (outcomeOf host' pr' extensions dryRun' s').commentsByFile[j]? := by
  refine ⟨fun host pr dryRun s head files h => ?_, fun path content issues h => ?_, ?_⟩
  · obtain ⟨answers, calls, hcalls, hcommented⟩ := exists_commented host pr extensions dryRun h
    have hcomments : (reportOf host pr extensions dryRun s).comments =
        (outcomeOf host pr extensions dryRun s).commentsByFile.flatten :=
      comments_ofOutcome dryRun (outcomeOf host pr extensions dryRun s)
    dsimp only
    rw [hcalls, hcomments]
    exact ⟨answers, hcommented.answered, rfl, hcommented.comments_eq, hcommented.posts⟩
  · exact ⟨commentsFor_parses h, exists_line_of_mem h, scanned_of_foundIn h⟩
  · intro host host' pr pr' dryRun dryRun' s s' head head' files answers answers' h h' a a' j hj
    rw [commentsByFile_of_answered host pr extensions dryRun h a,
      commentsByFile_of_answered host' pr' extensions dryRun' h' a', List.getElem?_zipWith,
      List.getElem?_zipWith, hj]

end

/-! ## A host with faults -/

/-- A source with an awaited `map` below `Promise.all`. -/
def mappedSource : String := "\nawait Promise.all(ids.map(f));\n"

def mappedFiles : List ChangedFile :=
  [⟨"src/a.ts", "modified"⟩, ⟨"README.md", "modified"⟩, ⟨"gone.ts", "modified"⟩, ⟨"bad.ts", "added"⟩]

/-- A host that counts posts and fails every other one. One of its files is gone and one cannot be parsed. -/
def faultyHost : Host (StateM Nat) where
  headSha _ := pure (.ok "abc123")
  listFiles _ := pure (.ok mappedFiles)
  fileContent _ path _ := pure <|
    if path = "src/a.ts" then .ok mappedSource
    else if path = "bad.ts" then .ok "("
    else .error (.status "github" 404 "Not Found")
  postComment _ _ _ := do
    let n ← get
    set (n + 1)
    pure (if n % 2 = 0 then .error (.status "github" 422 "Unprocessable") else .ok ())

def shopRequest : PullRequest := ⟨"acme", "shop", 7⟩

/-- What the host answers for its files. -/
def faultyAnswers : List (Option (Except RemoteError String)) :=
  [some (.ok mappedSource), none, some (.error (.status "github" 404 "Not Found")), some (.ok "(")]

/-- A review and a dry run that begin in different states of the host come to the same comments. -/
theorem review_comments_faultyHost :
    let calls := hostCalls faultyHost shopRequest ["ts"] false 0
    let comments := (reportOf faultyHost shopRequest ["ts"] false 0).comments
    let issues := [Rules.promiseAllMap ⟨2, 6⟩ (some "src/a.ts"), Rules.awaitedMap ⟨2, 18⟩ (some "src/a.ts")]
    Lists faultyHost shopRequest 0 "abc123" mappedFiles ∧ Lists faultyHost shopRequest 5 "abc123" mappedFiles ∧
      Answered ["ts"] "abc123" mappedFiles faultyAnswers calls ∧
      Answered ["ts"] "abc123" mappedFiles faultyAnswers (hostCalls faultyHost shopRequest ["ts"] true 5) ∧
      (∃ answers, Answered ["ts"] "abc123" mappedFiles answers calls ∧
        comments = (outcomeOf faultyHost shopRequest ["ts"] false 0).commentsByFile.flatten ∧
        (outcomeOf faultyHost shopRequest ["ts"] false 0).commentsByFile =
          List.zipWith (fun f => commentsFor f.filename) mappedFiles answers ∧
        calls.filterMap post? = comments.map ("abc123", ·)) ∧
      foundIn "src/a.ts" mappedSource = .ok issues ∧
      commentsFor "src/a.ts" (some (.ok mappedSource)) = issues.map (Comment.on "src/a.ts") ∧
      (outcomeOf faultyHost shopRequest ["ts"] false 0).commentsByFile[0]? =
        (outcomeOf faultyHost shopRequest ["ts"] true 5).commentsByFile[0]? := by
  have hlists (n : Nat) : Lists faultyHost shopRequest n "abc123" mappedFiles := ⟨n, n, rfl, rfl⟩
  have hreal : Answered ["ts"] "abc123" mappedFiles faultyAnswers
      (hostCalls faultyHost shopRequest ["ts"] false 0) := ⟨by decide +kernel, by decide +kernel⟩
  have hdry : Answered ["ts"] "abc123" mappedFiles faultyAnswers
      (hostCalls faultyHost shopRequest ["ts"] true 5) := ⟨by decide +kernel, by decide +kernel⟩
  have hfound : foundIn "src/a.ts" mappedSource =
      .ok [Rules.promiseAllMap ⟨2, 6⟩ (some "src/a.ts"), Rules.awaitedMap ⟨2, 18⟩ (some "src/a.ts")] := by
    decide +kernel
  have h := @review_comments Nat Nat _ ["ts"]
  exact ⟨hlists 0, hlists 5, hreal, hdry, h.1 faultyHost shopRequest false 0 "abc123" mappedFiles (hlists 0),
    hfound, (h.2.1 "src/a.ts" mappedSource _ hfound).1,
    h.2.2 faultyHost faultyHost shopRequest shopRequest false true 0 5 "abc123" "abc123" mappedFiles
      faultyAnswers faultyAnswers (hlists 0) (hlists 5) hreal hdry 0 rfl⟩

end Fanout
