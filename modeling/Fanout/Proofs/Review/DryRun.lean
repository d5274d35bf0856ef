import Fanout.Proofs.Review.Comments

/-!
# Dry runs

* `HostCall.question` : what a call asks, and `Alike`, `HeardAlike` : two reviews get the same answer wherever
  they ask the same;
* `ReadInOrder` : what a review reads, and `ReadInOrder.eq_of_alike` : reviews that are heard alike ask the same
  throughout, for what a review asks next hangs on the answers before;
* `Host.Steady` : a host whose answers to reads hang on the question alone; all reviews by it are heard alike;
* `dryRun_predicts` : a dry run posts nothing and reports what a review reports, less the failures of posts.

All that a report says apart from posts is read off the calls that read: `ReviewRun.comments_eq`,
`Accounted.filesScanned_eq`, `Accounted.filesSkipped_eq` and, for failures, `Accounted.failures_eq`.
-/

namespace Fanout

namespace HostCall

/-- What a call asks of the host. -/
inductive Question where
  | head
  | listing
  | content (path ref : String)
  | post (commit : String) (comment : Comment)

def question : HostCall → Question
  | head _ => .head
  | listing _ => .listing
  | content path ref _ => .content path ref
  | post commit comment _ => .post commit comment

/-- The files that a call lists. -/
def listed : HostCall → List ChangedFile
  | listing (.ok files) => files
  | _ => []

/-- The comments on the content that a call brings. -/
def comments [TreeReader] : HostCall → List Comment
  | content path _ answer => commentsFor path (some answer)
  | _ => []

end HostCall

open HostCall

/-! ## Reviews that are heard alike -/

/-- Where calls ask the same, as they are counted, they get the same answer. -/
def Alike (calls calls' : List HostCall) : Prop :=
  ∀ p ∈ calls.zip calls', p.1.question = p.2.question → p.1 = p.2

/-- Two reviews are heard alike where the calls that read are, whatever is answered to posts. -/
def HeardAlike (calls calls' : List HostCall) : Prop := Alike (reads calls) (reads calls')

theorem alike_cons {c c' : HostCall} {calls calls' : List HostCall} :
    Alike (c :: calls) (c' :: calls') ↔ (c.question = c'.question → c = c') ∧ Alike calls calls' := by
  rw [Alike, List.zip_cons_cons, List.forall_mem_cons]
  rfl

theorem Alike.eq_of_questions {calls calls' : List HostCall} (alike : Alike calls calls')
    (h : calls.map question = calls'.map question) : calls = calls' := by
  induction calls generalizing calls' with
  | nil => exact (List.map_eq_nil_iff.1 h.symm).symm
  | cons c calls ih =>
    obtain ⟨c', calls', rfl, hc, hcalls⟩ := List.map_eq_cons_iff.1 h.symm
    obtain ⟨hfirst, hrest⟩ := alike_cons.1 alike
    rw [hfirst hc.symm, ih hrest hcalls.symm]

/-- What a review reads: a head, then a list of files, then the content of each file that is to be reviewed. -/
inductive ReadInOrder (extensions : List String) : List HostCall → Prop
  | headless (e : RemoteError) : ReadInOrder extensions [.head (.error e)]
  | unlisted (head : String) (e : RemoteError) :
    ReadInOrder extensions [.head (.ok head), .listing (.error e)]
  | reviewed (head : String) (files : List ChangedFile) {contents : List HostCall}
      (asked : contents.map question =
        (files.filter (·.eligible extensions)).map fun f => .content f.filename head) :
    ReadInOrder extensions (.head (.ok head) :: .listing (.ok files) :: contents)

section
variable {extensions : List String} {dryRun dryRun' : Bool}

theorem question_fetches {head : String} {files : List ChangedFile}
    {answers : List (Option (Except RemoteError String))}
    (asked : answers.map Option.isSome = files.map (·.eligible extensions)) :
    (fetches head files answers).map question =
      (files.filter (·.eligible extensions)).map fun f => .content f.filename head := by
  induction files generalizing answers with
  | nil => rfl
  | cons f files ih =>
    obtain ⟨a, answers, rfl, hsome, hrest⟩ := List.map_eq_cons_iff.1 asked
    cases a with
    | none =>
      rw [List.filter_cons_of_neg (by simp [← hsome])]
      exact ih hrest
    | some a =>
      rw [List.filter_cons_of_pos (by simp [← hsome]), List.map_cons, ← ih hrest]
      rfl

theorem ReviewRun.readInOrder [TreeReader] {outcome : ReviewOutcome} {calls : List HostCall}
    (h : ReviewRun extensions dryRun outcome calls) : ReadInOrder extensions (reads calls) := by
  cases h with
  | headless e => exact .headless e
  | unlisted head e => exact .unlisted head e
  | @reviewed head files steps each =>
    obtain ⟨answers, hcommented⟩ := Commented.of_steps each
    rw [hcommented.answered.reads_eq]
    exact .reviewed head files (question_fetches hcommented.asked)

/-- The answers so far tell what is asked next, so that alike reads are the same. -/
theorem ReadInOrder.eq_of_alike {calls calls' : List HostCall} (h : ReadInOrder extensions calls)
    (h' : ReadInOrder extensions calls') (alike : Alike calls calls') : calls = calls' := by
  cases h with
  | headless e => cases h' <;> simpa [question] using (alike_cons.1 alike).1
  | unlisted head e =>
    cases h' with
    | headless e' => simp [alike_cons, question] at alike
    | unlisted head' e' =>
      simp only [alike_cons] at alike
      obtain ⟨hhead, hlisting, -⟩ := alike
      rw [hhead rfl, hlisting rfl]
    | reviewed head' files' asked' => simp [alike_cons, question] at alike
  | @reviewed head files contents asked =>
    cases h' with
    | headless e' => simp [alike_cons, question] at alike
    | unlisted head' e' => simp [alike_cons, question] at alike
    | @reviewed head' files' contents' asked' =>
      simp only [alike_cons, question, HostCall.head.injEq, HostCall.listing.injEq, Except.ok.injEq,
        forall_const] at alike
      obtain ⟨rfl, rfl, alike⟩ := alike
      rw [alike.eq_of_questions (asked.trans asked'.symm)]

end

/-! ## What a report takes from reads -/

section
variable {extensions : List String} {dryRun : Bool}

/-- What posts count for nothing in is counted in reads. -/
theorem countP_reads {p : HostCall → Bool} (hp : ∀ commit c answer, p (.post commit c answer) = false)
    (calls : List HostCall) : (reads calls).countP p = calls.countP p := by
  rw [reads, List.countP_filter]
  refine List.countP_congr fun c _ => ?_
  cases c <;> simp [isPost, hp]

theorem flatten_commentsFor [TreeReader] (head : String) (files : List ChangedFile)
    (answers : List (Option (Except RemoteError String))) :
    (List.zipWith (fun f => commentsFor f.filename) files answers).flatten =
      (fetches head files answers).flatMap comments := by
  induction files generalizing answers with
  | nil => rfl
  | cons f files ih =>
    cases answers with
    | nil => rfl
    | cons a answers =>
      rw [List.zipWith_cons_cons, List.flatten_cons, ih]
      cases a with
      | none => rfl
      | some a => rfl

theorem ReviewRun.comments_eq [TreeReader] {outcome : ReviewOutcome} {calls : List HostCall}
    (h : ReviewRun extensions dryRun outcome calls) :
    (ReviewReport.ofOutcome dryRun outcome).comments = (reads calls).flatMap comments := by
  rw [comments_ofOutcome]
  cases h with
  | headless e => rfl
  | unlisted head e => rfl
  | @reviewed head files steps each =>
    obtain ⟨answers, hcommented⟩ := Commented.of_steps each
    rw [hcommented.answered.reads_eq, ReviewOutcome.commentsByFile, List.map_map]
    exact (congrArg List.flatten hcommented.comments_eq).trans (flatten_commentsFor head files answers)

theorem Accounted.filesScanned_eq [TreeReader] {calls : List HostCall} {report : ReviewReport}
    (h : Accounted extensions dryRun calls report) : report.filesScanned = (reads calls).countP isScanned := by
  rw [countP_reads fun _ _ _ => rfl]
  cases h with
  | headless e => rfl
  | unlisted head e => rfl
  | reviewed head each books =>
    rw [books.scanned, List.countP_cons_of_neg (by simp [isScanned]),
      List.countP_cons_of_neg (by simp [isScanned])]

theorem Accounted.filesSkipped_eq [TreeReader] {calls : List HostCall} {report : ReviewReport}
    (h : Accounted extensions dryRun calls report) :
    report.filesSkipped = ((reads calls).flatMap listed).countP fun f => !f.eligible extensions := by
  cases h with
  | headless e => rfl
  | unlisted head e => rfl
  | @reviewed head files report steps each books =>
    obtain ⟨answers, hcommented⟩ := Commented.of_steps each
    have hlisted : (fetches head files answers).flatMap listed = [] := by
      refine List.flatMap_eq_nil_iff.2 fun c hc => ?_
      obtain ⟨⟨f, a⟩, -, hc⟩ := List.mem_filterMap.1 hc
      obtain ⟨a, -, rfl⟩ := Option.map_eq_some_iff.1 hc
      rfl
    rw [books.skipped, hcommented.answered.reads_eq, List.flatMap_cons, List.flatMap_cons, hlisted, List.append_nil]
    rfl

/-- A dry run makes no call but reads. -/
theorem ReviewRun.isPost_eq_false [TreeReader] {outcome : ReviewOutcome} {calls : List HostCall}
    (h : ReviewRun extensions true outcome calls) : ∀ c ∈ calls, c.isPost = false := by
  have hposts : calls.filterMap post? = [] := by
    cases h with
    | headless e => rfl
    | unlisted head e => rfl
    | @reviewed head files steps each =>
      obtain ⟨answers, hcommented⟩ := Commented.of_steps each
      have := hcommented.posts
      rw [if_pos rfl] at this
      rw [← this]
      rfl
  intro c hc
  have hnone : c.post? = none := List.filterMap_eq_nil_iff.1 hposts c hc
  cases c with
  | post commit comment answer => cases hnone
  | _ => rfl

end

/-! ## Hosts that answer alike -/

section
variable {σ : Type}

/-- A host whose answers to reads hang on the question alone; how it takes posts is left open. -/
structure Host.Steady (host : Host (StateM σ)) (pr : PullRequest) : Prop where
  head : ∃ answer, ∀ s, ((host.headSha pr).run s).run.1 = answer
  listing : ∃ answer, ∀ s, ((host.listFiles pr).run s).run.1 = answer
  content : ∃ answer : String → String → Except RemoteError String,
    ∀ path ref s, ((host.fileContent pr path ref).run s).run.1 = answer path ref

namespace Notes
variable {α β : Type} {Q : HostCall → Prop}

/-- A call is noted down with an answer that the host gives in some state. -/
theorem call_all {c : α → HostCall} {y : StateM σ α} (h : ∀ s, Q (c (y.run s).run.1)) :
    Notes (noteCall c y) y fun _ calls => ∀ call ∈ calls, Q call := fun s done =>
  ⟨(y.run s).run.1, [c (y.run s).run.1], (y.run s).run.2, rfl, rfl, by simpa using h s⟩

theorem bind_all {x : StateT (List HostCall) (StateM σ) α} {y : StateM σ α}
    {f : α → StateT (List HostCall) (StateM σ) β} {g : α → StateM σ β}
    (hx : Notes x y fun _ calls => ∀ call ∈ calls, Q call)
    (hf : ∀ a, Notes (f a) (g a) fun _ calls => ∀ call ∈ calls, Q call) :
    Notes (x >>= f) (y >>= g) fun _ calls => ∀ call ∈ calls, Q call := by
  refine hx.bind fun a calls hcalls s done => ?_
  obtain ⟨b, more, s', hrun, hplain, hmore⟩ := hf a s done
  exact ⟨b, more, s', hrun, hplain, List.forall_mem_append.2 ⟨hcalls, hmore⟩⟩

theorem mapM_all {f : α → StateT (List HostCall) (StateM σ) β} {g : α → StateM σ β}
    (h : ∀ a, Notes (f a) (g a) fun _ calls => ∀ call ∈ calls, Q call) (xs : List α) :
    Notes (xs.mapM f) (xs.mapM g) fun _ calls => ∀ call ∈ calls, Q call := by
  induction xs with
  | nil => exact pure (by simp)
  | cons x xs ih =>
    rw [List.mapM_cons, List.mapM_cons]
    exact bind_all (h x) fun b => bind_all ih fun bs => pure (by simp)

end Notes

variable (host : Host (StateM σ)) (pr : PullRequest) (extensions : List String) (dryRun : Bool)

/-- What holds of each answer of a host holds of each call of a review. -/
theorem review_calls_all [TreeReader] {Q : HostCall → Prop} (head : ∀ s, Q (.head ((host.headSha pr).run s).run.1))
    (listing : ∀ s, Q (.listing ((host.listFiles pr).run s).run.1))
    (content : ∀ path ref s, Q (.content path ref ((host.fileContent pr path ref).run s).run.1))
    (post : ∀ commit comment s, Q (.post commit comment ((host.postComment pr commit comment).run s).run.1)) :
    Notes (review host.noted pr extensions dryRun) (review host pr extensions dryRun)
      fun _ calls => ∀ c ∈ calls, Q c := by
  have hdeliver (sha : String) (c : Comment) :
      Notes (deliver host.noted pr sha dryRun c) (deliver host pr sha dryRun c)
        fun _ calls => ∀ call ∈ calls, Q call := by
    unfold deliver
    cases dryRun with
    | true => exact .pure (by simp)
    | false =>
      refine Notes.bind_all (.call_all (post sha c)) fun answer => ?_
      cases answer <;> exact .pure (by simp)
  have hfile (sha : String) (f : ChangedFile) :
      Notes (reviewFile host.noted pr sha extensions dryRun f) (reviewFile host pr sha extensions dryRun f)
        fun _ calls => ∀ call ∈ calls, Q call := by
    unfold reviewFile
    cases f.eligible extensions with
    | false => exact .pure (by simp)
    | true =>
      refine Notes.bind_all (.call_all (content f.filename sha)) fun answer => ?_
      cases answer with
      | error e => exact .pure (by simp)
      | ok text =>
        dsimp only
        cases findSourceIssues (Language.ofPath f.filename) (some f.filename) text with
        | error e => exact .pure (by simp)
        | ok issues => exact Notes.bind_all (.mapM_all (hdeliver sha) _) fun _ => .pure (by simp)
  refine Notes.bind_all ?_ fun _ => .pure (by simp)
  unfold reviewOutcome
  refine Notes.bind_all (.call_all head) fun answer => ?_
  cases answer with
  | error e => exact .pure (by simp)
  | ok sha =>
    refine Notes.bind_all (.call_all listing) fun answer => ?_
    cases answer with
    | error e => exact .pure (by simp)
    | ok files => exact Notes.bind_all (.mapM_all (hfile sha) files) fun _ => .pure (by simp)

theorem forall_hostCalls [TreeReader] {Q : HostCall → Prop} (head : ∀ s, Q (.head ((host.headSha pr).run s).run.1))
    (listing : ∀ s, Q (.listing ((host.listFiles pr).run s).run.1))
    (content : ∀ path ref s, Q (.content path ref ((host.fileContent pr path ref).run s).run.1))
    (post : ∀ commit comment s, Q (.post commit comment ((host.postComment pr commit comment).run s).run.1))
    (s : σ) : ∀ c ∈ hostCalls host pr extensions dryRun s, Q c := by
  obtain ⟨report, calls, s', hnoted, -, hall⟩ :=
    review_calls_all host pr extensions dryRun head listing content post s []
  rw [hostCalls, hnoted]
  exact hall

/-- A host that answers reads by the question alone answers all reviews alike. -/
theorem Host.Steady.heardAlike [TreeReader] {host : Host (StateM σ)} {pr : PullRequest} (steady : host.Steady pr)
    (extensions : List String) (dryRun dryRun' : Bool) (s s' : σ) :
    HeardAlike (hostCalls host pr extensions dryRun s) (hostCalls host pr extensions dryRun' s') := by
  obtain ⟨⟨head, hhead⟩, ⟨listing, hlisting⟩, ⟨content, hcontent⟩⟩ := steady
  let Given : HostCall → Prop
    | .head answer => answer = head
    | .listing answer => answer = listing
    | .content path ref answer => answer = content path ref
    | .post _ _ _ => True
  have hgiven (dryRun : Bool) (s : σ) : ∀ c ∈ hostCalls host pr extensions dryRun s, Given c :=
    forall_hostCalls host pr extensions dryRun hhead hlisting hcontent (fun _ _ _ => trivial) s
  intro p hp hquestion
  obtain ⟨hfst, hsnd⟩ := List.of_mem_zip (show (p.1, p.2) ∈ _ from hp)
  obtain ⟨hmem, hread⟩ := List.mem_filter.1 hfst
  have h := hgiven dryRun s p.1 hmem
  have h' := hgiven dryRun' s' p.2 (List.mem_filter.1 hsnd).1
  obtain ⟨c, c'⟩ := p
  dsimp only at hread hquestion h h'
  -- Calls that ask the same are of one kind, and none of them is a post.
  cases c <;> cases c' <;> cases hquestion
  case head.head => exact congrArg _ (h.trans h'.symm)
  case listing.listing => exact congrArg _ (h.trans h'.symm)
  case content.content => exact congrArg _ (h.trans h'.symm)
  case post.post => cases hread

/-- The report of a review tells of its calls. -/
theorem exists_reviewRun [TreeReader] (s : σ) :
    ∃ outcome, ReviewRun extensions dryRun outcome (hostCalls host pr extensions dryRun s) ∧
      reportOf host pr extensions dryRun s = .ofOutcome dryRun outcome := by
  obtain ⟨report, calls, s', hnoted, hplain, outcome, hrun, rfl⟩ :=
    review_notes host pr extensions dryRun s []
  rw [hostCalls, reportOf, hnoted, hplain]
  exact ⟨outcome, hrun, rfl⟩

end

/-- A dry run makes no call that posts. Where it is heard like a review, as it always is by a host that answers
reads by the question alone, it has the same comments and scans and skips as many files, and it reports as
failures just what the review reports of reads, in order. -/
theorem dryRun_predicts [TreeReader] {σ : Type} (host : Host (StateM σ)) (pr : PullRequest) (extensions : List String)
    (s s' : σ) :
    let dryCalls := hostCalls host pr extensions true s
    let calls := hostCalls host pr extensions false s'
    let dryReport := reportOf host pr extensions true s
    let report := reportOf host pr extensions false s'
    (∀ c ∈ dryCalls, c.isPost = false) ∧
      (host.Steady pr → HeardAlike dryCalls calls) ∧
      (HeardAlike dryCalls calls →
        dryReport.comments = report.comments ∧
        dryReport.filesScanned = report.filesScanned ∧
        dryReport.filesSkipped = report.filesSkipped ∧
        report.failures = calls.filterMap failure? ∧
        dryReport.failures = (calls.filter (!·.isPost)).filterMap failure?) := by
  intro dryCalls calls dryReport report
  obtain ⟨dryOutcome, hdryRun, hdryReport⟩ := exists_reviewRun host pr extensions true s
  obtain ⟨outcome, hrun, hreport⟩ := exists_reviewRun host pr extensions false s'
  have hdry : Accounted extensions true dryCalls dryReport := accounted_reportOf host pr extensions true s
  have hreal : Accounted extensions false calls report := accounted_reportOf host pr extensions false s'
  have hposts : ∀ c ∈ dryCalls, c.isPost = false := hdryRun.isPost_eq_false
  refine ⟨hposts, fun steady => steady.heardAlike extensions true false s s', fun alike => ?_⟩
  have hreads : reads dryCalls = reads calls := hdryRun.readInOrder.eq_of_alike hrun.readInOrder alike
  have hall : reads dryCalls = dryCalls := by
    refine List.filter_eq_self.2 fun c hc => ?_
    rw [hposts c hc]
    rfl
  refine ⟨?_, ?_, ?_, hreal.failures_eq, ?_⟩
  · show (reportOf host pr extensions true s).comments = (reportOf host pr extensions false s').comments
    rw [hdryReport, hreport, hdryRun.comments_eq, hrun.comments_eq]
    exact congrArg (List.flatMap comments) hreads
  · rw [hdry.filesScanned_eq, hreal.filesScanned_eq, hreads]
  · rw [hdry.filesSkipped_eq, hreal.filesSkipped_eq, hreads]
  · rw [hdry.failures_eq, ← hall, hreads]
    rfl

/-- A host that fails posts, and whose files are gone or cannot be parsed, answers reads alike. -/
theorem dryRun_predicts_faultyHost :
    let dryReport := reportOf faultyHost shopRequest ["ts"] true 0
    let report := reportOf faultyHost shopRequest ["ts"] false 5
    faultyHost.Steady shopRequest ∧
      HeardAlike (hostCalls faultyHost shopRequest ["ts"] true 0)
        (hostCalls faultyHost shopRequest ["ts"] false 5) ∧
      dryReport.comments = report.comments ∧ dryReport.filesScanned = report.filesScanned ∧
      dryReport.filesSkipped = report.filesSkipped ∧
      dryReport.failures =
        ((hostCalls faultyHost shopRequest ["ts"] false 5).filter (!·.isPost)).filterMap failure? := by
  have steady : faultyHost.Steady shopRequest :=
    ⟨⟨_, fun _ => rfl⟩, ⟨_, fun _ => rfl⟩, ⟨_, fun _ _ _ => rfl⟩⟩
  have h := dryRun_predicts faultyHost shopRequest ["ts"] 0 5
  have alike := h.2.1 steady
  obtain ⟨hcomments, hscanned, hskipped, -, hfailures⟩ := h.2.2 alike
  exact ⟨steady, alike, hcomments, hscanned, hskipped, hfailures⟩

end Fanout
