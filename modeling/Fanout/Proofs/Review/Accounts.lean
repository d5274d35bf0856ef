import Fanout.Program
import Fanout.Proofs.Review.Calls

/-!
# The accounts of a review

* `HostCall.failure?` : what a review reports of a call that went wrong;
* `Books` : the counts, comments and failures of a report, each of them held against the calls that the host
  has answered; `FileRun.books` : the books of one file; `Books.append` : books are put together;
* `Accounted` : the report of a review that could begin, or of one that could not;
* `review_accounts` : every review is accounted for, and the command ends with 0 just if no call went wrong.
-/

namespace Fanout

namespace HostCall

def isUnfetched : HostCall → Bool
  | content _ _ (.error _) => true
  | _ => false

/-- Whether the call brought a content that cannot be parsed. -/
def isUnparsed [TreeReader] : HostCall → Bool
  | content path _ (.ok text) => (foundIn path text).toOption.isNone
  | _ => false

/-- Whether the call brought a content that can be parsed. -/
def isScanned [TreeReader] : HostCall → Bool
  | content path _ (.ok text) => (foundIn path text).toOption.isSome
  | _ => false

def isPosted : HostCall → Bool
  | post _ _ (.ok _) => true
  | _ => false

def isUnposted : HostCall → Bool
  | post _ _ (.error _) => true
  | _ => false

/-- The path whose content is asked for. -/
def path? : HostCall → Option String
  | content path _ _ => some path
  | _ => none

/-- Whether a call brought what it was made for. A content must also be one that can be parsed. -/
def Succeeds [TreeReader] : HostCall → Prop
  | head answer => ∃ sha, answer = .ok sha
  | listing answer => ∃ files, answer = .ok files
  | content path _ answer => ∃ text issues, answer = .ok text ∧ foundIn path text = .ok issues
  | post _ _ answer => answer = .ok ()

/-- What is reported where an error came instead of a value. -/
def errorText? {ε α : Type} (about : String) (message : ε → String) : Except ε α → Option String
  | .error e => some (about ++ ": " ++ message e)
  | .ok _ => none

/-- What is reported of a call that went wrong. -/
def failure? [TreeReader] : HostCall → Option String
  | head answer => errorText? "head" RemoteError.message answer
  | listing answer => errorText? "files" RemoteError.message answer
  | content path _ (.error e) => some (path ++ ": " ++ e.message)
  | content path _ (.ok text) => errorText? path ParseError.message (foundIn path text)
  | post _ c answer => errorText? s!"{c.path}:{c.line.toNat}" RemoteError.message answer

theorem errorText?_eq_none_iff {ε α : Type} {about : String} {message : ε → String} {x : Except ε α} :
    errorText? about message x = none ↔ ∃ a, x = .ok a := by
  cases x <;> simp [errorText?]

theorem failure?_eq_none_iff [TreeReader] {c : HostCall} : c.failure? = none ↔ c.Succeeds := by
  cases c with
  | head answer => exact errorText?_eq_none_iff
  | listing answer => exact errorText?_eq_none_iff
  | content path ref answer =>
    cases answer with
    | error e => simp [failure?, Succeeds]
    | ok text => simp [failure?, Succeeds, errorText?_eq_none_iff]
  | post commit comment answer => cases answer <;> simp [failure?, Succeeds, errorText?]

end HostCall

open HostCall

/-! ## Books -/

/-- The books of a review whose files are listed: the report held against the calls for these files. -/
structure Books [TreeReader] (extensions : List String) (dryRun : Bool) (files : List ChangedFile)
    (calls : List HostCall) (report : ReviewReport) : Prop where
  dryRun_eq : report.dryRun = dryRun
  /-- The content of each file that is to be reviewed is asked for once, and of no other. -/
  paths : calls.filterMap path? = (files.filter (·.eligible extensions)).map (·.filename)
  skipped : report.filesSkipped = files.countP fun f => !f.eligible extensions
  scanned : report.filesScanned = calls.countP isScanned
  /-- Each file is skipped or scanned, or could not be fetched or parsed. -/
  total : report.filesSkipped + report.filesScanned + calls.countP isUnfetched + calls.countP isUnparsed =
    files.length
  /-- One failure for each call that went wrong, in the order of the calls. -/
  failures : report.failures = calls.filterMap failure?
  failures_length : report.failures.length =
    calls.countP isUnfetched + calls.countP isUnparsed + calls.countP isUnposted
  posted : report.commentsPosted = calls.countP isPosted
  /-- Each comment is posted or could not be; in a dry run there is no attempt. -/
  comments : report.commentsPosted + calls.countP isUnposted =
    if dryRun then 0 else report.comments.length

variable {extensions : List String} {dryRun : Bool}

theorem Books.nil [TreeReader] : Books extensions dryRun [] [] (.ofFiles dryRun []) where
  dryRun_eq := rfl
  paths := rfl
  skipped := rfl
  scanned := rfl
  total := rfl
  failures := rfl
  failures_length := rfl
  posted := rfl
  comments := by cases dryRun <;> rfl

/-! ## Deliveries

The calls that deliver comments, each counted in the books. -/

section
variable (head : String)

theorem isPost_of_mem {d : Comment × Delivery} {c : HostCall} (h : c ∈ deliveryCalls head d) :
    ∃ comment answer, c = .post head comment answer := by
  obtain ⟨comment, _ | _ | e⟩ := d
  · cases h
  · exact ⟨_, _, List.mem_singleton.1 h⟩
  · exact ⟨_, _, List.mem_singleton.1 h⟩

/-- Calls that post comments count for nothing else. -/
theorem countP_deliveries {p : HostCall → Bool} (hp : ∀ commit c answer, p (.post commit c answer) = false)
    (deliveries : List (Comment × Delivery)) :
    (deliveries.flatMap (deliveryCalls head)).countP p = 0 := by
  refine List.countP_eq_zero.2 fun c hc => ?_
  obtain ⟨d, -, hc⟩ := List.mem_flatMap.1 hc
  obtain ⟨comment, answer, rfl⟩ := isPost_of_mem head hc
  simp [hp]

theorem path?_deliveries (deliveries : List (Comment × Delivery)) :
    (deliveries.flatMap (deliveryCalls head)).filterMap path? = [] := by
  refine List.filterMap_eq_nil_iff.2 fun c hc => ?_
  obtain ⟨d, -, hc⟩ := List.mem_flatMap.1 hc
  obtain ⟨comment, answer, rfl⟩ := isPost_of_mem head hc
  rfl

theorem failures_deliveries [TreeReader] {f : ChangedFile} {deliveries : List (Comment × Delivery)}
    (h : ∀ d ∈ deliveries, d.1.path = f.filename) (n : Nat) :
    FileOutcome.failures f (.scanned n deliveries) =
      (deliveries.flatMap (deliveryCalls head)).filterMap failure? := by
  induction deliveries with
  | nil => rfl
  | cons d ds ih =>
    obtain ⟨hd, hds⟩ := List.forall_mem_cons.1 h
    rw [List.flatMap_cons, List.filterMap_append, ← ih hds]
    obtain ⟨c, _ | _ | e⟩ := d
    · rfl
    · rfl
    · have : c.path = f.filename := hd
      simp [FileOutcome.failures, deliveryCalls, failure?, errorText?, this, toString]

theorem posted_deliveries (deliveries : List (Comment × Delivery)) :
    deliveries.countP (fun (_, d) => d.isPosted) =
      (deliveries.flatMap (deliveryCalls head)).countP isPosted := by
  induction deliveries with
  | nil => rfl
  | cons d ds ih =>
    rw [List.flatMap_cons, List.countP_append, List.countP_cons, ih, Nat.add_comm]
    obtain ⟨c, _ | _ | e⟩ := d <;> rfl

theorem length_failures_deliveries [TreeReader] (deliveries : List (Comment × Delivery)) :
    ((deliveries.flatMap (deliveryCalls head)).filterMap failure?).length =
      (deliveries.flatMap (deliveryCalls head)).countP isUnposted := by
  induction deliveries with
  | nil => rfl
  | cons d ds ih =>
    rw [List.flatMap_cons, List.filterMap_append, List.length_append, List.countP_append, ih]
    obtain ⟨c, _ | _ | e⟩ := d <;> rfl

/-- Each comment is posted or could not be, unless comments are only planned. -/
theorem attempts_deliveries {deliveries : List (Comment × Delivery)}
    (h : ∀ d ∈ deliveries, d.2.isPlanned = dryRun) :
    (deliveries.flatMap (deliveryCalls head)).countP isPosted +
        (deliveries.flatMap (deliveryCalls head)).countP isUnposted =
      if dryRun then 0 else deliveries.length := by
  induction deliveries with
  | nil => cases dryRun <;> rfl
  | cons d ds ih =>
    obtain ⟨hd, hds⟩ := List.forall_mem_cons.1 h
    rw [List.flatMap_cons, List.countP_append, List.countP_append, List.length_cons]
    have := ih hds
    subst hd
    obtain ⟨c, _ | _ | e⟩ := d
    · simpa [deliveryCalls, Delivery.isPlanned] using this
    · simp [deliveryCalls, Delivery.isPlanned, isPosted, isUnposted] at this ⊢
      omega
    · simp [deliveryCalls, Delivery.isPlanned, isPosted, isUnposted] at this ⊢
      omega

end

/-! ## Books of files -/

theorem path_of_mem_commentsOn {path : String} {issues : List Issue} {c : Comment}
    (h : c ∈ commentsOn path issues) : c.path = path := by
  obtain ⟨i, -, hi⟩ := List.mem_filterMap.1 h
  obtain ⟨line, -, rfl⟩ := Option.map_eq_some_iff.1 hi
  rfl

/-- The books of one file. -/
theorem FileRun.books [TreeReader] {head : String} {f : ChangedFile} {o : FileOutcome} {calls : List HostCall}
    (h : FileRun extensions dryRun head f o calls) :
    Books extensions dryRun [f] calls (.ofFiles dryRun [(f, o)]) := by
  cases h with
  | skipped ineligible =>
    exact
      { dryRun_eq := rfl
        paths := by simp [ineligible]
        skipped := by simp [ReviewReport.ofFiles, FileOutcome.isSkipped, ineligible]
        scanned := rfl
        total := rfl
        failures := rfl
        failures_length := rfl
        posted := rfl
        comments := by cases dryRun <;> rfl }
  | unfetched eligible e =>
    exact
      { dryRun_eq := rfl
        paths := by simp [path?, eligible]
        skipped := by simp [ReviewReport.ofFiles, FileOutcome.isSkipped, eligible]
        scanned := rfl
        total := rfl
        failures := rfl
        failures_length := rfl
        posted := rfl
        comments := by cases dryRun <;> rfl }
  | @unparsed eligible content e fails =>
    have hunparsed : (HostCall.content f.filename head (.ok content)).isUnparsed = true := by
      simp only [isUnparsed, fails, Except.toOption, Option.isNone_none]
    have hscanned : (HostCall.content f.filename head (.ok content)).isScanned = false := by
      simp only [isScanned, fails, Except.toOption, Option.isSome_none]
    have hfailure : (HostCall.content f.filename head (.ok content)).failure? =
        some (f.filename ++ ": " ++ e.message) := by
      simp only [failure?, errorText?, fails]
    exact
      { dryRun_eq := rfl
        paths := by simp [path?, eligible]
        skipped := by simp [ReviewReport.ofFiles, FileOutcome.isSkipped, eligible]
        scanned := by simp [ReviewReport.ofFiles, FileOutcome.isScanned, hscanned]
        total := by
          simp [ReviewReport.ofFiles, FileOutcome.isScanned, FileOutcome.isSkipped, isUnfetched, hunparsed]
        failures := by simp [ReviewReport.ofFiles, FileOutcome.failures, hfailure]
        failures_length := by
          simp [ReviewReport.ofFiles, FileOutcome.failures, isUnfetched, isUnposted, hunparsed]
        posted := rfl
        comments := by cases dryRun <;> rfl }
  | @scanned eligible content issues deliveries parses delivers =>
    have hunparsed : (HostCall.content f.filename head (.ok content)).isUnparsed = false := by
      simp only [isUnparsed, parses, Except.toOption, Option.isNone_some]
    have hscanned : (HostCall.content f.filename head (.ok content)).isScanned = true := by
      simp only [isScanned, parses, Except.toOption, Option.isSome_some]
    have hfailure : (HostCall.content f.filename head (.ok content)).failure? = none := by
      simp only [failure?, errorText?, parses]
    have hpaths : ∀ d ∈ deliveries, d.1.path = f.filename := fun d hd => by
      refine path_of_mem_commentsOn (?_ : d.1 ∈ commentsOn f.filename issues)
      rw [← delivers.comments_eq]
      exact List.mem_map_of_mem hd
    -- The calls behind that for the content are posts, so they count as posts and as nothing else.
    have hfailures := failures_deliveries head hpaths issues.length
    have hattempts := attempts_deliveries head delivers.isPlanned_eq
    have hnone {p : HostCall → Bool} (hp : ∀ commit c answer, p (.post commit c answer) = false) :=
      countP_deliveries head hp deliveries
    have hunfetched := hnone (p := isUnfetched) fun _ _ _ => rfl
    have hlater := hnone (p := isUnparsed) fun _ _ _ => rfl
    exact
      { dryRun_eq := rfl
        paths := by simp [path?, eligible, path?_deliveries]
        skipped := by simp [ReviewReport.ofFiles, FileOutcome.isSkipped, eligible]
        scanned := by
          simp [ReviewReport.ofFiles, FileOutcome.isScanned, hscanned,
            hnone (p := isScanned) fun _ _ _ => rfl]
        total := by
          simp [ReviewReport.ofFiles, FileOutcome.isScanned, FileOutcome.isSkipped, isUnfetched, hunparsed,
            hunfetched, hlater]
        failures := by simp [ReviewReport.ofFiles, hfailure, hfailures]
        failures_length := by
          simp [ReviewReport.ofFiles, hfailures, length_failures_deliveries, isUnfetched, isUnposted,
            hunparsed, hunfetched, hlater]
        posted := by
          simp [ReviewReport.ofFiles, FileOutcome.deliveries, posted_deliveries head, isPosted]
        comments := by
          simp [ReviewReport.ofFiles, FileOutcome.deliveries, posted_deliveries head, isUnposted,
            hattempts] }

theorem Books.append [TreeReader] {files files' : List ChangedFile} {calls calls' : List HostCall}
    {outcomes outcomes' : List (ChangedFile × FileOutcome)}
    (b : Books extensions dryRun files calls (.ofFiles dryRun outcomes))
    (b' : Books extensions dryRun files' calls' (.ofFiles dryRun outcomes')) :
    Books extensions dryRun (files ++ files') (calls ++ calls') (.ofFiles dryRun (outcomes ++ outcomes')) := by
  have hskipped : (ReviewReport.ofFiles dryRun (outcomes ++ outcomes')).filesSkipped =
      (ReviewReport.ofFiles dryRun outcomes).filesSkipped +
        (ReviewReport.ofFiles dryRun outcomes').filesSkipped := List.countP_append
  have hscanned : (ReviewReport.ofFiles dryRun (outcomes ++ outcomes')).filesScanned =
      (ReviewReport.ofFiles dryRun outcomes).filesScanned +
        (ReviewReport.ofFiles dryRun outcomes').filesScanned := List.countP_append
  have hfailures : (ReviewReport.ofFiles dryRun (outcomes ++ outcomes')).failures =
      (ReviewReport.ofFiles dryRun outcomes).failures ++
        (ReviewReport.ofFiles dryRun outcomes').failures := List.flatMap_append
  have hposted : (ReviewReport.ofFiles dryRun (outcomes ++ outcomes')).commentsPosted =
      (ReviewReport.ofFiles dryRun outcomes).commentsPosted +
        (ReviewReport.ofFiles dryRun outcomes').commentsPosted := by
    simp [ReviewReport.ofFiles]
  have hcomments : (ReviewReport.ofFiles dryRun (outcomes ++ outcomes')).comments =
      (ReviewReport.ofFiles dryRun outcomes).comments ++
        (ReviewReport.ofFiles dryRun outcomes').comments := by
    simp [ReviewReport.ofFiles]
  constructor
  · rfl
  · rw [List.filterMap_append, b.paths, b'.paths, List.filter_append, List.map_append]
  · rw [hskipped, b.skipped, b'.skipped, List.countP_append]
  · rw [hscanned, b.scanned, b'.scanned, List.countP_append]
  · rw [hskipped, hscanned, List.countP_append, List.countP_append, List.length_append, ← b.total,
      ← b'.total]
    omega
  · rw [hfailures, b.failures, b'.failures, List.filterMap_append]
  · rw [hfailures, List.length_append, b.failures_length, b'.failures_length, List.countP_append,
      List.countP_append, List.countP_append]
    omega
  · rw [hposted, b.posted, b'.posted, List.countP_append]
  · have h := b.comments
    have h' := b'.comments
    rw [hposted, hcomments, List.countP_append, List.length_append]
    split_ifs at h h' ⊢ <;> omega

theorem Books.of_steps [TreeReader] {head : String} {files : List ChangedFile}
    {steps : List ((ChangedFile × FileOutcome) × List HostCall)}
    (each : List.Forall₂
      (fun f step => step.1.1 = f ∧ FileRun extensions dryRun head f step.1.2 step.2) files steps) :
    Books extensions dryRun files (steps.flatMap Prod.snd) (.ofFiles dryRun (steps.map Prod.fst)) := by
  induction each with
  | nil => exact .nil
  | cons h _ ih =>
    obtain ⟨rfl, hrun⟩ := h
    rw [List.flatMap_cons, List.map_cons]
    exact hrun.books.append ih

/-! ## Reviews -/

/-- A report with the calls of its review. -/
inductive Accounted [TreeReader] (extensions : List String) (dryRun : Bool) : List HostCall → ReviewReport → Prop
  /-- Where the head cannot be had there is one failure and nothing else. -/
  | headless (e : RemoteError) :
    Accounted extensions dryRun [.head (.error e)] { dryRun, failures := ["head: " ++ e.message] }
  /-- So it is where the files cannot be listed. -/
  | unlisted (head : String) (e : RemoteError) :
    Accounted extensions dryRun [.head (.ok head), .listing (.error e)]
      { dryRun, failures := ["files: " ++ e.message] }
  /-- Otherwise each listed file is skipped, unfetched, unparsed or scanned, its calls follow on those of the
  file before, and the books of all files are right. -/
  | reviewed (head : String) {files : List ChangedFile} {report : ReviewReport}
      {steps : List ((ChangedFile × FileOutcome) × List HostCall)}
      (each : List.Forall₂
        (fun f step => step.1.1 = f ∧ FileRun extensions dryRun head f step.1.2 step.2) files steps)
      (books : Books extensions dryRun files (steps.flatMap Prod.snd) report) :
    Accounted extensions dryRun (.head (.ok head) :: .listing (.ok files) :: steps.flatMap Prod.snd) report

theorem ReviewRun.accounted [TreeReader] {outcome : ReviewOutcome} {calls : List HostCall}
    (h : ReviewRun extensions dryRun outcome calls) :
    Accounted extensions dryRun calls (.ofOutcome dryRun outcome) := by
  cases h with
  | headless e => exact .headless e
  | unlisted head e => exact .unlisted head e
  | reviewed head each => exact .reviewed head each (.of_steps each)

/-- All that is reported as a failure is a call that went wrong. -/
theorem Accounted.failures_eq [TreeReader] {calls : List HostCall} {report : ReviewReport}
    (h : Accounted extensions dryRun calls report) : report.failures = calls.filterMap failure? := by
  cases h with
  | headless e => rfl
  | unlisted head e => rfl
  | reviewed head each books => exact books.failures

theorem Accounted.exitCode_eq_zero_iff [TreeReader] {calls : List HostCall} {report : ReviewReport}
    (h : Accounted extensions dryRun calls report) : report.exitCode = 0 ↔ ∀ c ∈ calls, c.Succeeds := by
  have hcode : report.exitCode = 0 ↔ report.failures = [] := by
    unfold ReviewReport.exitCode
    cases report.failures <;> simp
  rw [hcode, h.failures_eq, List.filterMap_eq_nil_iff]
  simp only [failure?_eq_none_iff]

section
variable {σ : Type}

/-- The calls that a review makes of a host in some state, with their answers. -/
def hostCalls [TreeReader] (host : Host (StateM σ)) (pr : PullRequest) (extensions : List String) (dryRun : Bool)
    (s : σ) : List HostCall :=
  (((review host.noted pr extensions dryRun).run []).run s).run.1.2

/-- The report of a review by a host in some state. -/
def reportOf [TreeReader] (host : Host (StateM σ)) (pr : PullRequest) (extensions : List String) (dryRun : Bool)
    (s : σ) : ReviewReport :=
  ((review host pr extensions dryRun).run s).run.1

theorem accounted_reportOf [TreeReader] (host : Host (StateM σ)) (pr : PullRequest) (extensions : List String)
    (dryRun : Bool) (s : σ) :
    Accounted extensions dryRun (hostCalls host pr extensions dryRun s)
      (reportOf host pr extensions dryRun s) := by
  obtain ⟨report, calls, s', hnoted, hplain, outcome, hrun, rfl⟩ :=
    review_notes host pr extensions dryRun s []
  rw [hostCalls, reportOf, hnoted, hplain]
  exact hrun.accounted

end

/-! ## The command -/

section
variable {m : Type → Type} [Monad m] (w : World m) (v : Voice) (c : ReviewCommand)

/-- What a command that reviews a pull request has at hand when it begins: settings, and a client or the
reason why there is none. -/
def reviewClient : m (Settings × Except RemoteError GithubClient) := do
  let s ← settings w v { root := c.root, output := c.output }
  let token ← w.getVariable s.github.tokenVariable
  pure (s, (s.github.token token).bind (GithubClient.create s.github.apiBase))

theorem runReview_eq [TreeReader] [LawfulMonad m] : runReview w v c = (do
    let (s, client?) ← reviewClient w v c
    match client? with
    | .error e => pure { exitCode := 2, notices := [v.error e.message] }
    | .ok client =>
      let outcome ← reviewOutcome (client.host w.fetch) c.request s.github.extensions c.dryRun
      (Event.ofReview outcome).forM (tell w v)
      let report := ReviewReport.ofOutcome c.dryRun outcome
      pure { exitCode := report.exitCode, output := report.printed s.output v.colors }) := by
  rw [runReview, reviewClient, bind_assoc]
  refine bind_congr fun s => ?_
  rw [bind_assoc]
  refine bind_congr fun token => ?_
  symm
  exact pure_bind _ _

end

variable {σ : Type}

/-- The command ends with 2 where it has no client, and otherwise as its report says. -/
theorem runReview_exitCode [TreeReader] (w : World (StateM σ)) (v : Voice) (c : ReviewCommand) (s : σ) :
    ((runReview w v c).run s).run.1.exitCode =
      match ((reviewClient w v c).run s).run with
      | ((_, .error _), _) => 2
      | ((settings, .ok client), s') =>
        (reportOf (client.host w.fetch) c.request settings.github.extensions c.dryRun s').exitCode := by
  rw [runReview_eq, StateT.run_bind, Id.run_bind]
  obtain ⟨⟨settings, client?⟩, s'⟩ := ((reviewClient w v c).run s).run
  cases client? with
  | error e => rfl
  | ok client => rfl

/-- Every review is accounted for, and the command ends with 0 just if no call went wrong. -/
theorem review_accounts [TreeReader] :
    (∀ (host : Host (StateM σ)) (pr : PullRequest) (extensions : List String) (dryRun : Bool) (s : σ),
      Accounted extensions dryRun (hostCalls host pr extensions dryRun s)
        (reportOf host pr extensions dryRun s)) ∧
    ∀ (w : World (StateM σ)) (v : Voice) (c : ReviewCommand) (s : σ),
      let exitCode := ((runReview w v c).run s).run.1.exitCode
      match ((reviewClient w v c).run s).run with
      | ((_, .error _), _) => exitCode = 2
      | ((settings, .ok client), s') =>
        exitCode = 0 ↔
          ∀ call ∈ hostCalls (client.host w.fetch) c.request settings.github.extensions c.dryRun s',
            call.Succeeds := by
  refine ⟨accounted_reportOf, fun w v c s => ?_⟩
  dsimp only
  rw [runReview_exitCode]
  obtain ⟨⟨settings, client?⟩, s'⟩ := ((reviewClient w v c).run s).run
  cases client? with
  | error e => rfl
  | ok client => exact (accounted_reportOf ..).exitCode_eq_zero_iff

end Fanout
