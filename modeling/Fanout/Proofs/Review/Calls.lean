import Mathlib.Data.List.Forall2
import Fanout.Review.Process

/-!
# Calls of a code host

* `HostCall` : a call of a host with its answer;
* `Host.noted` : a host whose calls are noted down;
* `Notes` : to note down calls changes nothing, and something holds of the outcome and the calls, with a rule
  for each way in which computations are built;
* `FileRun` : what may become of a changed file, with the calls that belong to it;
* `ReviewRun` : the same for a whole review; `review_notes` : every review is such a run.

A host may answer each call as it likes, and its answers may hang on the calls before: it is any host in a
state monad, and nothing is said of its state.
-/

namespace Fanout

/-- A call of a host, with what the host answered. -/
inductive HostCall where
  | head (answer : Except RemoteError String)
  | listing (answer : Except RemoteError (List ChangedFile))
  | content (path ref : String) (answer : Except RemoteError String)
  | post (commit : String) (comment : Comment) (answer : Except RemoteError Unit)
  deriving DecidableEq

section
variable {m : Type → Type} [Monad m]

/-- An answer that is noted down as a call, behind the calls before. -/
def noteCall {α : Type} (call : α → HostCall) (answer : m α) : StateT (List HostCall) m α := do
  let a ← answer
  modify (· ++ [call a])
  pure a

/-- A host whose calls are noted down. -/
def Host.noted (host : Host m) : Host (StateT (List HostCall) m) where
  headSha pr := noteCall .head (host.headSha pr)
  listFiles pr := noteCall .listing (host.listFiles pr)
  fileContent pr path ref := noteCall (.content path ref) (host.fileContent pr path ref)
  postComment pr commit comment := noteCall (.post commit comment) (host.postComment pr commit comment)

end

/-! ## Outcomes and calls -/

section
variable {σ : Type} {α β : Type}

/-- From each state of the host, a computation that notes down its calls comes to the same outcome and the
same state as one that does not, and `P` holds of the outcome and the calls. -/
def Notes (x : StateT (List HostCall) (StateM σ) α) (y : StateM σ α) (P : α → List HostCall → Prop) : Prop :=
  ∀ s done, ∃ a calls s',
    (x.run done).run s = pure ((a, done ++ calls), s') ∧ y.run s = pure (a, s') ∧ P a calls

namespace Notes
variable {x : StateT (List HostCall) (StateM σ) α} {y : StateM σ α} {P : α → List HostCall → Prop}

theorem pure {a : α} (h : P a []) : Notes (σ := σ) (Pure.pure a) (Pure.pure a) P := fun s done =>
  ⟨a, [], s, by simp, rfl, h⟩

theorem bind {f : α → StateT (List HostCall) (StateM σ) β} {g : α → StateM σ β}
    {Q : β → List HostCall → Prop} (hx : Notes x y P)
    (hf : ∀ a calls, P a calls → Notes (f a) (g a) fun b more => Q b (calls ++ more)) :
    Notes (x >>= f) (y >>= g) Q := fun s done => by
  obtain ⟨a, calls, s', hrun, hplain, hP⟩ := hx s done
  obtain ⟨b, more, s'', hrun', hplain', hQ⟩ := hf a calls hP s' (done ++ calls)
  refine ⟨b, calls ++ more, s'', ?_, ?_, hQ⟩
  · rw [StateT.run_bind, StateT.run_bind, hrun, pure_bind, hrun', List.append_assoc]
  · rw [StateT.run_bind, hplain, pure_bind, hplain']

theorem call (c : α → HostCall) : Notes (noteCall c y) y fun a calls => calls = [c a] := fun s _ =>
  ⟨(y.run s).run.1, _, (y.run s).run.2, rfl, rfl, rfl⟩

/-- A walk through a list makes the calls of its steps, one step after another. -/
theorem mapM {f : α → StateT (List HostCall) (StateM σ) β} {g : α → StateM σ β}
    {P : α → β → List HostCall → Prop} (h : ∀ a, Notes (f a) (g a) (P a)) (xs : List α) :
    Notes (xs.mapM f) (xs.mapM g) fun bs calls =>
      ∃ steps : List (β × List HostCall),
        List.Forall₂ (fun a step => P a step.1 step.2) xs steps ∧
          bs = steps.map Prod.fst ∧ calls = steps.flatMap Prod.snd := by
  induction xs with
  | nil => exact pure ⟨[], .nil, rfl, rfl⟩
  | cons x xs ih =>
    rw [List.mapM_cons, List.mapM_cons]
    refine (h x).bind fun b calls hb => ih.bind fun bs more hbs => pure ?_
    obtain ⟨steps, hsteps, rfl, rfl⟩ := hbs
    exact ⟨(b, calls) :: steps, .cons hb hsteps, rfl, by simp⟩

end Notes
end

/-! ## What becomes of a file -/

/-- What the rules find in the content of a changed file. -/
def foundIn [TreeReader] (path content : String) : Except ParseError (List Issue) :=
  findSourceIssues (Language.ofPath path) (some path) content

/-- The call that posts a comment; there is none for a comment that is only planned. -/
def deliveryCalls (head : String) : Comment × Delivery → List HostCall
  | (_, .planned) => []
  | (c, .posted) => [.post head c (.ok ())]
  | (c, .failed e) => [.post head c (.error e)]

def Delivery.isPlanned : Delivery → Bool
  | .planned => true
  | _ => false

/-- What becomes of comments: in a dry run all are only planned, in any other run none is. -/
structure Delivers (dryRun : Bool) (comments : List Comment) (deliveries : List (Comment × Delivery)) :
    Prop where
  comments_eq : deliveries.map Prod.fst = comments
  isPlanned_eq : ∀ d ∈ deliveries, d.2.isPlanned = dryRun

/-- What may become of a changed file, with the calls that belong to it. -/
inductive FileRun [TreeReader] (extensions : List String) (dryRun : Bool) (head : String) (f : ChangedFile) :
    FileOutcome → List HostCall → Prop
  /-- A file that is not to be reviewed is skipped without a call. -/
  | skipped (ineligible : f.eligible extensions = false) : FileRun extensions dryRun head f .skipped []
  | unfetched (eligible : f.eligible extensions = true) (e : RemoteError) :
    FileRun extensions dryRun head f (.unfetched e) [.content f.filename head (.error e)]
  | unparsed (eligible : f.eligible extensions = true) {content : String} {e : ParseError}
      (fails : foundIn f.filename content = .error e) :
    FileRun extensions dryRun head f (.unparsed e) [.content f.filename head (.ok content)]
  | scanned (eligible : f.eligible extensions = true) {content : String} {issues : List Issue}
      {deliveries : List (Comment × Delivery)} (parses : foundIn f.filename content = .ok issues)
      (delivers : Delivers dryRun (commentsOn f.filename issues) deliveries) :
    FileRun extensions dryRun head f (.scanned issues.length deliveries)
      (.content f.filename head (.ok content) :: deliveries.flatMap (deliveryCalls head))

/-- What may become of a review, with all its calls. -/
inductive ReviewRun [TreeReader] (extensions : List String) (dryRun : Bool) : ReviewOutcome → List HostCall → Prop
  | headless (e : RemoteError) : ReviewRun extensions dryRun (.headless e) [.head (.error e)]
  | unlisted (head : String) (e : RemoteError) :
    ReviewRun extensions dryRun (.unlisted e) [.head (.ok head), .listing (.error e)]
  | reviewed (head : String) {files : List ChangedFile}
      {steps : List ((ChangedFile × FileOutcome) × List HostCall)}
      (each : List.Forall₂
        (fun f step => step.1.1 = f ∧ FileRun extensions dryRun head f step.1.2 step.2) files steps) :
    ReviewRun extensions dryRun (.reviewed head (steps.map Prod.fst))
      (.head (.ok head) :: .listing (.ok files) :: steps.flatMap Prod.snd)

variable {σ : Type} (host : Host (StateM σ)) (pr : PullRequest) (head : String) (extensions : List String)
  (dryRun : Bool)

theorem deliver_notes (c : Comment) :
    Notes (deliver host.noted pr head dryRun c) (deliver host pr head dryRun c) fun d calls =>
      d.1 = c ∧ d.2.isPlanned = dryRun ∧ calls = deliveryCalls head d := by
  unfold deliver
  cases dryRun with
  | true => exact .pure ⟨rfl, rfl, rfl⟩
  | false =>
    refine Notes.bind (.call _) fun answer calls h => ?_
    subst h
    cases answer with
    | error e => exact .pure ⟨rfl, rfl, rfl⟩
    | ok _ => exact .pure ⟨rfl, rfl, rfl⟩

omit host pr in
theorem delivers_of_steps {comments : List Comment} {steps : List ((Comment × Delivery) × List HostCall)}
    (h : List.Forall₂
      (fun c step => step.1.1 = c ∧ step.1.2.isPlanned = dryRun ∧ step.2 = deliveryCalls head step.1)
      comments steps) :
    Delivers dryRun comments (steps.map Prod.fst) ∧
      steps.flatMap Prod.snd = (steps.map Prod.fst).flatMap (deliveryCalls head) := by
  induction h with
  | nil => exact ⟨⟨rfl, by simp⟩, rfl⟩
  | cons hstep _ ih =>
    obtain ⟨rfl, hplanned, hcalls⟩ := hstep
    obtain ⟨⟨hcomments, hall⟩, hflat⟩ := ih
    refine ⟨⟨by simp [hcomments], ?_⟩, by simp [hcalls, hflat]⟩
    rw [List.map_cons, List.forall_mem_cons]
    exact ⟨hplanned, hall⟩

theorem reviewFile_notes [TreeReader] (f : ChangedFile) :
    Notes (reviewFile host.noted pr head extensions dryRun f)
      (reviewFile host pr head extensions dryRun f) fun r calls =>
        r.1 = f ∧ FileRun extensions dryRun head f r.2 calls := by
  unfold reviewFile
  cases helig : f.eligible extensions with
  | false => exact .pure ⟨rfl, .skipped helig⟩
  | true =>
    refine Notes.bind (.call _) fun answer calls h => ?_
    subst h
    cases answer with
    | error e => exact .pure ⟨rfl, .unfetched helig e⟩
    | ok content =>
      dsimp only
      cases hfound : findSourceIssues (Language.ofPath f.filename) (some f.filename) content with
      | error e => exact .pure ⟨rfl, .unparsed helig hfound⟩
      | ok issues =>
        refine Notes.bind (.mapM (deliver_notes host pr head dryRun) _) fun deliveries calls h => .pure ?_
        obtain ⟨steps, hsteps, rfl, rfl⟩ := h
        obtain ⟨hdelivers, hcalls⟩ := delivers_of_steps head dryRun hsteps
        refine ⟨rfl, ?_⟩
        rw [hcalls, List.append_nil]
        exact .scanned helig hfound hdelivers

theorem reviewOutcome_notes [TreeReader] :
    Notes (reviewOutcome host.noted pr extensions dryRun) (reviewOutcome host pr extensions dryRun)
      (ReviewRun extensions dryRun) := by
  unfold reviewOutcome
  refine Notes.bind (.call _) fun answer calls h => ?_
  subst h
  cases answer with
  | error e => exact .pure (.headless e)
  | ok head =>
    refine Notes.bind (.call _) fun answer calls h => ?_
    subst h
    cases answer with
    | error e => exact .pure (.unlisted head e)
    | ok files =>
      refine Notes.bind (.mapM (reviewFile_notes host pr head extensions dryRun) files)
        fun outcomes calls h => .pure ?_
      obtain ⟨steps, hsteps, rfl, rfl⟩ := h
      rw [List.append_nil]
      exact .reviewed head hsteps

/-- A review tells of the run that it was. -/
theorem review_notes [TreeReader] :
    Notes (review host.noted pr extensions dryRun) (review host pr extensions dryRun) fun report calls =>
      ∃ outcome, ReviewRun extensions dryRun outcome calls ∧ report = .ofOutcome dryRun outcome := by
  refine Notes.bind (reviewOutcome_notes host pr extensions dryRun) fun outcome calls h => .pure ?_
  rw [List.append_nil]
  exact ⟨outcome, h, rfl⟩

end Fanout
