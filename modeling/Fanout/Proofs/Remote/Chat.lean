import Fanout.Grammar.Reading
import Fanout.Program
import Fanout.Proofs.Analysis.Finish
import Fanout.Proofs.Insight.ObjectReply
import Fanout.Proofs.Json.Shape
import Fanout.Proofs.Scan.Agreement

/-!
# What a failing model changes

* `ChatSettings.answer` : what comes back when a model is asked of a source, or why nothing does;
* `Gives`, `Silent` : answers that give a content, and answers of which nothing can be used;
* `chatReply_written` : the choices of a reply are read back from the text that a service writes;
* `heard`, `insightIn` : what is made of an answer, and `ask_eq` : to ask is to hear the answer;
* `silence_changes_nothing` : a silent answer leaves the result of the analysis as it is without a model.

What is silent is said of the answer alone; that a silent answer comes to the empty insight, whichever step of
the reading it fails at, is `Silent.insightIn`.
-/

namespace Fanout
open Json

/-! ## Answers -/

namespace ChatSettings
variable {m : Type → Type} [Monad m] (s : ChatSettings) (fetch : Fetch m)

/-- What comes back for a source. To an address that is none, nothing is sent, and neither is a request that
cannot be built. -/
def answer (source : String) : m (Except RemoteError Response) :=
  match Url.ofText s.completions with
  | .error f => pure (.error (.transport f.message))
  | .ok url =>
    if (s.request url source).isSendable then fetch (s.request url source)
    else pure (.error (.transport "the request cannot be built"))

end ChatSettings

/-- An answer whose first choice has a content. -/
def Gives (answer : Except RemoteError Response) (content : String) : Prop :=
  ∃ r rest, answer = .ok r ∧ (200 ≤ r.status ∧ r.status < 300) ∧
    Shape.ofText chatReply r.body = .ok (some (some content) :: rest)

/-- An answer of which nothing can be used. -/
inductive Silent (format : ReplyFormat) : Except RemoteError Response → Prop
  | transport (e : RemoteError) : Silent format (.error e)
  | status {r : Response} (h : ¬(200 ≤ r.status ∧ r.status < 300)) : Silent format (.ok r)
  | undecodable {r : Response} {f : Fault} (h : Shape.ofText chatReply r.body = .error f) :
    Silent format (.ok r)
  /-- There is no first choice, or it has no message, or the message has no content. -/
  | noContent {r : Response} {choices : List (Option (Option String))}
      (h : Shape.ofText chatReply r.body = .ok choices)
      (hfirst : ∀ content, choices.head? ≠ some (some (some content))) : Silent format (.ok r)
  | noObject {answer : Except RemoteError Response} {content : String} (hjson : format = .json)
      (h : Gives answer content) (hobject : ¬HoldsObject content) : Silent format answer

/-! ## Replies as a service writes them -/

/-- A choice, where a message or a content that is absent is null. -/
def choiceJson (choice : Option (Option String)) : Json :=
  .object
    [("message", choice.elim .null fun content => .object [("content", content.elim .null .string)])]

def chatJson (choices : List (Option (Option String))) : Json :=
  .object [("choices", .array (choices.map choiceJson))]

theorem reads_choice (choice : Option (Option String)) :
    Reads choiceReply (compactChars (choiceJson choice)) choice := by
  refine .record1 "ChatChoice" ?_
  cases choice with
  | none => exact reads_null _
  | some content =>
    refine .optional (.record1 "ChatReply" ?_) ?_
    · cases content with
      | none => exact reads_null _
      | some s => exact .optional (reads_text s) (by simp [compactChars, quote])
    · rw [Option.elim_some, compactChars]
      simp

/-- The choices of a reply are read back from its text, whatever is absent. -/
theorem chatReply_written (choices : List (Option (Option String))) :
    Shape.ofText chatReply (compact (chatJson choices)) = .ok choices := by
  refine Reads.ofText (.record1 "ChatResponse" ?_)
  exact .list fun choice _ => reads_choice choice

/-! ## What is made of an answer -/

/-- The insight in an answer, or why there is none. -/
def heard (format : ReplyFormat) (answer : Except RemoteError Response) : Except RemoteError Insight := do
  let r ← answer
  if r.isSuccess then return .ofReply format (← contentOfReply r.body)
  else throw (.status "model" r.status r.body)

/-- The insight in an answer, where no insight is the empty one. -/
def insightIn (format : ReplyFormat) (answer : Except RemoteError Response) : Insight :=
  (heard format answer).toOption.getD .empty

theorem contentOfReply_eq_ok_iff {body content : String} :
    contentOfReply body = .ok content ↔
      ∃ rest, Shape.ofText chatReply body = .ok (some (some content) :: rest) := by
  unfold contentOfReply
  constructor
  · intro h
    split at h
    · cases h
    · next choices hbody =>
      cases h
      exact ⟨choices, hbody⟩
    · cases h
  · rintro ⟨rest, h⟩
    rw [h]

theorem isSuccess_iff (r : Response) : r.isSuccess = true ↔ 200 ≤ r.status ∧ r.status < 300 := by
  simp [Response.isSuccess]

theorem heard_error (format : ReplyFormat) (e : RemoteError) : heard format (.error e) = .error e := rfl

theorem heard_ok (format : ReplyFormat) (r : Response) :
    heard format (.ok r) =
      if r.isSuccess then (contentOfReply r.body).map (.ofReply format)
      else .error (.status "model" r.status r.body) := by
  show (if r.isSuccess then _ else _) = _
  split
  · cases contentOfReply r.body <;> rfl
  · rfl

theorem heard_eq_ok_iff {format : ReplyFormat} {answer : Except RemoteError Response} {i : Insight} :
    heard format answer = .ok i ↔ ∃ content, Gives answer content ∧ i = .ofReply format content := by
  cases answer with
  | error e =>
    constructor
    · intro h
      cases h
    · rintro ⟨content, ⟨r, rest, h, -⟩, -⟩
      cases h
  | ok r =>
    rw [heard_ok]
    constructor
    · intro h
      split_ifs at h with hsuccess
      cases hcontent : contentOfReply r.body with
      | error e =>
        rw [hcontent] at h
        cases h
      | ok content =>
        rw [hcontent] at h
        cases h
        obtain ⟨rest, hbody⟩ := contentOfReply_eq_ok_iff.1 hcontent
        exact ⟨content, ⟨r, rest, rfl, (isSuccess_iff r).1 hsuccess, hbody⟩, rfl⟩
    · rintro ⟨content, ⟨r', rest, heq, hstatus, hbody⟩, rfl⟩
      cases heq
      rw [if_pos ((isSuccess_iff r).2 hstatus), contentOfReply_eq_ok_iff.2 ⟨rest, hbody⟩]
      rfl

theorem Gives.insightIn {answer : Except RemoteError Response} {content : String} (h : Gives answer content)
    (format : ReplyFormat) : insightIn format answer = .ofReply format content := by
  rw [Fanout.insightIn, heard_eq_ok_iff.2 ⟨content, h, rfl⟩]
  rfl

theorem insightIn_eq_empty {format : ReplyFormat} {answer : Except RemoteError Response}
    (h : ∀ content, ¬Gives answer content) : insightIn format answer = .empty := by
  unfold insightIn
  cases hheard : heard format answer with
  | error e => rfl
  | ok i =>
    obtain ⟨content, hgives, -⟩ := heard_eq_ok_iff.1 hheard
    exact absurd hgives (h content)

/-! ## Silence -/

theorem Silent.insightIn {format : ReplyFormat} {answer : Except RemoteError Response}
    (h : Silent format answer) : insightIn format answer = .empty := by
  cases h with
  | transport e =>
    refine insightIn_eq_empty ?_
    rintro content ⟨r, rest, heq, -⟩
    cases heq
  | status h =>
    refine insightIn_eq_empty ?_
    rintro content ⟨r, rest, heq, hstatus, -⟩
    cases heq
    exact h hstatus
  | undecodable h =>
    refine insightIn_eq_empty ?_
    rintro content ⟨r, rest, heq, -, hbody⟩
    cases heq
    rw [h] at hbody
    cases hbody
  | noContent h hfirst =>
    refine insightIn_eq_empty ?_
    rintro content ⟨r, rest, heq, -, hbody⟩
    cases heq
    rw [h] at hbody
    cases hbody
    exact hfirst content rfl
  | noObject hjson h hobject =>
    subst hjson
    rw [h.insightIn]
    exact Insight.ofObjectReply_of_not_holdsObject hobject

theorem exists_gives_of_not_silent {format : ReplyFormat} {answer : Except RemoteError Response}
    (h : ¬Silent format answer) : ∃ content, Gives answer content := by
  cases answer with
  | error e => exact absurd (.transport e) h
  | ok r =>
    by_cases hstatus : 200 ≤ r.status ∧ r.status < 300
    · cases hbody : Shape.ofText chatReply r.body with
      | error f => exact absurd (.undecodable hbody) h
      | ok choices =>
        by_cases hfirst : ∃ content, choices.head? = some (some (some content))
        · obtain ⟨content, hfirst⟩ := hfirst
          obtain ⟨rest, rfl⟩ := List.head?_eq_some_iff.1 hfirst
          exact ⟨content, r, rest, rfl, hstatus, hbody⟩
        · exact absurd (.noContent hbody fun content heq => hfirst ⟨content, heq⟩) h
    · exact absurd (.status hstatus) h

/-! ## Asking -/

/-- To ask a model is to hear what comes back. -/
theorem ChatSettings.ask_eq {m : Type → Type} [Monad m] [LawfulMonad m] (s : ChatSettings) (fetch : Fetch m)
    (source : String) : s.ask fetch source = heard s.format <$> s.answer fetch source := by
  unfold ask reply answer
  cases Url.ofText s.completions with
  | error f => simp [heard_error]
  | ok url =>
    simp only [exchange]
    by_cases h : (s.request url source).isSendable = true
    · simp only [h, Bool.not_true, Bool.false_eq_true, if_false, if_true]
      simp only [bind_pure_comp, map_bind, ExceptT.run_bind, ExceptT.run_mk, bind_assoc]
      rw [← bind_pure_comp]
      apply bind_congr
      intro a
      cases a with
      | error e => simp [heard_error]
      | ok r =>
        rw [heard_ok]
        by_cases hsuccess : r.isSuccess = true
        · simp only [hsuccess, if_true, ExceptT.run_pure, ExceptT.map_mk, map_pure, ExceptT.run_mk, pure_bind]
          cases contentOfReply r.body <;> rfl
        · simp [hsuccess]
    · simp [h, heard_error]

section
variable {σ : Type} (w : World (StateM σ)) (v : Voice) (s : ChatSettings)

/-- What comes back for a source in a world, behind the line that the log gets first. -/
def World.answer (source : String) (world : σ) : Except RemoteError Response :=
  ((do tell w v (.requesting s.completions s.model); s.answer w.fetch source : StateM σ _).run world).run.1

theorem askModel_run (source : String) (world : σ) :
    ((askModel w v s source).run world).run.1 = insightIn s.format (w.answer v s source world) := by
  unfold askModel ChatSettings.insight World.answer insightIn
  rw [ChatSettings.ask_eq]
  simp only [bind_map_left, StateT.run_bind, Id.run_bind]
  generalize heard s.format _ = a
  -- What is told of a failure does not touch the insight.
  cases a <;> rfl

/-! ## Results -/

/-- A file with a source is asked about in the world behind what is told of it. -/
theorem completeFile_run (tell : Event → StateM σ Unit) (ask : String → StateM σ Insight) {f : LocalFile}
    {text : String} (hsource : f.source? = some text) (model : LoadTimeModel) (world : σ) :
    ((completeFile tell (some ask) model f).run world).run.1 =
      ⟨f.display, finish f.outcome
        (some ((ask text).run ((tell (.asking f.display)).run world).run.2).run.1) model⟩ := by
  unfold completeFile
  rw [hsource]
  rfl

theorem completeFile_of_silent (silent : ∀ source world, Silent s.format (w.answer v s source world))
    (tell : Event → StateM σ Unit) (model : LoadTimeModel) (f : LocalFile) (world : σ) :
    ((completeFile tell (some (askModel w v s)) model f).run world).run.1 = f.completed none model := by
  unfold LocalFile.completed
  cases hsource : f.source? with
  | none =>
    unfold completeFile
    rw [hsource]
    rfl
  | some text =>
    rw [completeFile_run tell _ hsource, askModel_run, (silent text _).insightIn, finish_empty]
    rfl

/-- A model that is silent throughout leaves the report of files as it is without a model. -/
theorem complete_of_silent (silent : ∀ source world, Silent s.format (w.answer v s source world))
    (tell : Event → StateM σ Unit) (model : LoadTimeModel) (files : List LocalFile) (world : σ) :
    ((complete (some (askModel w v s)) model files tell).run world).run.1 =
      ((complete none model files tell).run world).run.1 := by
  have hasked := mapM_run (completeFile_of_silent w v s silent tell model) files world
  exact (congrArg ScanReport.ofFiles hasked).trans (complete_told none model tell files world).symm

/-- The files are found before the model is asked, so that a scan finds the same with it and without. -/
theorem scan_of_silent [TreeReader] (silent : ∀ source world, Silent s.format (w.answer v s source world))
    (tell : Event → StateM σ Unit) (model : LoadTimeModel) (root : List Char) (patterns : List String)
    (world : σ) :
    ((scan w.files (some (askModel w v s)) model root patterns tell).run world).run.1 =
      ((scan w.files none model root patterns tell).run world).run.1 := by
  simp only [scan, StateT.run_bind, Id.run_bind]
  exact complete_of_silent w v s silent tell model _ _

end

/-- What is heard of a reply that a service has written. -/
theorem insightIn_written (format : ReplyFormat) {status : Nat} (h : 200 ≤ status ∧ status < 300)
    (choices : List (Option (Option String))) :
    insightIn format (.ok ⟨status, compact (chatJson choices)⟩) =
      match choices with
      | some (some content) :: _ => .ofReply format content
      | _ => .empty := by
  split
  · next content rest =>
    have hgives : Gives (.ok ⟨status, _⟩) content := ⟨_, rest, rfl, h, chatReply_written _⟩
    exact hgives.insightIn format
  · next hfirst =>
    have silent : Silent format (.ok ⟨status, compact (chatJson choices)⟩) := by
      refine .noContent (chatReply_written choices) fun content heq => ?_
      obtain ⟨rest, rfl⟩ := List.head?_eq_some_iff.1 heq
      exact hfirst content rest rfl
    exact silent.insightIn

/-- The empty insight leaves the result of every analysis as it is without a provider. Of a silent answer the
empty insight is made, and of any other the insight in the content that it gives; so a silent answer leaves
the result of the analysis as it is without a model, and a model that is silent throughout leaves the report
of all files and of every scan so. -/
theorem silence_changes_nothing [TreeReader] :
    (∀ (o : AnalyzeOptions) (text : String),
      analyze { o with provider := some fun _ => .empty } text = analyze { o with provider := none } text) ∧
    ∀ {σ : Type} (w : World (StateM σ)) (v : Voice) (s : ChatSettings),
      (∀ (source : String) (world : σ),
        let answer := w.answer v s source world
        let insight := ((askModel w v s source).run world).run.1
        (Silent s.format answer →
          insight = .empty ∧
          ∀ o : AnalyzeOptions,
            analyze { o with provider := some fun text => ((askModel w v s text).run world).run.1 } source =
              analyze { o with provider := none } source) ∧
        (¬Silent s.format answer → ∃ content, Gives answer content) ∧
        (∀ content, Gives answer content → insight = .ofReply s.format content) ∧
        ∀ status choices, 200 ≤ status ∧ status < 300 →
          answer = .ok ⟨status, compact (chatJson choices)⟩ →
          insight = match choices with
            | some (some content) :: _ => .ofReply s.format content
            | _ => .empty) ∧
      ((∀ source world, Silent s.format (w.answer v s source world)) →
        ∀ (tell : Event → StateM σ Unit) (model : LoadTimeModel) (world : σ),
          (∀ files : List LocalFile,
            ((complete (some (askModel w v s)) model files tell).run world).run.1 =
              ((complete none model files tell).run world).run.1) ∧
          ∀ (root : List Char) (patterns : List String),
            ((scan w.files (some (askModel w v s)) model root patterns tell).run world).run.1 =
              ((scan w.files none model root patterns tell).run world).run.1) := by
  refine ⟨fun o text => finish_empty _ _, fun w v s => ⟨fun source world => ?_, ?_⟩⟩
  · intro answer insight
    have hinsight : insight = insightIn s.format answer := askModel_run w v s source world
    refine ⟨fun silent => ?_, exists_gives_of_not_silent, fun content hgives => ?_, ?_⟩
    · have hempty : insight = .empty := hinsight.trans silent.insightIn
      refine ⟨hempty, fun o => ?_⟩
      show finish _ (some insight) _ = finish _ none _
      rw [hempty, finish_empty]
    · rw [hinsight, hgives.insightIn]
    · intro status choices hstatus hanswer
      rw [hinsight, hanswer, insightIn_written s.format hstatus]
  · intro silent tell model world
    exact ⟨fun files => complete_of_silent w v s silent tell model files world,
      fun root patterns => scan_of_silent w v s silent tell model root patterns world⟩

/-! ## A model with moods -/

def localModel : ChatSettings := ⟨"http://127.0.0.1:8080/v1/", "small", "key", .json, none⟩

/-- A voice that says nothing. -/
def quiet : Voice := ⟨⟨[], []⟩, false⟩

/-- A world that counts what a model is asked. The answers come in order, and behind the last there are none. -/
def modelWorld (answers : List (Except RemoteError Response)) : World (StateM Nat) where
  files := { kind? _ := pure none, names _ := pure [], text _ := pure (.error "no files") }
  getVariable _ := pure none
  input := pure []
  fetch _ := do
    let n ← get
    set (n + 1)
    pure (answers[n]?.getD (.error (.transport "connection refused")))
  log _ := pure ()

theorem modelWorld_answer (answers : List (Except RemoteError Response)) (source : String) (n : Nat) :
    (modelWorld answers).answer quiet localModel source n =
      answers[n]?.getD (.error (.transport "connection refused")) := by
  have hurl : Url.ofText localModel.completions =
      .ok
        { scheme := "http", host := some (.ipv4 2130706433), port := some 8080
          route := .segments ["v1", "chat", "completions"] } := by decide +kernel
  have htell (e : Event) : tell (modelWorld answers) quiet e = pure () := by
    unfold tell
    split <;> rfl
  unfold World.answer ChatSettings.answer
  rw [htell, hurl]
  dsimp only
  rw [if_pos (by rfl)]
  rfl

/-- A failure of each kind, and then an answer. -/
def moods : List (Except RemoteError Response) :=
  [.error (.transport "timed out"), .ok ⟨503, compact (chatJson [some (some "\x7b\x7d")])⟩,
    .ok ⟨200, "<html>"⟩, .ok ⟨200, compact (chatJson [none, some (some "\x7b\x7d")])⟩,
    .ok ⟨200, compact (chatJson [some (some "Sorry \x7b")])⟩,
    .ok ⟨200, compact (chatJson [some (some "Here: \x7b\"loadTimeImpact\": 9\x7d")])⟩]

theorem silence_changes_nothing_moods :
    let insight (n : Nat) := ((askModel (modelWorld moods) quiet localModel "f()").run n).run.1
    let answer (n : Nat) := (modelWorld moods).answer quiet localModel "f()" n
    (∀ n < 5, Silent .json (answer n) ∧ insight n = .empty) ∧
    Gives (answer 5) "Here: \x7b\"loadTimeImpact\": 9\x7d" ∧ (insight 5).loadTimeImpact = 9 ∧
    (∀ source n, Silent .json ((modelWorld []).answer quiet localModel source n)) ∧
    ∀ (tell : Event → StateM Nat Unit) (model : LoadTimeModel) (files : List LocalFile) (n : Nat),
      ((complete (some (askModel (modelWorld []) quiet localModel)) model files tell).run n).run.1 =
        ((complete none model files tell).run n).run.1 := by
  intro insight answer
  have hanswer (n : Nat) : answer n = _ := modelWorld_answer moods "f()" n
  have hsilent : ∀ n < 5, Silent .json (answer n) := by
    intro n hn
    rw [hanswer]
    match n, hn with
    | 0, _ => exact .transport _
    | 1, _ => exact .status (by decide)
    | 2, _ => exact .undecodable (f := ⟨.noValue, 1, 1⟩) (by decide +kernel)
    | 3, _ => exact .noContent (chatReply_written _) (by simp)
    | 4, _ => exact .noObject rfl ⟨_, [], rfl, by decide, chatReply_written _⟩ (by decide +kernel)
  have hgives : Gives (answer 5) "Here: \x7b\"loadTimeImpact\": 9\x7d" :=
    ⟨_, [], hanswer 5, by decide, chatReply_written _⟩
  have hdeaf (source : String) (n : Nat) : Silent .json ((modelWorld []).answer quiet localModel source n) := by
    rw [modelWorld_answer]
    exact .transport _
  have h := silence_changes_nothing.2 (modelWorld moods) quiet localModel
  refine ⟨fun n hn => ⟨hsilent n hn, ((h.1 "f()" n).1 (hsilent n hn)).1⟩, hgives, ?_, hdeaf,
    fun tell model files n =>
      ((silence_changes_nothing.2 (modelWorld []) quiet localModel).2 hdeaf tell model n).1 files⟩
  rw [show insight 5 = _ from (h.1 "f()" 5).2.2.1 _ hgives]
  decide +kernel

end Fanout
