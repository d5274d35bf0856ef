import Fanout.Proofs.Json.Record
import Fanout.Proofs.Json.Shape
import Fanout.Remote.Github

/-!
# Listings in pages

* `Fetch.noted` : a service whose requests are noted down;
* `pageOf`, `pagesAsked` : the items on a page of a listing, and how many pages are asked for;
* `filesIn` : what is made of the answer to the request of a page; `filesReply_written` : the files on a page
  are read back from the text that a service writes;
* `Serves` : a service that has a listing in pages, and may fail;
* `listFiles_pages` : the listing of files asks for the pages one after another, and comes to all items or to
  the error of the page that failed.

A service may answer each request as it likes, and its answers may hang on the requests before: it is any
service in a state monad.
-/

namespace Fanout
open Json

/-- An answer whose request is noted down, behind the requests before. -/
def Fetch.noted {m : Type → Type} [Monad m] (fetch : Fetch m) : Fetch (StateT (List Request) m) := fun r => do
  modify (· ++ [r])
  fetch r

/-! ## Pages of a listing -/

section
variable {α : Type}

/-- The items on a page; the first page is page one. -/
def pageOf (items : List α) (page : Nat) : List α := (items.drop (pageSize * (page - 1))).take pageSize

/-- How many pages of a listing of some length are asked for: the first page that is not full tells its end. -/
def pagesAsked (length : Nat) : Nat := min maxPages (length / pageSize + 1)

end

/-! ## Requests and answers of files -/

namespace GithubClient
variable (c : GithubClient)

/-- The request of a page of files, where the files of the pull request stand at `files`. -/
def pageRequest (files : Url) (page : Nat) : Request where
  method := .get
  url := (files.addQuery "per_page" (toString pageSize)).addQuery "page" (toString page)
  headers := c.headers none

/-- The text of an answer, or why there is none. -/
def textIn (answer : Except RemoteError Response) : Except RemoteError String := do
  let r ← answer
  if r.isSuccess then .ok r.body else .error (.status "github" r.status r.body)

/-- Whether a page can be asked for does not hang on its number. -/
theorem isSendable_pageRequest (files : Url) (page other : Nat) :
    (c.pageRequest files page).isSendable = (c.pageRequest files other).isSendable := by
  simp only [Request.isSendable, pageRequest, Url.isWeb, Url.addQuery]

/-- The files in the answer to the request of a page, or why there are none. -/
def filesIn (answer : Except RemoteError Response) : Except RemoteError (List ChangedFile) := do
  let files ← readReply filesReply (← textIn answer)
  .ok (files.map fun (filename, status) => { filename, status })

/-- A file as a service writes it. -/
def fileJson (f : ChangedFile) : Json := .object [("filename", .string f.filename), ("status", .string f.status)]

theorem ofJson?_fileJson (f : ChangedFile) : ChangedFile.ofJson? (fileJson f) = some f := by
  have hrecord : record? [["filename"], ["status"]] (fileJson f) =
      some [some (.string f.filename), some (.string f.status)] :=
    @record?_append [] [("filename", .string f.filename), ("status", .string f.status)] (by simp) (by simp)
  rw [ChangedFile.ofJson?, hrecord]
  rfl

/-- A good answer with some files. -/
def filesAnswer (files : List ChangedFile) : Response := ⟨200, compact (.array (files.map fileJson))⟩

theorem reads_file (f : ChangedFile) : Reads fileReply (compactChars (fileJson f)) (f.filename, f.status) :=
  .record2 "ChangedFile" (by decide) (reads_text f.filename) (reads_text f.status)

/-- The files on a page are read back from the text that a service writes. -/
theorem filesReply_written (files : List ChangedFile) :
    Shape.ofText filesReply (compact (.array (files.map fileJson))) =
      .ok (files.map fun f => (f.filename, f.status)) := by
  let write (p : String × String) : Json := fileJson ⟨p.1, p.2⟩
  have hread : Reads filesReply
      (compactChars (.array ((files.map fun f => (f.filename, f.status)).map write)))
      (files.map fun f => (f.filename, f.status)) :=
    .list fun p _ => reads_file ⟨p.1, p.2⟩
  rw [List.map_map] at hread
  exact hread.ofText

theorem filesIn_filesAnswer (files : List ChangedFile) : filesIn (.ok (filesAnswer files)) = .ok files := by
  have htext : textIn (.ok (filesAnswer files)) = .ok (compact (.array (files.map fileJson))) := rfl
  have hread : readReply filesReply (compact (.array (files.map fileJson))) =
      .ok (files.map fun f => (f.filename, f.status)) := by
    rw [readReply, filesReply_written]
    rfl
  unfold filesIn
  rw [htext, ok_bind, hread, ok_bind, List.map_map]
  exact congrArg Except.ok (List.map_id files)

end GithubClient

/-! ## Runs -/

section
variable {σ α β : Type}

/-- The outcome of requests that are noted down, with the requests and the state of the service. -/
def runNoted (x : ExceptT RemoteError (StateT (List Request) (StateM σ)) α) (asked : List Request) (s : σ) :
    (Except RemoteError α × List Request) × σ :=
  ((x.run.run asked).run s).run

/-- What a service answers to a request, and the state that it is in then. -/
def served (fetch : Fetch (StateM σ)) (r : Request) (s : σ) : Except RemoteError Response × σ :=
  ((fetch r).run s).run

/-- What a service answers to some requests, one after another, and the state that it is in then. -/
def servedAll (fetch : Fetch (StateM σ)) (requests : List Request) (s : σ) :
    List (Except RemoteError Response) × σ :=
  ((requests.mapM fetch).run s).run

theorem servedAll_cons (fetch : Fetch (StateM σ)) (r : Request) (rs : List Request) (s : σ) :
    servedAll fetch (r :: rs) s =
      ((served fetch r s).1 :: (servedAll fetch rs (served fetch r s).2).1,
        (servedAll fetch rs (served fetch r s).2).2) := by
  rw [servedAll, List.mapM_cons]
  rfl

theorem runNoted_bind (x : ExceptT RemoteError (StateT (List Request) (StateM σ)) α)
    (f : α → ExceptT RemoteError (StateT (List Request) (StateM σ)) β) (asked : List Request) (s : σ) :
    runNoted (x >>= f) asked s =
      match runNoted x asked s with
      | ((.ok a, asked'), s') => runNoted (f a) asked' s'
      | ((.error e, asked'), s') => ((.error e, asked'), s') := by
  unfold runNoted
  rw [ExceptT.run_bind, StateT.run_bind, StateT.run_bind, Id.run_bind]
  rcases ((x.run.run asked).run s).run with ⟨⟨_ | _, _⟩, _⟩ <;> rfl

end

section
variable {σ : Type} (c : GithubClient) (fetch : Fetch (StateM σ)) (pr : PullRequest) {files : Url}

theorem exchange_run {r : Request} (hsend : r.isSendable = true) (asked : List Request) (s : σ) :
    runNoted (exchange fetch.noted "github" r) asked s =
      ((GithubClient.textIn (served fetch r s).1, asked ++ [r]), (served fetch r s).2) := by
  have hfetch : runNoted (ExceptT.mk (fetch.noted r)) asked s =
      (((served fetch r s).1, asked ++ [r]), (served fetch r s).2) := rfl
  unfold exchange
  rw [if_neg (by simp [hsend]), runNoted_bind, hfetch]
  cases (served fetch r s).1 with
  | error e => rfl
  | ok answer =>
    show runNoted (if answer.isSuccess = true then _ else _) _ _ =
      ((if answer.isSuccess = true then _ else _, _), _)
    split_ifs <;> rfl

/-- A page takes one request. -/
theorem filePage_run (haddress : c.pullAddress pr ["files"] = .ok files) (page : Nat)
    (hsend : (c.pageRequest files page).isSendable = true) (asked : List Request) (s : σ) :
    runNoted (c.filePage fetch.noted pr page) asked s =
      ((GithubClient.filesIn (served fetch (c.pageRequest files page) s).1,
        asked ++ [c.pageRequest files page]), (served fetch (c.pageRequest files page) s).2) := by
  have hurl : c.pageAddress pr page = .ok (c.pageRequest files page).url := by
    rw [GithubClient.pageAddress, haddress]
    rfl
  have hreply : c.getReply fetch.noted GithubClient.filesReply (c.pageAddress pr page) =
      (exchange fetch.noted "github" (c.pageRequest files page) >>= fun text =>
        ExceptT.mk (pure (GithubClient.readReply GithubClient.filesReply text))) := by
    rw [hurl]
    rfl
  unfold GithubClient.filePage GithubClient.filesIn
  rw [hreply, runNoted_bind, runNoted_bind, exchange_run fetch hsend]
  cases GithubClient.textIn (served fetch (c.pageRequest files page) s).1 with
  | error e => rfl
  | ok text =>
    have hread (asked : List Request) (s : σ) :
        runNoted (ExceptT.mk (pure (GithubClient.readReply GithubClient.filesReply text))) asked s =
          ((GithubClient.readReply GithubClient.filesReply text, asked), s) := rfl
    dsimp only
    rw [hread]
    show _ = (((GithubClient.readReply GithubClient.filesReply text >>= _), _), _)
    cases GithubClient.readReply GithubClient.filesReply text <;> rfl

/-! ## Listings -/

/-- The requests of some pages in a row. -/
def pageRequests (c : GithubClient) (files : Url) (first count : Nat) : List Request :=
  (List.range' first count).map (c.pageRequest files)

/-- A service has a listing in pages: the answer to the request of a page holds the items on it. -/
def Serves (c : GithubClient) (files : Url) (fetch : Fetch (StateM σ)) (items : List ChangedFile) : Prop :=
  ∀ page, 1 ≤ page → page ≤ pagesAsked items.length → ∀ s,
    GithubClient.filesIn (served fetch (c.pageRequest files page) s).1 = .ok (pageOf items page)

/-- A service has a listing in pages, but the request of a page may also fail. -/
def MayServe (c : GithubClient) (files : Url) (fetch : Fetch (StateM σ)) (items : List ChangedFile) : Prop :=
  ∀ page, 1 ≤ page → page ≤ pagesAsked items.length → ∀ s,
    let read := GithubClient.filesIn (served fetch (c.pageRequest files page) s).1
    read = .ok (pageOf items page) ∨ ∃ e, read = .error e

theorem Serves.mayServe {c : GithubClient} {fetch : Fetch (StateM σ)} {items : List ChangedFile}
    (h : Serves c files fetch items) : MayServe c files fetch items :=
  fun page hfirst hlast s => .inl (h page hfirst hlast s)

/-- How the pages that were asked for come to the outcome of a listing, where `last` pages hold all of its
items: a page that fails is the last one. -/
inductive Listed {α : Type} (items : List α) (last : Nat) :
    List (Except RemoteError (List α)) → Except RemoteError (List α) → Prop
  | all (pages : List (List α)) (h : pages.length = last) : Listed items last (pages.map .ok) (.ok items)
  | failed (pages : List (List α)) (h : pages.length < last) (e : RemoteError) :
    Listed items last (pages.map .ok ++ [.error e]) (.error e)

theorem Listed.cons {α : Type} {items : List α} {last : Nat} {pages : List (Except RemoteError (List α))}
    {outcome : Except RemoteError (List α)} (h : Listed items last pages outcome) (page : List α) :
    Listed (page ++ items) (last + 1) (.ok page :: pages) (outcome.map (page ++ ·)) := by
  cases h with
  | all pages h => exact .all (page :: pages) (by rw [List.length_cons, h])
  | failed pages h e => exact .failed (page :: pages) (by rw [List.length_cons]; omega) e

theorem Listed.length_le {α : Type} {items : List α} {last : Nat}
    {pages : List (Except RemoteError (List α))} {outcome : Except RemoteError (List α)}
    (h : Listed items last pages outcome) : pages.length ≤ last := by
  cases h with
  | all pages h => exact Nat.le_of_eq (by rw [List.length_map, h])
  | failed pages h e =>
    rw [List.length_append, List.length_map]
    exact h

theorem Listed.eq_ok {α : Type} {items : List α} {last : Nat} {pages : List (Except RemoteError (List α))}
    {outcome : Except RemoteError (List α)} (h : Listed items last pages outcome)
    (hok : ∀ e, .error e ∉ pages) : outcome = .ok items ∧ pages.length = last := by
  cases h with
  | all pages h => exact ⟨rfl, by rw [List.length_map, h]⟩
  | failed pages h e => exact absurd (List.mem_append_right _ (List.mem_singleton_self _)) (hok e)

theorem pageRequests_succ (first count : Nat) :
    pageRequests c files first (count + 1) =
      c.pageRequest files first :: pageRequests c files (first + 1) count := by
  rw [pageRequests, List.range'_succ, List.map_cons, pageRequests]

section
variable {α : Type} {page : Nat → ExceptT RemoteError (StateT (List Request) (StateM σ)) (List α)}
  {count first : Nat} {asked noted : List Request} {s s' : σ} {items : List α}

theorem pagesFrom_error {e : RemoteError} (h : runNoted (page first) asked s = ((.error e, noted), s')) :
    runNoted (pagesFrom page (count + 1) first) asked s = ((.error e, noted), s') := by
  unfold pagesFrom
  rw [runNoted_bind, h]

theorem pagesFrom_short (h : runNoted (page first) asked s = ((.ok items, noted), s'))
    (hshort : items.length < pageSize) :
    runNoted (pagesFrom page (count + 1) first) asked s = ((.ok items, noted), s') := by
  unfold pagesFrom
  rw [runNoted_bind, h]
  dsimp only
  rw [if_pos hshort]
  rfl

theorem pagesFrom_full (h : runNoted (page first) asked s = ((.ok items, noted), s'))
    (hfull : ¬items.length < pageSize) :
    runNoted (pagesFrom page (count + 1) first) asked s =
      let more := runNoted (pagesFrom page count (first + 1)) noted s'
      ((more.1.1.map (items ++ ·), more.1.2), more.2) := by
  rw [pagesFrom, runNoted_bind, h]
  dsimp only
  rw [if_neg hfull, runNoted_bind]
  rcases runNoted (pagesFrom page count (first + 1)) noted s' with ⟨⟨_ | _, _⟩, _⟩ <;> rfl

end

/-- The induction is on the number of pages that may still be asked for. -/
theorem pagesFrom_run {items : List ChangedFile} (haddress : c.pullAddress pr ["files"] = .ok files)
    (hsend : ∀ page, (c.pageRequest files page).isSendable = true) (serves : MayServe c files fetch items)
    (count first : Nat) (hfirst : 1 ≤ first) (hcount : first + count ≤ maxPages + 1)
    (hreach : pageSize * (first - 1) ≤ items.length) (asked : List Request) (s : σ) :
    let left := items.drop (pageSize * (first - 1))
    ∃ taken outcome,
      runNoted (pagesFrom (c.filePage fetch.noted pr) count first) asked s =
        ((outcome, asked ++ pageRequests c files first taken),
          (servedAll fetch (pageRequests c files first taken) s).2) ∧
      Listed (left.take (pageSize * count)) (min count (left.length / pageSize + 1))
        ((servedAll fetch (pageRequests c files first taken) s).1.map GithubClient.filesIn) outcome := by
  induction count generalizing first asked s with
  | zero =>
    intro left
    refine ⟨0, .ok [], ?_, ?_⟩
    · show _ = ((_, asked ++ []), _)
      rw [List.append_nil]
      rfl
    · rw [Nat.mul_zero, List.take_zero, Nat.zero_min]
      exact .all [] rfl
  | succ count ih =>
    intro left
    have hpage := filePage_run c fetch pr haddress first (hsend first) asked s
    have hone : pageRequests c files first 1 = [c.pageRequest files first] := rfl
    have hserved : servedAll fetch [c.pageRequest files first] s =
        ([(served fetch (c.pageRequest files first) s).1], (served fetch (c.pageRequest files first) s).2) := rfl
    have hasked : first ≤ pagesAsked items.length := by
      unfold pagesAsked
      unfold pageSize at hreach ⊢
      omega
    rcases serves first hfirst hasked s with hok | ⟨e, herror⟩
    · have hitems : pageOf items first = left.take pageSize := rfl
      rw [hok, hitems] at hpage
      rw [hitems] at hok
      by_cases hshort : left.length < pageSize
      · -- A page that is not full is the last one.
        have hall : left.take pageSize = left := List.take_of_length_le (by omega)
        rw [hall] at hpage hok
        refine ⟨1, .ok left, ?_, ?_⟩
        · rw [pagesFrom_short hpage hshort, hone, hserved]
        · rw [hone, hserved, List.take_of_length_le (by rw [Nat.mul_succ]; omega), Nat.div_eq_of_lt hshort,
            List.map_singleton, hok]
          exact .all [left] (by simp)
      · -- Behind a full page stands what the pages from the next one on come to.
        have hnext : pageSize * (first + 1 - 1) = pageSize * (first - 1) + pageSize := by
          rw [← Nat.mul_succ, Nat.succ_eq_add_one, Nat.sub_add_cancel hfirst, Nat.add_sub_cancel]
        have hlength : left.length = items.length - pageSize * (first - 1) := List.length_drop
        obtain ⟨taken, outcome, hrun, hlisted⟩ := ih (first + 1) (by omega) (by omega) (by omega)
          (asked ++ [c.pageRequest files first]) (served fetch (c.pageRequest files first) s).2
        have hleft : items.drop (pageSize * (first + 1 - 1)) = left.drop pageSize := by
          rw [hnext, ← List.drop_drop]
        rw [hleft] at hlisted
        have hfull : ¬(left.take pageSize).length < pageSize := by
          rw [List.length_take]
          omega
        refine ⟨taken + 1, outcome.map (left.take pageSize ++ ·), ?_, ?_⟩
        · rw [pagesFrom_full hpage hfull, hrun, pageRequests_succ, servedAll_cons, List.append_assoc]
          rfl
        · rw [pageRequests_succ, servedAll_cons, List.map_cons, hok]
          have hcons := hlisted.cons (left.take pageSize)
          have hlast : min count ((left.drop pageSize).length / pageSize + 1) + 1 =
              min (count + 1) (left.length / pageSize + 1) := by
            rw [List.length_drop]
            unfold pageSize at hshort ⊢
            omega
          rwa [hlast, ← List.take_add, Nat.add_comm, ← Nat.mul_succ] at hcons
    · rw [herror] at hpage
      refine ⟨1, .error e, ?_, ?_⟩
      · rw [pagesFrom_error hpage, hone, hserved]
      · rw [hone, hserved, List.map_singleton, herror]
        exact .failed [] (by simp) e

theorem exists_served {requests : List Request} {s : σ} {answer : Except RemoteError Response}
    (h : answer ∈ (servedAll fetch requests s).1) : ∃ r ∈ requests, ∃ s', answer = (served fetch r s').1 := by
  induction requests generalizing s with
  | nil => cases h
  | cons r rs ih =>
    rw [servedAll_cons] at h
    rcases List.mem_cons.1 h with rfl | h
    · exact ⟨r, List.mem_cons_self, s, rfl⟩
    · obtain ⟨r', hr', s', rfl⟩ := ih h
      exact ⟨r', List.mem_cons_of_mem r hr', s', rfl⟩

theorem length_servedAll (requests : List Request) (s : σ) :
    (servedAll fetch requests s).1.length = requests.length := by
  induction requests generalizing s with
  | nil => rfl
  | cons r rs ih => rw [servedAll_cons, List.length_cons, List.length_cons, ih]

/-- Of a listing that a service has in pages of a hundred, the first three thousand items are had, all in
order, by the requests of page one, page two and so on up to the first page that is not full, or to page
thirty. Where the request of a page fails, it is the last one, and its error is all that is had. -/
theorem listFiles_pages (items : List ChangedFile) (haddress : c.pullAddress pr ["files"] = .ok files)
    (hsend : (c.pageRequest files 1).isSendable = true) (asked : List Request) (s : σ) :
    let last := min 30 (items.length / 100 + 1)
    let listed := runNoted (c.listFiles fetch.noted pr) asked s
    (Serves c files fetch items →
      listed.1 = (.ok (items.take 3000), asked ++ pageRequests c files 1 last)) ∧
    (MayServe c files fetch items →
      ∃ taken,
        let answers := servedAll fetch (pageRequests c files 1 taken) s
        listed.1.2 = asked ++ pageRequests c files 1 taken ∧ listed.2 = answers.2 ∧
          Listed (items.take 3000) last (answers.1.map GithubClient.filesIn) listed.1.1) := by
  intro last listed
  have hsent (page : Nat) : (c.pageRequest files page).isSendable = true := by
    rw [c.isSendable_pageRequest files page 1, hsend]
  have hrun (serves : MayServe c files fetch items) :
      ∃ taken, listed.1.2 = asked ++ pageRequests c files 1 taken ∧
        listed.2 = (servedAll fetch (pageRequests c files 1 taken) s).2 ∧
        Listed (items.take 3000) last
          ((servedAll fetch (pageRequests c files 1 taken) s).1.map GithubClient.filesIn) listed.1.1 := by
    obtain ⟨taken, outcome, hlisting, hlisted⟩ :=
      pagesFrom_run c fetch pr haddress hsent serves maxPages 1 (Nat.le_refl 1)
        (Nat.le_of_eq (Nat.add_comm 1 maxPages)) (Nat.zero_le _) asked s
    have hlisting' : listed = _ := hlisting
    rw [hlisting']
    exact ⟨taken, rfl, rfl, hlisted⟩
  refine ⟨fun serves => ?_, hrun⟩
  obtain ⟨taken, hasked, -, hlisted⟩ := hrun serves.mayServe
  have hlength : ((servedAll fetch (pageRequests c files 1 taken) s).1.map GithubClient.filesIn).length = taken := by
    rw [List.length_map, length_servedAll, pageRequests, List.length_map, List.length_range']
  have htaken : taken ≤ pagesAsked items.length := by
    have hle := hlisted.length_le
    rwa [hlength] at hle
  have hok (e : RemoteError) :
      .error e ∉ (servedAll fetch (pageRequests c files 1 taken) s).1.map GithubClient.filesIn := by
    intro h
    obtain ⟨answer, hanswer, heq⟩ := List.mem_map.1 h
    obtain ⟨r, hr, s', rfl⟩ := exists_served fetch hanswer
    obtain ⟨page, hpage, rfl⟩ := List.mem_map.1 hr
    rw [List.mem_range'_1] at hpage
    rw [serves page hpage.1 (by omega) s'] at heq
    cases heq
  obtain ⟨houtcome, hlast⟩ := hlisted.eq_ok hok
  rw [hlength] at hlast
  rw [← hlast, ← hasked, ← houtcome]

/-! ## A service -/

/-- A listing of two full pages and nothing more. -/
def twoFullPages : List ChangedFile :=
  (List.range 200).map fun i => ⟨"f" ++ toString i ++ ".ts", "modified"⟩

def shopClient : GithubClient where
  base := { scheme := "https", host := some (.name "localhost"), route := .segments [""] }
  token := "t"

/-- Where the files of request 7 stand. -/
def shopFiles : Url :=
  { shopClient.base with route := .segments ["repos", "acme", "shop", "pulls", "7", "files"] }

/-- A service that has the listing, and fails at the requests with some numbers. -/
def shopService (failures : List Nat) : Fetch (StateM Nat) := fun r => do
  let n ← get
  set (n + 1)
  let page := (List.range' 1 3).find? fun page => r.url.query == some ("per_page=100&page=" ++ toString page)
  pure (if failures.contains n then .ok ⟨502, "bad gateway"⟩
    else .ok (GithubClient.filesAnswer (pageOf twoFullPages (page.getD 0))))

theorem served_shopService (failures : List Nat) {page : Nat} (hfirst : 1 ≤ page) (hlast : page ≤ 3)
    (n : Nat) :
    GithubClient.filesIn (served (shopService failures) (shopClient.pageRequest shopFiles page) n).1 =
      if failures.contains n then .error (.status "github" 502 "bad gateway")
      else .ok (pageOf twoFullPages page) := by
  have hpage : ∀ page < 4, 1 ≤ page →
      ((List.range' 1 3).find? fun other =>
        (shopClient.pageRequest shopFiles page).url.query ==
          some ("per_page=100&page=" ++ toString other)) = some page := by
    decide +kernel
  have hserved : (served (shopService failures) (shopClient.pageRequest shopFiles page) n).1 =
      if failures.contains n then .ok ⟨502, "bad gateway"⟩
      else .ok (GithubClient.filesAnswer (pageOf twoFullPages
        (((List.range' 1 3).find? fun other =>
          (shopClient.pageRequest shopFiles page).url.query ==
            some ("per_page=100&page=" ++ toString other)).getD 0))) := rfl
  rw [hserved, hpage page (Nat.lt_succ_of_le hlast) hfirst]
  split_ifs
  · rfl
  · exact GithubClient.filesIn_filesAnswer _

/-- What comes of listing the files of request 7. -/
def shopListed (failures : List Nat) : (Except RemoteError (List ChangedFile) × List Request) × Nat :=
  runNoted (shopClient.listFiles (shopService failures).noted ⟨"acme", "shop", 7⟩) [] 0

/-- Two full pages take three requests, the last one for an empty page; the second request may fail. -/
theorem listFiles_pages_shop :
    Serves shopClient shopFiles (shopService []) twoFullPages ∧
      (shopListed []).1 = (.ok twoFullPages, pageRequests shopClient shopFiles 1 3) ∧
      MayServe shopClient shopFiles (shopService [1]) twoFullPages ∧
      ∃ taken,
        let answers := servedAll (shopService [1]) (pageRequests shopClient shopFiles 1 taken) 0
        (shopListed [1]).1.2 = pageRequests shopClient shopFiles 1 taken ∧ (shopListed [1]).2 = answers.2 ∧
          Listed twoFullPages 3 (answers.1.map GithubClient.filesIn) (shopListed [1]).1.1 := by
  have haddress : shopClient.pullAddress ⟨"acme", "shop", 7⟩ ["files"] = .ok shopFiles := by decide +kernel
  have hsend : (shopClient.pageRequest shopFiles 1).isSendable = true := by decide +kernel
  have hlength : twoFullPages.length = 200 := by rw [twoFullPages, List.length_map, List.length_range]
  have htake : twoFullPages.take 3000 = twoFullPages := List.take_of_length_le (by omega)
  have hlast : min 30 (200 / 100 + 1) = 3 := by decide
  have hasked : pagesAsked twoFullPages.length = 3 := by rw [hlength, pagesAsked]; rfl
  have serves : Serves shopClient shopFiles (shopService []) twoFullPages :=
    fun page hfirst hpage n => served_shopService [] hfirst (hasked ▸ hpage) n
  have mayServe : MayServe shopClient shopFiles (shopService [1]) twoFullPages := by
    intro page hfirst hpage n read
    have hread : read = _ := served_shopService [1] hfirst (hasked ▸ hpage) n
    rw [hread]
    split_ifs
    · exact .inr ⟨_, rfl⟩
    · exact .inl rfl
  have hpages (failures : List Nat) :=
    listFiles_pages shopClient (shopService failures) ⟨"acme", "shop", 7⟩ twoFullPages haddress hsend [] 0
  simp only [hlength, htake, hlast, List.nil_append] at hpages
  unfold shopListed
  exact ⟨serves, (hpages []).1 serves, mayServe, (hpages [1]).2 mayServe⟩

end

end Fanout
