import Fanout.Proofs.Path.Extensions
import Fanout.Proofs.Remote.Percent
import Fanout.Remote.Github

/-!
# Addresses of files

* `sentSegments`, `sentPairs` : the segments and the query of what a request asks for, read from its text;
* `Url.IsPath`, `Url.isPath_of_ofText` : segments that can be told apart in a text, as all of a read address can;
* `Url.sentSegments_target`, `Url.sentPairs_target` : what is read from a text is what the address has;
* `decode_of_isDot`, `decode_of_isDoubleDot` : segments that are resolved are written forms of dots;
* `contentAddress_faithful` : the address of a file has the segments of the base and of the file, and the reference
  as its only pair, so that files with one address are one file;
* `not_forall_withoutEmptyEnd` : a base with a single empty segment before its end has none in addresses.
-/

namespace Fanout
open Fanout.Path Percent Text

/-- The bytes of a text. -/
def bytesOf (s : String) : List UInt8 := Utf8.encode s.toList

theorem bytesOf_inj {s t : String} : bytesOf s = bytesOf t ↔ s = t := by
  refine ⟨fun h => String.toList_inj.1 ?_, congrArg bytesOf⟩
  have hdecode := congrArg Utf8.decode h
  rw [bytesOf, bytesOf, Utf8.decode_encode, Utf8.decode_encode] at hdecode
  exact Except.ok.inj hdecode

/-! ## What is sent -/

/-- The segments of the path that a request asks for, as they are written. -/
def sentSegments (target : String) : List (List Char) := pieces ((target.toList.takeWhile (· != '?')).drop 1)

/-- The pairs of a query. -/
def pairsOf (query : List Char) : List (List UInt8 × List UInt8) :=
  ((splitAt (· == '&') query).filter fun pair => !pair.isEmpty).map fun pair =>
    (decodeForm (pair.takeWhile (· != '=')), decodeForm ((pair.dropWhile (· != '=')).drop 1))

/-- The pairs of the query that a request asks for. -/
def sentPairs (target : String) : List (List UInt8 × List UInt8) :=
  pairsOf ((target.toList.dropWhile (· != '?')).drop 1)

/-- Segments without an empty last one. -/
def withoutEmptyEnd (segments : List (List Char)) : List (List Char) :=
  if segments.getLast? = some [] then segments.dropLast else segments

/-- The segments of a base that stand in addresses below it. A single empty one that is left does not. -/
def keptSegments (segments : List (List Char)) : List (List Char) :=
  if withoutEmptyEnd segments = [[]] then [] else withoutEmptyEnd segments

namespace Url

/-- Segments that can be told apart where they are written one behind the other. -/
structure IsPath (parts : List String) : Prop where
  nonempty : parts ≠ []
  slash : ∀ p ∈ parts, '/' ∉ p.toList
  mark : ∀ p ∈ parts, '?' ∉ p.toList

theorem mem_intercalate {sep c : Char} {ps : List (List Char)} (h : c ∈ [sep].intercalate ps) :
    c = sep ∨ ∃ p ∈ ps, c ∈ p := by
  induction ps with
  | nil => exact absurd h List.not_mem_nil
  | cons p ps ih =>
    cases ps with
    | nil =>
      rw [List.intercalate_singleton] at h
      exact .inr ⟨p, List.mem_cons_self, h⟩
    | cons q ps =>
      rw [List.intercalate_cons_cons] at h
      rcases List.mem_append.1 h with h | h
      · rcases List.mem_append.1 h with h | h
        · exact .inr ⟨p, List.mem_cons_self, h⟩
        · exact .inl (List.mem_singleton.1 h)
      · exact (ih h).imp_right fun ⟨r, hr, hc⟩ => ⟨r, List.mem_cons_of_mem _ hr, hc⟩

/-- The path of an address ends where its query begins. -/
theorem IsPath.ne_mark {parts : List String} (h : IsPath parts) :
    ∀ c ∈ '/' :: ("/".intercalate parts).toList, (c != '?') = true := by
  intro c hc
  rw [bne_iff_ne]
  rintro rfl
  rw [String.toList_intercalate] at hc
  rcases List.mem_cons.1 hc with hc | hc
  · exact absurd hc (by decide)
  · rcases mem_intercalate hc with hc | ⟨l, hl, hmark⟩
    · exact absurd hc (by decide)
    · obtain ⟨p, hp, rfl⟩ := List.mem_map.1 hl
      exact h.mark p hp hmark

theorem toList_target {u : Url} {parts : List String} (hroute : u.route = .segments parts) :
    u.target.toList = ('/' :: ("/".intercalate parts).toList) ++ u.queryText.toList := by
  rw [target, hroute]
  simp only [String.toList_append]
  rfl

theorem sentSegments_target {u : Url} {parts : List String} (hroute : u.route = .segments parts) (h : IsPath parts) :
    sentSegments u.target = parts.map String.toList := by
  have hquery : u.queryText.toList.takeWhile (· != '?') = [] := by
    rw [queryText]
    cases u.query with
    | none => rfl
    | some q => rw [Option.elim_some, String.toList_append]; rfl
  rw [sentSegments, toList_target hroute, List.takeWhile_append_of_pos h.ne_mark, hquery, List.append_nil,
    List.drop_one, List.tail_cons, String.toList_intercalate]
  refine pieces_intercalate ?_ (by simpa using h.nonempty)
  exact List.forall_mem_map.2 h.slash

theorem sentPairs_target {u : Url} {parts : List String} {query : String} (hroute : u.route = .segments parts)
    (h : IsPath parts) (hquery : u.query = some query) : sentPairs u.target = pairsOf query.toList := by
  have htext : u.queryText.toList = '?' :: query.toList := by
    rw [queryText, hquery, Option.elim_some, String.toList_append]
    rfl
  rw [sentPairs, toList_target hroute, List.dropWhile_append_of_pos h.ne_mark, htext,
    List.dropWhile_cons_of_neg (by decide), List.drop_one, List.tail_cons]

theorem stem_eq (parts : List String) : (stem parts).map String.toList = keptSegments (parts.map String.toList) := by
  have hempty (s : String) : s.toList = [] ↔ s = "" := String.toList_eq_nil_iff
  have hopen : (openEnd parts).map String.toList = withoutEmptyEnd (parts.map String.toList) := by
    have hlast : parts.getLast? = some "" ↔ (parts.map String.toList).getLast? = some [] := by
      rw [List.getLast?_map]
      cases parts.getLast? <;> simp
    unfold openEnd withoutEmptyEnd
    by_cases h : parts.getLast? = some ""
    · rw [if_pos (by simpa using h), if_pos (hlast.1 h), List.map_dropLast]
    · rw [if_neg (by simpa using h), if_neg fun h' => h (hlast.2 h')]
  unfold stem keptSegments
  rw [← hopen]
  split
  · rename_i h
    rw [h]
    rfl
  · rename_i h
    rw [if_neg]
    intro hsingle
    obtain ⟨s, hs, hnil⟩ : ∃ s, openEnd parts = [s] ∧ s.toList = [] := by
      simpa [List.map_eq_singleton_iff] using hsingle
    exact h (by rw [hs, (hempty s).1 hnil])

theorem stem_subset (parts : List String) : ∀ p ∈ stem parts, p ∈ parts := by
  have hopen : ∀ p ∈ openEnd parts, p ∈ parts := by
    unfold openEnd
    split
    · exact fun p hp => List.dropLast_subset parts hp
    · exact fun p hp => hp
  unfold stem
  split
  · exact fun p hp => absurd hp List.not_mem_nil
  · exact hopen

/-! ## Addresses that are read -/

theorem resolve_ne_nil {segments : List (List Char)} (h : segments ≠ []) (done : List (List Char)) :
    resolve done segments ≠ [] := by
  induction segments generalizing done with
  | nil => exact absurd rfl h
  | cons s rest ih =>
    rw [resolve]
    by_cases hrest : rest = []
    · subst hrest
      simp only [List.isEmpty_nil, if_true, resolve]
      split
      · simp
      · split <;> simp
    · exact ih hrest _

theorem mem_resolve {segments done : List (List Char)} {w : List Char} (h : w ∈ resolve done segments) :
    w = [] ∨ w ∈ done ∨ w ∈ segments := by
  induction segments generalizing done with
  | nil => exact .inr (.inl (List.mem_reverse.1 h))
  | cons s rest ih =>
    rw [resolve] at h
    rcases ih h with hw | hw | hw
    · exact .inl hw
    · have hdrop : w ∈ done.drop 1 → w ∈ done := List.mem_of_mem_drop
      split at hw
      · split at hw
        · exact (List.mem_cons.1 hw).imp_right fun hw => .inl (hdrop hw)
        · exact .inr (.inl (hdrop hw))
      · split at hw
        · split at hw
          · exact (List.mem_cons.1 hw).imp_right .inl
          · exact .inr (.inl hw)
        · exact (List.mem_cons.1 hw).elim (fun hw => .inr (.inr (hw ▸ List.mem_cons_self))) fun hw => .inr (.inl hw)
    · exact .inr (.inr (List.mem_cons_of_mem _ hw))

theorem isPath_segmentsOf (known : Bool) (cs : List Char) : IsPath (segmentsOf known cs) := by
  have hencoded {w : List Char} (hw : w ∈ resolve [] ((splitAt (isSlash known) cs).map (encode keptInPath))) :
      '/' ∉ w ∧ '?' ∉ w := by
    rcases mem_resolve hw with rfl | hw | hw
    · exact ⟨List.not_mem_nil, List.not_mem_nil⟩
    · exact absurd hw List.not_mem_nil
    · obtain ⟨piece, hpiece, rfl⟩ := List.mem_map.1 hw
      refine ⟨fun h => ?_, not_mem_encode (by decide) (by decide) piece⟩
      have hslash := not_of_mem_splitAt hpiece _ (mem_encode (by decide) h).2
      exact absurd hslash (by cases known <;> decide)
  refine ⟨?_, ?_, ?_⟩
  · have hne : splitAt (isSlash known) cs ≠ [] := by
      rw [splitAt_eq_splitOnP]
      exact List.splitOnP_ne_nil _ _
    rw [segmentsOf, ne_eq, List.map_eq_nil_iff]
    exact resolve_ne_nil (by simpa using hne) []
  all_goals
    refine List.forall_mem_map.2 fun w hw => ?_
    rw [String.toList_ofList]
  · exact (hencoded hw).1
  · exact (hencoded hw).2

theorem isPath_pathRoute (known : Bool) (cs : List Char) :
    ∃ parts, pathRoute known cs = .segments parts ∧ IsPath parts := by
  cases cs with
  | nil => exact ⟨[""], rfl, by simp, by decide, by decide⟩
  | cons c rest => exact ⟨_, rfl, isPath_segmentsOf known _⟩

theorem fromAuthority_eq_ok {known : Bool} {scheme : String} {cs : List Char} {u : Url}
    (h : fromAuthority known scheme cs = .ok u) : u.scheme = scheme ∧ ∃ path, u.route = pathRoute known path := by
  unfold fromAuthority at h
  cases hhost : hostOf known (cs.takeWhile fun c => !endsAuthority known c) with
  | error f => simp [hhost, bind, Except.bind] at h
  | ok found =>
    rw [hhost] at h
    obtain rfl := Except.ok.inj h
    exact ⟨rfl, _, rfl⟩

theorem fromFile_eq_ok {cs : List Char} {u : Url} (h : fromFile cs = .ok u) : u.scheme = "file" := by
  unfold fromFile at h
  split at h
  · split at h
    · exact (fromAuthority_eq_ok h).1
    · exact (Except.ok.inj h) ▸ rfl
  · exact (Except.ok.inj h) ▸ rfl

/-- The path of an address of the web can be added to. -/
theorem isPath_of_ofText {text : String} {u : Url} (h : ofText text = .ok u) (hweb : u.isWeb = true) :
    ∃ parts, u.route = .segments parts ∧ IsPath parts := by
  have hscheme : u.scheme = "http" ∨ u.scheme = "https" := by simpa [isWeb] using hweb
  unfold ofText at h
  split at h
  · cases h
  · rename_i scheme rest _
    split at h
    · have hfile := fromFile_eq_ok h
      rw [hfile] at hscheme
      exact absurd hscheme (by decide)
    · split at h
      · obtain ⟨-, path, hroute⟩ := fromAuthority_eq_ok h
        rw [hroute]
        exact isPath_pathRoute true path
      · rename_i hunknown
        have hother : u.scheme = scheme := by
          split at h
          · exact (fromAuthority_eq_ok h).1
          · exact (Except.ok.inj h) ▸ rfl
          · exact (Except.ok.inj h) ▸ rfl
        rw [hother] at hscheme
        rcases hscheme with rfl | rfl
        · exact absurd rfl hunknown
        · exact absurd rfl hunknown

/-! ## Dots -/

theorem lowerChar_eq_e {c : Char} (h : lowerChar c = 'e') : c = 'e' ∨ c = 'E' := by
  by_cases hupper : 'A' ≤ c ∧ c ≤ 'Z'
  · have hnat := toNat_lowerChar hupper
    rw [h] at hnat
    have he : c.toNat = 'E'.toNat := by
      show c.toNat = 69
      have : c.toNat + 32 = 101 := hnat.symm
      omega
    exact .inr (Char.toNat_inj.1 he)
  · rw [lowerChar_of_not hupper] at h
    exact .inl h

/-- The written forms of a dot. -/
theorem decode_of_isDot {w : List Char} (h : isDot w = true) (rest : List Char) :
    decode (w ++ rest) = 0x2E :: decode rest := by
  have hforms : w = ['.'] ∨ w = ['%', '2', 'e'] ∨ w = ['%', '2', 'E'] := by
    have hlower : lowerAscii w = ['.'] ∨ lowerAscii w = ['%', '2', 'e'] := by simpa [isDot] using h
    rcases hlower with hlower | hlower
    · exact .inl ((lowerAscii_eq_iff_of_all (by decide)).1 hlower)
    · obtain ⟨a, w, rfl, ha, hlower⟩ := List.map_eq_cons_iff.1 hlower
      obtain ⟨b, w, rfl, hb, hlower⟩ := List.map_eq_cons_iff.1 hlower
      obtain ⟨c, w, rfl, hc, hlower⟩ := List.map_eq_cons_iff.1 hlower
      rw [List.map_eq_nil_iff.1 hlower, (lowerChar_eq_iff (by decide)).1 ha, (lowerChar_eq_iff (by decide)).1 hb]
      rcases lowerChar_eq_e hc with rfl | rfl
      · exact .inr (.inl rfl)
      · exact .inr (.inr rfl)
  rcases hforms with rfl | rfl | rfl
  · exact decode_cons (by decide) rest
  · exact decode_digits (show hexValue? '2' = some 2 by decide) (show hexValue? 'e' = some 14 by decide) rest
  · exact decode_digits (show hexValue? '2' = some 2 by decide) (show hexValue? 'E' = some 14 by decide) rest

theorem decode_of_isDoubleDot {w : List Char} (h : isDoubleDot w = true) : decode w = [0x2E, 0x2E] := by
  obtain ⟨a, ha, hmem⟩ := List.mem_flatMap.1 (List.contains_iff_mem.1 h)
  obtain ⟨b, hb, hab⟩ := List.mem_map.1 hmem
  obtain ⟨first, second, rfl, hfirst, hsecond⟩ := List.map_eq_append_iff.1 hab.symm
  have hdot {v dot : List Char} (hv : v.map lowerChar = dot) (hdot : dot ∈ [['.'], ['%', '2', 'e']]) :
      isDot v = true := by
    rw [isDot, lowerAscii, hv]
    exact List.contains_iff_mem.2 hdot
  have hlast := decode_of_isDot (hdot hsecond hb) []
  rw [List.append_nil] at hlast
  rw [decode_of_isDot (hdot hfirst ha), hlast]
  rfl

/-! ## Pairs -/

theorem pairsOf_pair (key value : String) :
    pairsOf (formText key ++ "=" ++ formText value).toList = [(bytesOf key, bytesOf value)] := by
  have htext : (formText key ++ "=" ++ formText value).toList =
      formEncode key.toList ++ '=' :: formEncode value.toList := by
    simp only [String.toList_append, formText, String.toList_ofList, List.append_assoc]
    rfl
  have hamp : ∀ c ∈ formEncode key.toList ++ '=' :: formEncode value.toList, (c == '&') = false := by
    intro c hc
    rw [beq_eq_false_iff_ne]
    rintro rfl
    rcases List.mem_append.1 hc with hc | hc
    · exact not_mem_formEncode (by decide) (by decide) (by decide) _ hc
    · rcases List.mem_cons.1 hc with hc | hc
      · exact absurd hc (by decide)
      · exact not_mem_formEncode (by decide) (by decide) (by decide) _ hc
  have hkey : ∀ c ∈ formEncode key.toList, (c != '=') = true := by
    intro c hc
    rw [bne_iff_ne]
    rintro rfl
    exact not_mem_formEncode (by decide) (by decide) (by decide) _ hc
  have hsplit : splitAt (· == '&') (formEncode key.toList ++ '=' :: formEncode value.toList) =
      [formEncode key.toList ++ '=' :: formEncode value.toList] := by
    rw [splitAt_eq_splitOnP]
    exact List.splitOnP_eq_singleton hamp
  rw [htext, pairsOf, hsplit, List.filter_cons_of_pos (by simp), List.filter_nil, List.map_singleton,
    List.takeWhile_append_of_pos hkey, List.takeWhile_cons_of_neg (by decide), List.append_nil,
    List.dropWhile_append_of_pos hkey, List.dropWhile_cons_of_neg (by decide), List.drop_one, List.tail_cons,
    decodeForm_formEncode, decodeForm_formEncode, bytesOf, bytesOf]

end Url

/-! ## Addresses of files -/

/-- A name that stands for one step down, without characters that are left out of addresses. -/
structure IsStep (name : List Char) : Prop where
  nonempty : name ≠ []
  here : name ≠ ['.']
  up : name ≠ ['.', '.']
  unbroken : '\t' ∉ name ∧ '\n' ∉ name ∧ '\r' ∉ name

/-- A file of a repository, as code hosts name them. -/
structure IsPlace (pr : PullRequest) (path : String) : Prop where
  owner : IsStep pr.owner.toList
  repo : IsStep pr.repo.toList
  path : ∀ piece ∈ pieces path.toList, IsStep piece

/-- The segments below a base that lead to a file. -/
def placeSegments (pr : PullRequest) (path : String) : List String :=
  ["repos", pr.owner, pr.repo, "contents"] ++ (pieces path.toList).map String.ofList

namespace GithubClient
open Url

theorem isStep_of_mem_placeSegments {pr : PullRequest} {path : String} (h : IsPlace pr path) :
    ∀ s ∈ placeSegments pr path, IsStep s.toList := by
  have hrepos : IsStep "repos".toList := ⟨by decide, by decide, by decide, by decide⟩
  have hcontents : IsStep "contents".toList := ⟨by decide, by decide, by decide, by decide⟩
  have hpath : ∀ s ∈ (pieces path.toList).map String.ofList, IsStep s.toList := by
    refine List.forall_mem_map.2 fun piece hpiece => ?_
    rw [String.toList_ofList]
    exact h.path piece hpiece
  simp only [placeSegments, List.cons_append, List.nil_append, List.forall_mem_cons]
  exact ⟨hrepos, h.owner, h.repo, hcontents, hpath⟩

theorem toList_segment {s : String} (h : IsStep s.toList) :
    (Url.segment s).toList = encode keptInSegment s.toList := by
  obtain ⟨htab, hfeed, hreturn⟩ := h.unbroken
  rw [Url.segment, String.toList_ofList, List.filter_eq_self.2]
  intro c hc
  have hc : c ≠ '\t' ∧ c ≠ '\n' ∧ c ≠ '\r' :=
    ⟨fun heq => htab (heq ▸ hc), fun heq => hfeed (heq ▸ hc), fun heq => hreturn (heq ▸ hc)⟩
  simp [isLineOrTab, hc]

theorem decode_segment {s : String} (h : IsStep s.toList) : decode (Url.segment s).toList = bytesOf s := by
  rw [toList_segment h, decode_encode (by decide), bytesOf]

theorem not_isDot_segment {s : String} (h : IsStep s.toList) :
    isDot (Url.segment s).toList = false ∧ isDoubleDot (Url.segment s).toList = false := by
  have hbytes := decode_segment h
  refine ⟨Bool.eq_false_iff.2 fun hdot => ?_, Bool.eq_false_iff.2 fun hdot => ?_⟩
  · have hone := decode_of_isDot hdot []
    rw [List.append_nil, hbytes] at hone
    have hs : s = "." := bytesOf_inj.1 (hone.trans (by decide))
    exact h.here (by rw [hs]; decide)
  · have hs : s = ".." := bytesOf_inj.1 (hbytes.symm.trans ((decode_of_isDoubleDot hdot).trans (by decide)))
    exact h.up (by rw [hs]; decide)

theorem isPath_below {parts : List String} (hparts : IsPath parts) {pr : PullRequest} {path : String}
    (h : IsPlace pr path) : IsPath (stem parts ++ (placeSegments pr path).map Url.segment) := by
  have hadded {d : Char} (hd : isMark d) (hkeeps : keptInSegment d = false) :
      ∀ p ∈ (placeSegments pr path).map Url.segment, d ∉ p.toList := by
    refine List.forall_mem_map.2 fun s hs => ?_
    rw [toList_segment (isStep_of_mem_placeSegments h s hs)]
    exact not_mem_encode hd hkeeps _
  refine ⟨by simp [placeSegments], ?_, ?_⟩
  · refine List.forall_mem_append.2 ⟨fun p hp => ?_, hadded (by decide) (by decide)⟩
    exact hparts.slash p (stem_subset parts p hp)
  · refine List.forall_mem_append.2 ⟨fun p hp => ?_, hadded (by decide) (by decide)⟩
    exact hparts.mark p (stem_subset parts p hp)

theorem contentAddress_eq {c : GithubClient} {parts : List String} (hroute : c.base.route = .segments parts)
    (hquery : c.base.query = none) {pr : PullRequest} {path : String} (h : IsPlace pr path) (ref : String) :
    c.contentAddress pr path ref = .ok { c.base with
      route := .segments (stem parts ++ (placeSegments pr path).map Url.segment)
      query := some (formText "ref" ++ "=" ++ formText ref) } := by
  have hpieces : pathPieces path = (pieces path.toList).map String.ofList := by
    rw [pathPieces, List.filter_eq_self.2]
    intro piece hpiece
    simpa using (h.path piece hpiece).nonempty
  have hkept : (placeSegments pr path).filter (fun s => s != "." && s != "..") = placeSegments pr path := by
    rw [List.filter_eq_self]
    intro s hs
    have hstep := isStep_of_mem_placeSegments h s hs
    have hhere : s ≠ "." := fun heq => hstep.here (by rw [heq]; decide)
    have hup : s ≠ ".." := fun heq => hstep.up (by rw [heq]; decide)
    simp [hhere, hup]
  rw [contentAddress, hpieces, ← placeSegments, address, extend?, hroute]
  dsimp only
  rw [hkept]
  show Except.ok (Url.addQuery _ "ref" ref) = _
  rw [Url.addQuery, hquery]

variable {base token : String} {c : GithubClient}

theorem isPath_of_create (hc : GithubClient.create base token = .ok c) (hweb : c.base.isWeb = true) :
    ∃ parts, c.base.route = .segments parts ∧ IsPath parts := by
  unfold create at hc
  cases hbase : Url.ofText base with
  | error f =>
    rw [hbase] at hc
    cases hc
  | ok url =>
    rw [hbase] at hc
    obtain rfl := Except.ok.inj hc
    exact isPath_of_ofText hbase hweb

/-- What a request for a file asks for: the segments of the base, those of the file, none of which is resolved as
a dot, and the reference as the only pair. -/
structure Leads (c : GithubClient) (pr : PullRequest) (path ref : String) (url : Url) : Prop where
  base : { url with route := c.base.route, query := c.base.query } = c.base
  segments : ∃ added, sentSegments url.target = keptSegments (sentSegments c.base.target) ++ added ∧
    added.map decode = (placeSegments pr path).map bytesOf ∧
    ∀ w ∈ added, isDot w = false ∧ isDoubleDot w = false
  pairs : sentPairs url.target = [(bytesOf "ref", bytesOf ref)]

theorem leads_contentAddress (hc : GithubClient.create base token = .ok c) (hweb : c.base.isWeb = true)
    (hquery : c.base.query = none) {pr : PullRequest} {path : String} (h : IsPlace pr path) (ref : String) :
    ∃ url, c.contentAddress pr path ref = .ok url ∧ Leads c pr path ref url := by
  obtain ⟨parts, hroute, hparts⟩ := isPath_of_create hc hweb
  have hsteps := isStep_of_mem_placeSegments h
  have hdecode : ∀ s ∈ placeSegments pr path, (decode ∘ fun s => (Url.segment s).toList) s = bytesOf s := by
    intro s hs
    rw [Function.comp_apply]
    exact decode_segment (hsteps s hs)
  have hdots : ∀ s ∈ placeSegments pr path,
      isDot (Url.segment s).toList = false ∧ isDoubleDot (Url.segment s).toList = false :=
    fun s hs => not_isDot_segment (hsteps s hs)
  refine ⟨_, contentAddress_eq hroute hquery h ref, rfl, ?_, ?_⟩
  · refine ⟨(placeSegments pr path).map fun s => (Url.segment s).toList, ?_, ?_, List.forall_mem_map.2 hdots⟩
    · rw [sentSegments_target rfl (isPath_below hparts h), sentSegments_target hroute hparts, List.map_append,
        stem_eq, List.map_map]
      rfl
    · rw [List.map_map]
      exact List.map_congr_left hdecode
  · rw [sentPairs_target rfl (isPath_below hparts h) rfl, pairsOf_pair]

/-- Nothing but the place and the reference makes an address. -/
theorem Leads.eq_of_target {pr pr' : PullRequest} {path path' ref ref' : String} {url url' : Url}
    (h : Leads c pr path ref url) (h' : Leads c pr' path' ref' url') (htarget : url.target = url'.target) :
    pr.owner = pr'.owner ∧ pr.repo = pr'.repo ∧ path = path' ∧ ref = ref' := by
  obtain ⟨added, hsegments, hadded, -⟩ := h.segments
  obtain ⟨added', hsegments', hadded', -⟩ := h'.segments
  rw [htarget, hsegments'] at hsegments
  have hsame := List.append_cancel_left hsegments
  rw [hsame, hadded] at hadded'
  have hplaces : placeSegments pr path = placeSegments pr' path' :=
    List.map_injective_iff.2 (fun _ _ => bytesOf_inj.1) hadded'
  simp only [placeSegments, List.cons_append, List.nil_append, List.cons.injEq, true_and] at hplaces
  obtain ⟨howner, hrepo, hpath⟩ := hplaces
  have hpieces : pieces path.toList = pieces path'.toList :=
    List.map_injective_iff.2 (fun _ _ => String.ofList_inj.1) hpath
  have hpairs := h.pairs
  rw [htarget, h'.pairs, List.cons.injEq, Prod.mk.injEq] at hpairs
  refine ⟨howner, hrepo, String.toList_inj.1 ?_, (bytesOf_inj.1 hpairs.1.2).symm⟩
  rw [← intercalate_pieces path.toList, hpieces, intercalate_pieces]

/-- The address of a file below a base of the web leads to the file and to no other. -/
theorem contentAddress_faithful (hc : GithubClient.create base token = .ok c) (hweb : c.base.isWeb = true)
    (hquery : c.base.query = none) :
    (∀ pr path ref, IsPlace pr path → ∃ url, c.contentAddress pr path ref = .ok url ∧ Leads c pr path ref url) ∧
      ∀ pr path ref pr' path' ref' url url', IsPlace pr path → IsPlace pr' path' →
        c.contentAddress pr path ref = .ok url → c.contentAddress pr' path' ref' = .ok url' →
        url.target = url'.target → pr.owner = pr'.owner ∧ pr.repo = pr'.repo ∧ path = path' ∧ ref = ref' := by
  have hleads {pr : PullRequest} {path ref : String} {url : Url} (h : IsPlace pr path)
      (hurl : c.contentAddress pr path ref = .ok url) : Leads c pr path ref url := by
    obtain ⟨url', hurl', hleads⟩ := leads_contentAddress hc hweb hquery h ref
    rw [hurl'] at hurl
    exact Except.ok.inj hurl ▸ hleads
  refine ⟨fun pr path ref h => leads_contentAddress hc hweb hquery h ref, ?_⟩
  intro pr path ref pr' path' ref' url url' h h' hurl hurl' htarget
  exact (hleads h hurl).eq_of_target (hleads h' hurl') htarget

/-- The client of a service whose address has a path, with a slash at its end. -/
def enterprise : GithubClient :=
  ⟨{ scheme := "https", host := some (.name "ghe.example.com"), route := .segments ["api", "v3", ""] }, "t"⟩

/-- A file whose name reads like a query and like a step up. -/
theorem contentAddress_faithful_enterprise :
    GithubClient.create "https://ghe.example.com/api/v3/" "t" = .ok enterprise ∧
      ∃ url, enterprise.contentAddress ⟨"acme", "shop", 7⟩ "src/a b?ref=%2e%2e.ts" "main" = .ok url ∧
        Leads enterprise ⟨"acme", "shop", 7⟩ "src/a b?ref=%2e%2e.ts" "main" url ∧
        url.target = "/api/v3/repos/acme/shop/contents/src/a%20b%3Fref=%252e%252e.ts?ref=main" := by
  have hcreate : GithubClient.create "https://ghe.example.com/api/v3/" "t" = .ok enterprise := rfl
  have hplace : IsPlace ⟨"acme", "shop", 7⟩ "src/a b?ref=%2e%2e.ts" := by
    refine ⟨⟨by decide, by decide, by decide, by decide⟩, ⟨by decide, by decide, by decide, by decide⟩, ?_⟩
    have hpieces : pieces "src/a b?ref=%2e%2e.ts".toList = ["src".toList, "a b?ref=%2e%2e.ts".toList] := by decide
    rw [hpieces, List.forall_mem_cons, List.forall_mem_singleton]
    exact ⟨⟨by decide, by decide, by decide, by decide⟩, ⟨by decide, by decide, by decide, by decide⟩⟩
  obtain ⟨hleads, -⟩ := contentAddress_faithful hcreate (by decide) rfl
  obtain ⟨url, hurl, hleads⟩ := hleads _ _ "main" hplace
  refine ⟨hcreate, url, hurl, hleads, ?_⟩
  rw [contentAddress_eq rfl rfl hplace] at hurl
  rw [← Except.ok.inj hurl]
  decide

/-- Behind a base whose path is two slashes, one empty segment is left, which no address has. -/
theorem not_forall_withoutEmptyEnd :
    ¬ ∀ (base token : String) (c : GithubClient), GithubClient.create base token = .ok c → c.base.isWeb = true →
      c.base.query = none → c.base.fragment = none → ∀ pr path ref, IsPlace pr path →
        ∃ url, c.contentAddress pr path ref = .ok url ∧
          (sentSegments url.target).map decode =
            (withoutEmptyEnd (sentSegments c.base.target)).map decode ++ (placeSegments pr path).map bytesOf := by
  intro h
  have hplace : IsPlace ⟨"acme", "shop", 7⟩ "a.ts" := by
    refine ⟨⟨by decide, by decide, by decide, by decide⟩, ⟨by decide, by decide, by decide, by decide⟩, ?_⟩
    rw [pieces_of_not_mem (by decide), List.forall_mem_singleton]
    exact ⟨by decide, by decide, by decide, by decide⟩
  have hslashes : GithubClient.create "http://h//" "t" =
      .ok ⟨{ scheme := "http", host := some (.name "h"), route := .segments ["", ""] }, "t"⟩ := rfl
  obtain ⟨url, hurl, hsegments⟩ := h _ _ _ hslashes (by decide) rfl rfl _ _ "abc" hplace
  rw [contentAddress_eq rfl rfl hplace] at hurl
  rw [← Except.ok.inj hurl] at hsegments
  exact absurd (congrArg List.length hsegments) (by decide)

end GithubClient
end Fanout
