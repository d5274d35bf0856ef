import Fanout.Proofs.Fallible
import Fanout.Proofs.Settings.Keys

/-!
# Reading a configuration key by key

* `Key.readIn?` : what a value of a configuration file says about a key, unless it does not fit;
* `Config.readAi?_eq_some_iff`, `Config.readGithub?_eq_some_iff`, `Config.read?_eq_some_iff` : a record is read
  if each of its fields is;
* `Config.value?_of_read?` : what is read says of each key what is read there;
* `Config.isSome_read?_iff` : a configuration is read if each of its keys is, so that one key that does not fit
  is enough to lose all of them.

Records may be given by name or in order. Either way they have one value or none for each field, and only that
is used here.
-/

namespace Fanout

section
variable {α : Type} (view : View α)

/-! ## Fields -/

/-- A field of a record. -/
def fieldOf? (needed : Nat) (names : List String) (i : Nat) (v : α) : Option (Option α) :=
  (view.record? needed names v).bind (·[i]?)

def sections : List String := ["output", "analyze", "metrics", "ai", "github"]

/-- What a field of a section says, nothing where the section is absent. -/
def inSection? {β : Type} (i needed : Nat) (names : List String) (j : Nat) (read : α → Option β) (v : α) :
    Option (Option β) :=
  (fieldOf? view 1 sections i v).bind fun part =>
    part.elim (some none) fun p => (fieldOf? view needed names j p).bind (maybe? read)

def aiNames : List String := ["enabled", "endpoint", "model", "api_key_env", "format", "timeout_secs"]
def githubNames : List String := ["api_base", "token_env", "extensions"]

/-- What a value of a configuration file says about a key, unless it does not fit. -/
def Key.readIn? (v : α) : (k : Key) → Option (Option k.Value)
  | .output => (fieldOf? view 1 sections 0 v).bind (maybe? view.text?)
  | .patterns => (inSection? view 1 1 ["patterns"] 0 view.texts? v).map saysList?
  | .loadTime =>
    inSection? view 2 1 ["load_time"] 0 (fun m => (view.choice? m).bind LoadTimeModel.ofName?) v
  | .aiEnabled => inSection? view 3 6 aiNames 0 view.flag? v
  | .aiEndpoint => inSection? view 3 6 aiNames 1 view.text? v
  | .aiModel => inSection? view 3 6 aiNames 2 view.text? v
  | .aiKeyVariable => inSection? view 3 6 aiNames 3 view.text? v
  | .aiFormat => inSection? view 3 6 aiNames 4 (fun f => (view.choice? f).bind ReplyFormat.ofName?) v
  | .aiTimeout => (inSection? view 3 6 aiNames 5 view.count? v).map (·.map some)
  | .githubApiBase => inSection? view 4 3 githubNames 0 view.text? v
  | .githubTokenVariable => inSection? view 4 3 githubNames 1 view.text? v
  | .githubExtensions => inSection? view 4 3 githubNames 2 view.texts? v

/-! ## Records -/

/-- A record has a value or none for each of its fields. -/
theorem View.length_record? {needed : Nat} {names : List String} {v : α} {fields : List (Option α)}
    (h : view.record? needed names v = some fields) : fields.length = names.length := by
  unfold View.record? at h
  split at h
  · exact (mapM_eq_some_iff.1 h).length_eq.symm
  · obtain ⟨items, -, h⟩ := Option.bind_eq_some_iff.1 h
    split at h
    · cases h
    · obtain ⟨given, hgiven, h⟩ := Option.bind_eq_some_iff.1 h
      cases h
      have hlength := (mapM_eq_some_iff.1 hgiven).length_eq
      rw [List.length_append, List.length_replicate, ← hlength, List.length_take]
      omega

namespace Config

theorem readPatterns?_eq (v : α) :
    readPatterns? view v = (fieldOf? view 1 ["patterns"] 0 v).bind (maybe? view.texts?) := by
  unfold readPatterns? fieldOf?
  cases h : view.record? 1 ["patterns"] v with
  | none => rfl
  | some fields =>
    match fields, view.length_record? h with
    | [patterns], _ => rfl

theorem readLoadTime?_eq (v : α) :
    readLoadTime? view v =
      (fieldOf? view 1 ["load_time"] 0 v).bind
        (maybe? fun m => (view.choice? m).bind LoadTimeModel.ofName?) := by
  unfold readLoadTime? fieldOf?
  cases h : view.record? 1 ["load_time"] v with
  | none => rfl
  | some fields =>
    match fields, view.length_record? h with
    | [model], _ => rfl

theorem readAi?_eq_some_iff {v : α} {c : AiConfig} :
    readAi? view v = some c ↔
      (fieldOf? view 6 aiNames 0 v).bind (maybe? view.flag?) = some c.enabled ∧
      (fieldOf? view 6 aiNames 1 v).bind (maybe? view.text?) = some c.endpoint ∧
      (fieldOf? view 6 aiNames 2 v).bind (maybe? view.text?) = some c.model ∧
      (fieldOf? view 6 aiNames 3 v).bind (maybe? view.text?) = some c.keyVariable ∧
      (fieldOf? view 6 aiNames 4 v).bind (maybe? fun f => (view.choice? f).bind ReplyFormat.ofName?) =
        some c.format ∧
      (fieldOf? view 6 aiNames 5 v).bind (maybe? view.count?) = some c.timeout := by
  unfold readAi? fieldOf?
  show ((view.record? 6 aiNames v).bind _) = _ ↔ _
  cases h : view.record? 6 aiNames v with
  | none => simp
  | some fields =>
    match fields, view.length_record? h with
    | [enabled, endpoint, model, keyVariable, format, timeout], _ =>
      simp only [Option.bind_some, Option.bind_eq_bind, Option.bind_eq_some_iff, Option.some.injEq]
      constructor
      · rintro ⟨_, h₁, _, h₂, _, h₃, _, h₄, _, h₅, _, h₆, rfl⟩
        exact ⟨⟨_, rfl, h₁⟩, ⟨_, rfl, h₂⟩, ⟨_, rfl, h₃⟩, ⟨_, rfl, h₄⟩, ⟨_, rfl, h₅⟩, ⟨_, rfl, h₆⟩⟩
      · rintro ⟨⟨_, ⟨⟩, h₁⟩, ⟨_, ⟨⟩, h₂⟩, ⟨_, ⟨⟩, h₃⟩, ⟨_, ⟨⟩, h₄⟩, ⟨_, ⟨⟩, h₅⟩, ⟨_, ⟨⟩, h₆⟩⟩
        exact ⟨_, h₁, _, h₂, _, h₃, _, h₄, _, h₅, _, h₆, rfl⟩

theorem readGithub?_eq_some_iff {v : α} {c : GithubConfig} :
    readGithub? view v = some c ↔
      (fieldOf? view 3 githubNames 0 v).bind (maybe? view.text?) = some c.apiBase ∧
      (fieldOf? view 3 githubNames 1 v).bind (maybe? view.text?) = some c.tokenVariable ∧
      (fieldOf? view 3 githubNames 2 v).bind (maybe? view.texts?) = some c.extensions := by
  unfold readGithub? fieldOf?
  show ((view.record? 3 githubNames v).bind _) = _ ↔ _
  cases h : view.record? 3 githubNames v with
  | none => simp
  | some fields =>
    match fields, view.length_record? h with
    | [apiBase, tokenVariable, extensions], _ =>
      simp only [Option.bind_some, Option.bind_eq_bind, Option.bind_eq_some_iff, Option.some.injEq]
      constructor
      · rintro ⟨_, h₁, _, h₂, _, h₃, rfl⟩
        exact ⟨⟨_, rfl, h₁⟩, ⟨_, rfl, h₂⟩, ⟨_, rfl, h₃⟩⟩
      · rintro ⟨⟨_, ⟨⟩, h₁⟩, ⟨_, ⟨⟩, h₂⟩, ⟨_, ⟨⟩, h₃⟩⟩
        exact ⟨_, h₁, _, h₂, _, h₃, rfl⟩

theorem read?_eq_some_iff {v : α} {c : Config} :
    read? view v = some c ↔
      (fieldOf? view 1 sections 0 v).bind (maybe? view.text?) = some c.output ∧
      (fieldOf? view 1 sections 1 v).bind (section? (readPatterns? view) none) = some c.patterns ∧
      (fieldOf? view 1 sections 2 v).bind (section? (readLoadTime? view) none) = some c.loadTime ∧
      (fieldOf? view 1 sections 3 v).bind (section? (readAi? view) {}) = some c.ai ∧
      (fieldOf? view 1 sections 4 v).bind (section? (readGithub? view) {}) = some c.github := by
  unfold read? fieldOf?
  show ((view.record? 1 sections v).bind _) = _ ↔ _
  cases h : view.record? 1 sections v with
  | none => simp
  | some fields =>
    match fields, view.length_record? h with
    | [output, analyze, metrics, ai, github], _ =>
      simp only [Option.bind_some, Option.bind_eq_bind, Option.bind_eq_some_iff, Option.some.injEq]
      constructor
      · rintro ⟨_, h₁, _, h₂, _, h₃, _, h₄, _, h₅, rfl⟩
        exact ⟨⟨_, rfl, h₁⟩, ⟨_, rfl, h₂⟩, ⟨_, rfl, h₃⟩, ⟨_, rfl, h₄⟩, ⟨_, rfl, h₅⟩⟩
      · rintro ⟨⟨_, ⟨⟩, h₁⟩, ⟨_, ⟨⟩, h₂⟩, ⟨_, ⟨⟩, h₃⟩, ⟨_, ⟨⟩, h₄⟩, ⟨_, ⟨⟩, h₅⟩⟩
        exact ⟨_, h₁, _, h₂, _, h₃, _, h₄, _, h₅, rfl⟩

/-! ## Keys -/

/-- A section that is read says of each of its keys what is read there, and nothing where it is absent. -/
theorem inSection?_of_section? {β γ : Type} {i needed j : Nat} {names : List String} {read : α → Option γ}
    {absent c : γ} {value : α → Option β} {v : α} (get : γ → Option β) (habsent : get absent = none)
    (hread : ∀ p c, read p = some c → (fieldOf? view needed names j p).bind (maybe? value) = some (get c))
    (h : (fieldOf? view 1 sections i v).bind (section? read absent) = some c) :
    inSection? view i needed names j value v = some (get c) := by
  obtain ⟨part, hpart, h⟩ := Option.bind_eq_some_iff.1 h
  unfold inSection?
  rw [hpart, Option.bind_some]
  cases part with
  | none =>
    cases h
    rw [habsent]
    rfl
  | some p => exact hread p c h

/-- What is read says of each key what is read there. -/
theorem value?_of_read? {v : α} {c : Config} (h : read? view v = some c) (k : Key) :
    k.readIn? view v = some (c.value? k) := by
  obtain ⟨houtput, hpatterns, hloadTime, hai, hgithub⟩ := (read?_eq_some_iff view).1 h
  cases k with
  | output => exact houtput
  | patterns =>
    have hkey := inSection?_of_section? view id rfl (fun p c hc => (readPatterns?_eq view p).symm.trans hc) hpatterns
    exact congrArg (Option.map saysList?) hkey
  | loadTime =>
    exact inSection?_of_section? view id rfl (fun p c hc => (readLoadTime?_eq view p).symm.trans hc) hloadTime
  | aiEnabled =>
    exact inSection?_of_section? view (·.enabled) rfl (fun p c hc => ((readAi?_eq_some_iff view).1 hc).1) hai
  | aiEndpoint =>
    exact inSection?_of_section? view (·.endpoint) rfl (fun p c hc => ((readAi?_eq_some_iff view).1 hc).2.1) hai
  | aiModel =>
    exact inSection?_of_section? view (·.model) rfl (fun p c hc => ((readAi?_eq_some_iff view).1 hc).2.2.1) hai
  | aiKeyVariable =>
    exact inSection?_of_section? view (·.keyVariable) rfl
      (fun p c hc => ((readAi?_eq_some_iff view).1 hc).2.2.2.1) hai
  | aiFormat =>
    exact inSection?_of_section? view (·.format) rfl
      (fun p c hc => ((readAi?_eq_some_iff view).1 hc).2.2.2.2.1) hai
  | aiTimeout =>
    have hkey := inSection?_of_section? view (·.timeout) rfl
      (fun p c hc => ((readAi?_eq_some_iff view).1 hc).2.2.2.2.2) hai
    exact congrArg (Option.map (Option.map some)) hkey
  | githubApiBase =>
    exact inSection?_of_section? view (·.apiBase) rfl
      (fun p c hc => ((readGithub?_eq_some_iff view).1 hc).1) hgithub
  | githubTokenVariable =>
    exact inSection?_of_section? view (·.tokenVariable) rfl
      (fun p c hc => ((readGithub?_eq_some_iff view).1 hc).2.1) hgithub
  | githubExtensions =>
    exact inSection?_of_section? view (·.extensions) rfl
      (fun p c hc => ((readGithub?_eq_some_iff view).1 hc).2.2) hgithub

theorem inSection?_of_given {β : Type} {i needed j : Nat} {names : List String} {value : α → Option β} {v p : α}
    (h : fieldOf? view 1 sections i v = some (some p)) :
    inSection? view i needed names j value v = (fieldOf? view needed names j p).bind (maybe? value) := by
  unfold inSection?
  rw [h]
  rfl

/-- A section is read if it is absent, or if it is read where it is given. -/
theorem exists_section? {β γ : Type} {i needed j : Nat} {names : List String} {value : α → Option β} {v : α}
    (read : α → Option γ) (absent : γ) (hkey : (inSection? view i needed names j value v).isSome)
    (hread : ∀ p, fieldOf? view 1 sections i v = some (some p) → (read p).isSome) :
    ∃ c, (fieldOf? view 1 sections i v).bind (section? read absent) = some c := by
  cases hpart : fieldOf? view 1 sections i v with
  | none =>
    unfold inSection? at hkey
    rw [hpart] at hkey
    cases hkey
  | some part =>
    cases part with
    | none => exact ⟨absent, rfl⟩
    | some p => exact Option.isSome_iff_exists.1 (hread p hpart)

theorem isSome_readAi?_iff {v p : α} (h : fieldOf? view 1 sections 3 v = some (some p)) :
    (readAi? view p).isSome ↔
      (Key.readIn? view v .aiEnabled).isSome ∧ (Key.readIn? view v .aiEndpoint).isSome ∧
      (Key.readIn? view v .aiModel).isSome ∧ (Key.readIn? view v .aiKeyVariable).isSome ∧
      (Key.readIn? view v .aiFormat).isSome ∧ (Key.readIn? view v .aiTimeout).isSome := by
  simp only [Key.readIn?, Option.isSome_map, inSection?_of_given view h, Option.isSome_iff_exists,
    readAi?_eq_some_iff]
  constructor
  · rintro ⟨c, h₁, h₂, h₃, h₄, h₅, h₆⟩
    exact ⟨⟨_, h₁⟩, ⟨_, h₂⟩, ⟨_, h₃⟩, ⟨_, h₄⟩, ⟨_, h₅⟩, ⟨_, h₆⟩⟩
  · rintro ⟨⟨_, h₁⟩, ⟨_, h₂⟩, ⟨_, h₃⟩, ⟨_, h₄⟩, ⟨_, h₅⟩, ⟨_, h₆⟩⟩
    exact ⟨⟨_, _, _, _, _, _⟩, h₁, h₂, h₃, h₄, h₅, h₆⟩

theorem isSome_readGithub?_iff {v p : α} (h : fieldOf? view 1 sections 4 v = some (some p)) :
    (readGithub? view p).isSome ↔
      (Key.readIn? view v .githubApiBase).isSome ∧ (Key.readIn? view v .githubTokenVariable).isSome ∧
      (Key.readIn? view v .githubExtensions).isSome := by
  simp only [Key.readIn?, inSection?_of_given view h, Option.isSome_iff_exists, readGithub?_eq_some_iff]
  constructor
  · rintro ⟨c, h₁, h₂, h₃⟩
    exact ⟨⟨_, h₁⟩, ⟨_, h₂⟩, ⟨_, h₃⟩⟩
  · rintro ⟨⟨_, h₁⟩, ⟨_, h₂⟩, ⟨_, h₃⟩⟩
    exact ⟨⟨_, _, _⟩, h₁, h₂, h₃⟩

/-- A configuration is read if each of its keys is. -/
theorem isSome_read?_iff (v : α) : (read? view v).isSome ↔ ∀ k : Key, (k.readIn? view v).isSome := by
  constructor
  · intro h k
    obtain ⟨c, hc⟩ := Option.isSome_iff_exists.1 h
    rw [value?_of_read? view hc k]
    rfl
  · intro h
    have hlist : (inSection? view 1 1 ["patterns"] 0 view.texts? v).isSome :=
      Option.isSome_map.symm.trans (h .patterns)
    obtain ⟨output, houtput⟩ := Option.isSome_iff_exists.1 (h .output)
    obtain ⟨patterns, hpatterns⟩ := exists_section? view (readPatterns? view) none hlist fun p hp => by
      rwa [readPatterns?_eq, ← inSection?_of_given view hp]
    obtain ⟨loadTime, hloadTime⟩ :=
      exists_section? view (readLoadTime? view) none (h .loadTime) fun p hp => by
        rw [readLoadTime?_eq, ← inSection?_of_given view hp]
        exact h .loadTime
    obtain ⟨ai, hai⟩ := exists_section? view (readAi? view) {} (h .aiEnabled) fun p hp =>
      (isSome_readAi?_iff view hp).2
        ⟨h .aiEnabled, h .aiEndpoint, h .aiModel, h .aiKeyVariable, h .aiFormat, h .aiTimeout⟩
    obtain ⟨github, hgithub⟩ := exists_section? view (readGithub? view) {} (h .githubApiBase) fun p hp =>
      (isSome_readGithub?_iff view hp).2 ⟨h .githubApiBase, h .githubTokenVariable, h .githubExtensions⟩
    have hread : read? view v = some ⟨output, patterns, loadTime, ai, github⟩ :=
      (read?_eq_some_iff view).2 ⟨houtput, hpatterns, hloadTime, hai, hgithub⟩
    rw [hread]
    rfl

end Config
end
end Fanout
