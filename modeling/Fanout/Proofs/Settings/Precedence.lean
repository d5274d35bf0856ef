import Fanout.Proofs.CommandLine.Flags
import Fanout.Proofs.Settings.Reading
import Fanout.Proofs.Settings.Root

/-!
# What a setting is taken from

* `ConfigDocument` : the document in the text of a configuration file, and what it tells about a key;
* `FirstFile`, `SaidIn` : the configuration file that counts in a directory, and what the directory says: nothing
  unless all of that file fits;
* `saidIn_iff` : that is what the configuration says that is loaded from there;
* `value_discover`, `configFound_discover` : the settings by what the command line and the directory say;
* `settings_precedence` : which source wins, what a file that does not fit comes to, and what one key may change;
* `settings_not_verbatim` : where the value in force is not the one given.

Files are any that give the same answer each time they are asked.
-/

namespace Fanout

/-! ## Documents -/

inductive ConfigDocument
  | toml (v : Toml.Value)
  | yaml (d : Yaml.Document)

namespace ConfigDocument

/-- The document in the text of a file, by the file's name. -/
def ofText? (name text : String) : Option ConfigDocument :=
  if name == "perfsense.toml" then (Toml.document? text.toList).map .toml
  else (Yaml.document? text.toList).map .yaml

/-- What a document says about a key, unless it does not fit. -/
def tells? : ConfigDocument → (k : Key) → Option (Option k.Value)
  | toml v, k => k.readIn? Toml.view v
  | yaml d, k => k.readIn? (Yaml.view d) d.root

def config? : ConfigDocument → Option Config
  | toml v => Config.read? Toml.view v
  | yaml d => Config.read? (Yaml.view d) d.root

theorem readerOf_eq (name text : String) : readerOf name text = (ofText? name text).bind config? := by
  unfold readerOf ofText?
  split
  · show (Toml.document? text.toList).bind _ = _
    rw [Option.bind_map]
    rfl
  · show (Yaml.document? text.toList).bind _ = _
    rw [Option.bind_map]
    rfl

variable {doc : ConfigDocument}

theorem tells?_of_config? {c : Config} (h : doc.config? = some c) (k : Key) : doc.tells? k = some (c.value? k) := by
  cases doc with
  | toml v => exact Config.value?_of_read? Toml.view h k
  | yaml d => exact Config.value?_of_read? (Yaml.view d) h k

/-- A document is a configuration if all of its keys fit. -/
theorem exists_config {said : (k : Key) → Option k.Value} (h : ∀ k, doc.tells? k = some (said k)) :
    ∃ c, doc.config? = some c := by
  have hfits (k : Key) : (doc.tells? k).isSome := by
    rw [h k]
    rfl
  refine Option.isSome_iff_exists.1 ?_
  cases doc with
  | toml v => exact (Config.isSome_read?_iff Toml.view v).2 hfits
  | yaml d => exact (Config.isSome_read?_iff (Yaml.view d) d.root).2 hfits

/-- One key that does not fit is enough for a document to be no configuration. -/
theorem config?_eq_none_iff : doc.config? = none ↔ ∃ k, doc.tells? k = none := by
  constructor
  · intro h
    by_contra hfits
    have hall (k : Key) : ∃ v, doc.tells? k = some v :=
      Option.ne_none_iff_exists'.1 fun hnone => hfits ⟨k, hnone⟩
    obtain ⟨c, hc⟩ := exists_config fun k => (hall k).choose_spec
    rw [h] at hc
    cases hc
  · rintro ⟨k, hk⟩
    cases hconfig : doc.config? with
    | none => rfl
    | some c =>
      rw [tells?_of_config? hconfig k] at hk
      cases hk

end ConfigDocument

/-! ## Directories -/

section
variable (files : Files Id) (dir : List Char)

/-- The place of a configuration file. -/
def configPath (name : String) : List Char := Path.join dir name.toList

/-- A configuration file of this name stands in a directory. -/
def Stands (name : String) : Prop := (existsAt files (configPath dir name)).run = true

instance (name : String) : Decidable (Stands files dir name) := inferInstanceAs (Decidable (_ = true))

/-- A configuration file stands in a directory, and none of the names before its own does. -/
structure FirstFile (name : String) : Prop where
  stands : Stands files dir name
  first : ∃ before after, configNames = before ++ name :: after ∧ ∀ other ∈ before, ¬ Stands files dir other

/-- What is said about each key. -/
abbrev Saying : Type := (k : Key) → Option k.Value

/-- What a directory says: nothing without a configuration file, and nothing either if the first one cannot be
read, is no document or has a key that does not fit, whatever files stand behind it. -/
inductive SaidIn : Option Saying → Prop
  | absent (absent : ∀ name ∈ configNames, ¬ Stands files dir name) : SaidIn none
  | unreadable {name reason : String} (first : FirstFile files dir name)
      (text : (files.text (configPath dir name)).run = .error reason) : SaidIn none
  | malformed {name content : String} (first : FirstFile files dir name)
      (text : (files.text (configPath dir name)).run = .ok content)
      (document : ConfigDocument.ofText? name content = none) : SaidIn none
  | misfit {name content : String} {doc : ConfigDocument} (first : FirstFile files dir name)
      (text : (files.text (configPath dir name)).run = .ok content)
      (document : ConfigDocument.ofText? name content = some doc) (k : Key) (misfit : doc.tells? k = none) :
      SaidIn none
  | fits {name content : String} {doc : ConfigDocument} {said : Saying} (first : FirstFile files dir name)
      (text : (files.text (configPath dir name)).run = .ok content)
      (document : ConfigDocument.ofText? name content = some doc) (told : ∀ k, doc.tells? k = some (said k)) :
      SaidIn (some said)

variable {files dir}

theorem firstFile_iff_find? {name : String} :
    FirstFile files dir name ↔
      configNames.find? (fun n => (existsAt files (configPath dir n)).run) = some name := by
  rw [List.find?_eq_some_iff_append]
  simp only [Bool.not_eq_true']
  constructor
  · rintro ⟨hstands, before, after, hsplit, hbefore⟩
    exact ⟨hstands, before, after, hsplit, fun other hother => eq_false_of_ne_true (hbefore other hother)⟩
  · rintro ⟨hstands, before, after, hsplit, hbefore⟩
    exact ⟨hstands, before, after, hsplit, fun other hother => ne_true_of_eq_false (hbefore other hother)⟩

theorem run_loadConfig (files : Files Id) (dir : List Char) :
    (loadConfig files dir).run =
      match configNames.find? fun n => (existsAt files (configPath dir n)).run with
      | some name => (loadFrom files dir name).run
      | none => .absent := by
  rw [← findM?_run]
  rfl

theorem config?_loadFrom (name : String) :
    (loadFrom files dir name).run.config? =
      (files.text (configPath dir name)).run.toOption.bind fun content =>
        (ConfigDocument.ofText? name content).bind ConfigDocument.config? := by
  unfold loadFrom configPath
  dsimp only
  rw [Id.run_bind]
  generalize (files.text (Path.join dir name.toList)).run = text
  cases text with
  | error reason => rfl
  | ok content =>
    show ((readerOf name content).elim (.invalid _) Found.config).config? =
      (ConfigDocument.ofText? name content).bind ConfigDocument.config?
    rw [ConfigDocument.readerOf_eq]
    cases (ConfigDocument.ofText? name content).bind ConfigDocument.config? <;> rfl

/-- The first file alone decides which configuration is found. -/
theorem config?_of_firstFile {name : String} (first : FirstFile files dir name) :
    (loadConfig files dir).run.config? =
      (files.text (configPath dir name)).run.toOption.bind fun content =>
        (ConfigDocument.ofText? name content).bind ConfigDocument.config? := by
  rw [run_loadConfig, firstFile_iff_find?.1 first]
  exact config?_loadFrom name

/-- What a directory says is what the configuration that is found there says. -/
theorem saidIn_iff {said : Option Saying} :
    SaidIn files dir said ↔ said = (loadConfig files dir).run.config?.map Config.value? := by
  constructor
  · intro h
    cases h with
    | absent absent =>
      have hnone := List.find?_eq_none.2 absent
      rw [run_loadConfig, hnone]
      rfl
    | unreadable first text =>
      rw [config?_of_firstFile first, text]
      rfl
    | malformed first text document =>
      rw [config?_of_firstFile first, text]
      show none = ((ConfigDocument.ofText? _ _).bind _).map _
      rw [document]
      rfl
    | misfit first text document k misfit =>
      rw [config?_of_firstFile first, text]
      show none = ((ConfigDocument.ofText? _ _).bind _).map _
      rw [document, Option.bind_some, ConfigDocument.config?_eq_none_iff.2 ⟨k, misfit⟩]
      rfl
    | @fits name content doc said first text document told =>
      obtain ⟨c, hc⟩ := ConfigDocument.exists_config told
      rw [config?_of_firstFile first, text]
      show _ = ((ConfigDocument.ofText? _ _).bind _).map _
      rw [document, Option.bind_some, hc]
      refine congrArg some (funext fun k => ?_)
      exact Option.some.inj ((told k).symm.trans (ConfigDocument.tells?_of_config? hc k))
  · rintro rfl
    cases hfind : configNames.find? fun n => (existsAt files (configPath dir n)).run with
    | none =>
      rw [run_loadConfig, hfind]
      exact .absent fun name hname => List.find?_eq_none.1 hfind name hname
    | some name =>
      have hfirst : FirstFile files dir name := firstFile_iff_find?.2 hfind
      rw [config?_of_firstFile hfirst]
      cases htext : (files.text (configPath dir name)).run with
      | error reason => exact .unreadable hfirst htext
      | ok content =>
        show SaidIn files dir (((ConfigDocument.ofText? name content).bind _).map _)
        cases hdoc : ConfigDocument.ofText? name content with
        | none => exact .malformed hfirst htext hdoc
        | some doc =>
          rw [Option.bind_some]
          cases hconfig : doc.config? with
          | none =>
            obtain ⟨k, hk⟩ := ConfigDocument.config?_eq_none_iff.1 hconfig
            exact .misfit hfirst htext hdoc k hk
          | some c => exact .fits hfirst htext hdoc (ConfigDocument.tells?_of_config? hconfig)

theorem saidIn_of_config? (found : Option Config) (h : (loadConfig files dir).run.config? = found) :
    SaidIn files dir (found.map Config.value?) :=
  saidIn_iff.2 (congrArg _ h.symm)

/-! ## Settings -/

/-- The directory whose configuration counts. -/
def rootOf (files : Files Id) (o : Overrides) : List Char := (findRoot files o.start).run

theorem run_discover (files : Files Id) (o : Overrides) :
    (Settings.discover files o).run =
      .resolve o (rootOf files o) (loadConfig files (rootOf files o)).run.config? := rfl

theorem rootOf_congr {files other : Files Id} (h : other.kind? = files.kind?) (o : Overrides) :
    rootOf other o = rootOf files o := by
  have hexists (path : List Char) : existsAt other path = existsAt files path := by
    unfold existsAt
    rw [h]
  unfold rootOf findRoot holdsAny
  simp only [hexists]

/-- Each setting is what the command line says, else what the directory says, else its default. -/
theorem value_discover {said : Option Saying} {o : Overrides} (h : SaidIn files (rootOf files o) said) (k : Key) :
    (Settings.discover files o).run.value k =
      k.inForce (((o.value? k).or (said.bind (· k))).getD k.default) := by
  rw [saidIn_iff.1 h, run_discover, Settings.value_resolve, Option.bind_map]
  rfl

theorem configFound_discover {said : Option Saying} {o : Overrides} (h : SaidIn files (rootOf files o) said) :
    (Settings.discover files o).run.configFound = said.isSome := by
  rw [saidIn_iff.1 h, run_discover, Option.isSome_map]
  rfl

end

/-- Each key is set by the command line, else by the first configuration file in the root, else by its default;
extensions come in lower case and without dots. If that file cannot be read, is no document or has one key that
does not fit, then the settings are those of a root without configuration files, but for the root itself. Where
two files differ in one key, the settings differ in that key at most. -/
theorem settings_precedence (files : Files Id) (o : Overrides) :
    let settings := (Settings.discover files o).run
    (∃ said, ∀ said', SaidIn files (rootOf files o) said' ↔ said' = said) ∧
    (∀ said, SaidIn files (rootOf files o) said →
      settings.root = rootOf files o ∧ settings.configFound = said.isSome ∧
      ∀ k, settings.value k = k.inForce (((o.value? k).or (said.bind (· k))).getD k.default)) ∧
    (SaidIn files (rootOf files o) none → ∀ other : Files Id,
      (∀ name ∈ configNames, ¬ Stands other (rootOf other o) name) →
      settings.configFound = false ∧
        settings = { (Settings.discover other o).run with root := rootOf files o }) ∧
    (∀ (other : Files Id) (said said' : Saying) (k : Key), other.kind? = files.kind? →
      SaidIn files (rootOf files o) (some said) → SaidIn other (rootOf files o) (some said') →
      (∀ k', k' ≠ k → said k' = said' k') →
      let settings' := (Settings.discover other o).run
      settings'.root = settings.root ∧ settings'.configFound = settings.configFound ∧
        ∀ k', k' ≠ k → settings'.value k' = settings.value k') ∧
    ∀ args verbose command, CommandLine.readAnalyze args = .ok ⟨verbose, .analyze command⟩ →
      command.overrides.value? .aiEnabled =
        if "--ai" ∈ args.takeWhile (· != "--") then some true
        else if "--no-ai" ∈ args.takeWhile (· != "--") then some false
        else none := by
  intro settings
  refine ⟨⟨_, fun said' => saidIn_iff⟩, fun said h => ?_, fun h other habsent => ?_,
    fun other said said' k hkind h h' hsame => ?_, fun args verbose command h => ?_⟩
  · exact ⟨rfl, configFound_discover h, value_discover h⟩
  · have h' : SaidIn other (rootOf other o) none := .absent habsent
    have hfound := configFound_discover h
    refine ⟨hfound, Settings.ext_value rfl (hfound.trans (configFound_discover h').symm) fun k => ?_⟩
    exact (value_discover h k).trans (value_discover h' k).symm
  · have hroot : rootOf other o = rootOf files o := rootOf_congr hkind o
    rw [← hroot] at h'
    refine ⟨hroot, (configFound_discover h').trans (configFound_discover h).symm, fun k' hk' => ?_⟩
    rw [value_discover h', value_discover h, Option.bind_some, Option.bind_some, hsame k' hk']
  · exact CommandLine.readAnalyze_ai h

/-- A configuration of TOML that does not fit, and behind it one of YAML that does. -/
def brokenFirst : FileTree :=
  .directory [("perfsense.toml".toList, .file (Utf8.encode "output = 1\n".toList)),
    ("perfsense.yaml".toList, .file (Utf8.encode "output: json\n".toList))]

/-- The broken file hides the good one behind it. Where instead it says `json` or `markdown`, that is the only
difference. -/
theorem settings_precedence_brokenFirst :
    let broken := brokenFirst.files "/".toList
    let json : Files Id := { broken with text := fun _ => pure (.ok "output = 'json'\n") }
    let markdown : Files Id := { broken with text := fun _ => pure (.ok "output = 'markdown'\n") }
    let settings (files : Files Id) : Settings := (Settings.discover files {}).run
    ((settings broken).configFound = false ∧
      settings broken = { settings (FileTree.empty.files "/".toList) with root := rootOf broken {} }) ∧
    ((settings json).configFound = true ∧ (settings json).value .output = "json") ∧
    (∀ k, k ≠ .output → (settings markdown).value k = (settings json).value k) ∧
    ∀ verbose command, CommandLine.readAnalyze ["--no-ai"] = .ok ⟨verbose, .analyze command⟩ →
      command.overrides.value? .aiEnabled = some false := by
  intro broken json markdown settings
  obtain ⟨-, -, hbroken, -, -⟩ := settings_precedence broken {}
  obtain ⟨-, hvalues, -, hframe, hflags⟩ := settings_precedence json {}
  have hnone : SaidIn broken (rootOf broken {}) none := saidIn_of_config? none (by decide +kernel)
  have hjson : SaidIn json (rootOf json {}) (some (Config.value? { output := some "json" })) :=
    saidIn_of_config? (some _) (by decide +kernel)
  have hmarkdown : SaidIn markdown (rootOf json {})
      (some (Config.value? { output := some "markdown" })) :=
    saidIn_of_config? (some _) (by decide +kernel)
  obtain ⟨-, hfound, hvalue⟩ := hvalues _ hjson
  have hempty : ∀ name ∈ configNames,
      ¬ Stands (FileTree.empty.files "/".toList) (rootOf (FileTree.empty.files "/".toList) {}) name := by
    decide +kernel
  refine ⟨hbroken hnone (FileTree.empty.files "/".toList) hempty, ⟨hfound, hvalue .output⟩, ?_,
    fun verbose command h => ?_⟩
  · refine (hframe markdown _ _ .output rfl hjson hmarkdown fun k hk => ?_).2.2
    cases k with
    | output => exact absurd rfl hk
    | _ => rfl
  · exact (hflags _ _ _ h).trans (by decide)

/-- A configuration that names extensions with a dot. -/
def dottedExtension : FileTree :=
  .directory [("perfsense.toml".toList, .file (Utf8.encode "[github]\nextensions = ['.TS']\n".toList))]

/-- A repository, in a directory of which stands a configuration that does not fit, or none. -/
def repository (entries : List (List Char × FileTree)) : FileTree :=
  .directory [(".git".toList, .empty), ("a".toList, .directory entries)]

/-- Extensions are not taken as they are given, and a configuration that does not fit still marks the root. -/
theorem settings_not_verbatim :
    let dotted := dottedExtension.files "/".toList
    let broken :=
      (repository [("perfsense.toml".toList, .file (Utf8.encode "output = 1\n".toList))]).files "/".toList
    let bare := (repository []).files "/".toList
    let o : Overrides := { root := some "/a" }
    (¬ ∀ said, SaidIn dotted (rootOf dotted {}) said → ∀ k, (Settings.discover dotted {}).run.value k =
      ((Overrides.value? {} k).or (said.bind (· k))).getD k.default) ∧
    SaidIn broken (rootOf broken o) none ∧ (∀ name ∈ configNames, ¬ Stands bare (rootOf bare o) name) ∧
      (Settings.discover broken o).run ≠ (Settings.discover bare o).run := by
  intro dotted broken bare o
  refine ⟨fun h => ?_, saidIn_of_config? none (by decide +kernel), by decide +kernel, by decide +kernel⟩
  have hsaid : SaidIn dotted (rootOf dotted {})
      (some (Config.value? { github := { extensions := some [".TS"] } })) :=
    saidIn_of_config? (some _) (by decide +kernel)
  exact absurd (h _ hsaid .githubExtensions) (by decide +kernel)

end Fanout
