import Fanout.Grammar.Reading
import Fanout.Proofs.Path.Extensions
import Fanout.Proofs.Review.Calls
import Fanout.Settings.Effective

/-!
# Which changed files are reviewed

* `extensionsInForce` : the extensions that are compared where a list is configured;
* `Respelled`, `ChangedFile.SameKind` : lists that say the same, and files that are told apart only by their
  directories and by the case of letters;
* `ChangedFile.eligible_iff` : a file is reviewed just if it is not removed and its extension is a configured one,
  ignoring case and dots before the configured one;
* `eligibility_ignores_spelling` : respelled lists and files of the same kind have the same outcome, and under the
  default list a file is read with the grammar of its extension;
* `not_forall_eligible_iff` : the name `..` has no extension, though a dot in it has another before it.
-/

namespace Fanout
open Fanout.Path Text

/-- The extensions that are compared, from what the configuration says. -/
def extensionsInForce (configured : Option (List String)) : List String :=
  (GithubSettings.resolve { extensions := configured }).extensions

/-- The configured extensions, or those that stand for them. -/
def extensionsMeant (configured : Option (List String)) : List String := configured.getD ["ts", "tsx"]

theorem extensionsInForce_eq (configured : Option (List String)) :
    extensionsInForce configured = (extensionsMeant configured).map normalExtension := rfl

theorem map_map_normalExtension (list : List String) :
    (list.map normalExtension).map normalExtension = list.map normalExtension := by
  rw [List.map_map]
  exact List.map_congr_left fun e _ => normalExtension_normalExtension e

/-- An extension without the dots before it. -/
def undotted (e : String) : List Char := e.toList.dropWhile (· == '.')

/-- The grammars of the extensions that stand for a list. -/
inductive DefaultGrammar (ext : List Char) : Language → Prop
  | typescript (h : EqIgnoringCase ext "ts".toList) : DefaultGrammar ext .typescript
  | tsx (h : EqIgnoringCase ext "tsx".toList) : DefaultGrammar ext .tsx

/-! ## Lists that say the same -/

/-- Entries in other letters, with a dot more before them, once more, in another order, or as they are compared. -/
inductive Respelled : List String → List String → Prop
  | letters {e e' : String} (h : EqIgnoringCase e.toList e'.toList) (rest : List String) :
    Respelled (e :: rest) (e' :: rest)
  | dotted (e : String) (rest : List String) : Respelled (e :: rest) (("." ++ e) :: rest)
  | repeated {e : String} {list : List String} (h : e ∈ list) : Respelled list (e :: list)
  | order {list list' : List String} (h : list.Perm list') : Respelled list list'
  | normal (list : List String) : Respelled list (list.map normalExtension)
  | symm {list list' : List String} (h : Respelled list list') : Respelled list' list
  | trans {a b c : List String} (h : Respelled a b) (h' : Respelled b c) : Respelled a c

theorem Respelled.mem_iff {list list' : List String} (h : Respelled list list') (ext : String) :
    ext ∈ list.map normalExtension ↔ ext ∈ list'.map normalExtension := by
  induction h with
  | letters h rest => rw [List.map_cons, List.map_cons, normalExtension_congr h]
  | dotted e rest => rw [List.map_cons, List.map_cons, normalExtension_dot]
  | @repeated e list h =>
    have hmem : normalExtension e ∈ list.map normalExtension := List.mem_map_of_mem h
    rw [List.map_cons, List.mem_cons]
    exact ⟨.inr, fun h => h.elim (fun heq => heq ▸ hmem) id⟩
  | order h => exact (h.map _).mem_iff
  | normal list => rw [map_map_normalExtension]
  | symm _ ih => exact ih.symm
  | trans _ _ ih ih' => exact ih.trans ih'

/-! ## Files -/

namespace ChangedFile

/-- The same fate and the same name, but for the directory and the case of letters. -/
inductive SameKind : ChangedFile → ChangedFile → Prop
  | directory {f g : ChangedFile} (status : f.status = g.status)
    (h : (components f.filename.toList).getLast? = (components g.filename.toList).getLast?) : SameKind f g
  | letters {f g : ChangedFile} (status : f.status = g.status)
    (h : EqIgnoringCase f.filename.toList g.filename.toList) : SameKind f g
  | trans {f g h : ChangedFile} (fg : SameKind f g) (gh : SameKind g h) : SameKind f h

theorem eligible_eq_true_iff {extensions : List String} {f : ChangedFile} :
    f.eligible extensions = true ↔ f.status ≠ "removed" ∧ ∃ ext, f.extension? = some ext ∧ ext ∈ extensions := by
  simp [eligible, isRemoved, Option.any_eq_true]

theorem SameKind.status_eq {f g : ChangedFile} (h : SameKind f g) : f.status = g.status := by
  induction h with
  | directory status _ => exact status
  | letters status _ => exact status
  | trans _ _ ih ih' => exact ih.trans ih'

theorem SameKind.extension?_eq {f g : ChangedFile} (h : SameKind f g) : f.extension? = g.extension? := by
  have hlower (f : ChangedFile) :
      f.extension? = (Path.extension? (lowerAscii f.filename.toList)).map String.ofList := by
    rw [extension?_lowerAscii, Option.map_map]
    rfl
  induction h with
  | directory _ h => rw [extension?, extension?, extension?_congr h]
  | letters _ h => rw [hlower, hlower, lowerAscii_eq_iff_eqIgnoringCase.2 h]
  | trans _ _ ih ih' => exact ih.trans ih'

theorem extension?_eq_some_iff {f : ChangedFile} {ext : String} :
    f.extension? = some ext ↔
      (components f.filename.toList).getLast? ≠ some ['.', '.'] ∧
        ∃ written, ExtensionOf f.filename.toList written ∧ String.ofList (lowerAscii written) = ext := by
  simp only [extension?, Option.map_eq_some_iff, Path.extension?_eq_some_iff, and_assoc, exists_and_left]

/-- A file is reviewed just if it is not removed and its extension is a configured one. -/
theorem eligible_iff (configured : Option (List String)) (f : ChangedFile) :
    f.eligible (extensionsInForce configured) = true ↔
      f.status ≠ "removed" ∧ (components f.filename.toList).getLast? ≠ some ['.', '.'] ∧
        ∃ ext, ExtensionOf f.filename.toList ext ∧
          ∃ e ∈ extensionsMeant configured, EqIgnoringCase ext (undotted e) := by
  have hentry (ext : List Char) :
      String.ofList (lowerAscii ext) ∈ extensionsInForce configured ↔
        ∃ e ∈ extensionsMeant configured, EqIgnoringCase ext (undotted e) := by
    rw [extensionsInForce_eq, List.mem_map]
    refine exists_congr fun e => and_congr_right fun _ => ?_
    rw [← lowerAscii_eq_iff_eqIgnoringCase, normalExtension, String.ofList_inj, eq_comm, undotted]
  rw [eligible_eq_true_iff]
  refine and_congr_right fun _ => ?_
  simp only [extension?_eq_some_iff]
  refine ⟨?_, ?_⟩
  · rintro ⟨_, ⟨hup, ext, hext, rfl⟩, hmem⟩
    exact ⟨hup, ext, hext, (hentry ext).1 hmem⟩
  · rintro ⟨hup, ext, hext, hmem⟩
    exact ⟨_, ⟨hup, ext, hext, rfl⟩, (hentry ext).2 hmem⟩

theorem eligible_congr {list list' : List String} {f g : ChangedFile} (hlist : Respelled list list')
    (hfile : SameKind f g) :
    f.eligible (extensionsInForce (some list)) = g.eligible (extensionsInForce (some list')) := by
  rw [Bool.eq_iff_iff, eligible_eq_true_iff, eligible_eq_true_iff, hfile.status_eq, hfile.extension?_eq]
  exact and_congr_right fun _ => exists_congr fun ext => and_congr_right fun _ => hlist.mem_iff ext

/-- A file with a default extension is read with the grammar of that extension. -/
theorem foundIn_of_eligible [TreeReader] {f : ChangedFile} (h : f.eligible (extensionsInForce none) = true) :
    ∃ ext language, ExtensionOf f.filename.toList ext ∧ DefaultGrammar ext language ∧
      Language.ofPath f.filename = language ∧
      ∀ content, foundIn f.filename content = findSourceIssues language (some f.filename) content := by
  obtain ⟨-, hup, ext, hext, e, he, heq⟩ := (eligible_iff none f).1 h
  have hpath : Path.extension? f.filename.toList = some ext := Path.extension?_eq_some_iff.2 ⟨hup, hext⟩
  have hlanguage : Language.ofPath f.filename = Language.ofExtension (lowerAscii (undotted e)) := by
    rw [Language.ofPath, hpath, Option.getD_some, lowerAscii_eq_iff_eqIgnoringCase.2 heq]
  have hgrammar : DefaultGrammar ext (Language.ofExtension (lowerAscii (undotted e))) := by
    have hentries : e = "ts" ∨ e = "tsx" := by simpa [extensionsMeant] using he
    rcases hentries with rfl | rfl
    · exact .typescript heq
    · exact .tsx heq
  exact ⟨ext, _, hext, hgrammar, hlanguage, fun content => by rw [foundIn, hlanguage]⟩

end ChangedFile

/-- Whatever the command line says, the configured extensions settle which files are reviewed. It depends neither on
how their list is spelled nor on the directory of a file and the case of letters in its name, and to compare what is
compared already changes nothing. A file with a default extension is read with the grammar of that extension. -/
theorem eligibility_ignores_spelling [TreeReader] :
    (∀ (o : Overrides) (root : List Char) (found : Option Config),
      (Settings.resolve o root found).github.extensions = extensionsInForce (found.getD {}).github.extensions) ∧
      (∀ (configured : Option (List String)) (f : ChangedFile),
        f.eligible (extensionsInForce configured) = true ↔
          f.status ≠ "removed" ∧ (components f.filename.toList).getLast? ≠ some ['.', '.'] ∧
            ∃ ext, ExtensionOf f.filename.toList ext ∧
              ∃ e ∈ extensionsMeant configured, EqIgnoringCase ext (undotted e)) ∧
      (∀ list list' f g, Respelled list list' → ChangedFile.SameKind f g →
        f.eligible (extensionsInForce (some list)) = g.eligible (extensionsInForce (some list'))) ∧
      (∀ configured, extensionsInForce (some (extensionsInForce configured)) = extensionsInForce configured) ∧
      ∀ f : ChangedFile, f.eligible (extensionsInForce none) = true →
        ∃ ext language, ExtensionOf f.filename.toList ext ∧ DefaultGrammar ext language ∧
          Language.ofPath f.filename = language ∧
          ∀ content, foundIn f.filename content = findSourceIssues language (some f.filename) content := by
  refine ⟨fun o root found => rfl, fun configured f => ChangedFile.eligible_iff configured f, ?_, ?_, ?_⟩
  · intro list list' f g hlist hfile
    exact ChangedFile.eligible_congr hlist hfile
  · intro configured
    rw [extensionsInForce_eq (some _), extensionsMeant, Option.getD_some, extensionsInForce_eq,
      map_map_normalExtension]
  · intro f h
    exact ChangedFile.foundIn_of_eligible h

/-- Markup in a directory, in another case, with the list in another order and with dots. -/
theorem eligibility_ignores_spelling_view :
    Respelled ["ts", "tsx"] [".TSX", "ts"] ∧
      ChangedFile.SameKind ⟨"view.tsx", "added"⟩ ⟨"app/View.TSX", "added"⟩ ∧
      ChangedFile.eligible (extensionsInForce (some [".TSX", "ts"])) ⟨"app/View.TSX", "added"⟩ = true ∧
      Language.ofPath "view.tsx" = .tsx := by
  have hletters : Respelled ["tsx", "ts"] ["TSX", "ts"] := .letters (by decide) _
  have hlist : Respelled ["ts", "tsx"] [".TSX", "ts"] :=
    .trans (.order (.swap _ _ _)) (.trans hletters (.dotted "TSX" _))
  have hfile : ChangedFile.SameKind ⟨"view.tsx", "added"⟩ ⟨"app/View.TSX", "added"⟩ :=
    .trans (g := ⟨"View.TSX", "added"⟩) (.letters rfl (by decide)) (.directory rfl (by decide))
  have helig : ChangedFile.eligible (extensionsInForce none) ⟨"view.tsx", "added"⟩ = true := by decide
  obtain ⟨-, -, hsame, -, hgrammar⟩ := eligibility_ignores_spelling
  obtain ⟨ext, language, hext, hlanguage, hpath, -⟩ := hgrammar _ helig
  refine ⟨hlist, hfile, (hsame _ _ _ _ hlist hfile).symm.trans helig, ?_⟩
  cases hlanguage with
  | typescript h => exact absurd hpath (by decide)
  | tsx h => exact hpath

/-- A name of two dots is no file, so it has no extension even where an empty one is configured. -/
theorem not_forall_eligible_iff :
    ¬ ∀ (configured : Option (List String)) (f : ChangedFile),
      f.eligible (extensionsInForce configured) = true ↔
        f.status ≠ "removed" ∧ ∃ ext, ExtensionOf f.filename.toList ext ∧
          ∃ e ∈ extensionsMeant configured, EqIgnoringCase ext (undotted e) := by
  intro h
  have hext : ExtensionOf "..".toList [] := ⟨['.', '.'], by decide, ['.'], rfl, by decide, by decide⟩
  have helig := (h (some ["."]) ⟨"..", "added"⟩).2 ⟨by decide, [], hext, ".", by decide, by decide⟩
  exact absurd helig (by decide)

end Fanout
