import Mathlib.Data.List.DropRight
import Mathlib.Data.List.TakeWhile
import Fanout.Proofs.Bytes.Utf8
import Fanout.Proofs.Path.Parents

/-!
# Extensions of files

* `EqIgnoringCase` : texts that are the same but for the case of letters of ASCII;
* `HasExtension`, `ExtensionOf` : what follows the last dot of a name, before which something stands, and of the last
  component of a path;
* `extension?_eq_some_iff` : a path has the extension of its last component, unless that is `..`;
* `extension?_lowerAscii` : the extension of a path in lower case is its extension in lower case;
* `normalExtension_normalExtension` : an extension without dots before it, in lower case, stays as it is.
-/

namespace Fanout

/-! ## Letter case -/

/-- The same texts, but for the case of letters of ASCII. -/
def EqIgnoringCase (a b : List Char) : Prop := a.map Char.toLower = b.map Char.toLower

instance (a b : List Char) : Decidable (EqIgnoringCase a b) :=
  inferInstanceAs (Decidable (a.map Char.toLower = b.map Char.toLower))

namespace Text

theorem toNat_lowerChar {c : Char} (h : 'A' ≤ c ∧ c ≤ 'Z') : (lowerChar c).toNat = c.toNat + 32 := by
  have hhigh : c.toNat ≤ 90 := h.2
  rw [lowerChar, if_pos (by simpa using h), Utf8.char_toNat_ofNat (.inl (by omega))]

theorem lowerChar_of_not {c : Char} (h : ¬('A' ≤ c ∧ c ≤ 'Z')) : lowerChar c = c := by
  rw [lowerChar, if_neg (by simpa using h)]

theorem lowerChar_eq (c : Char) : lowerChar c = c.toLower := by
  by_cases h : 'A' ≤ c ∧ c ≤ 'Z'
  · have hval : c.val ≥ 'A'.val ∧ c.val ≤ 'Z'.val := h
    have hhigh : c.toNat ≤ 90 := h.2
    have hlower : c.toLower.val = c.val + 32 := congrArg Char.val (dif_pos hval)
    refine Char.toNat_inj.1 ?_
    rw [toNat_lowerChar h]
    show c.toNat + 32 = c.toLower.val.toNat
    rw [hlower, UInt32.toNat_add]
    show c.toNat + 32 = (c.toNat + 32) % 2 ^ 32
    omega
  · have hval : ¬(c.val ≥ 'A'.val ∧ c.val ≤ 'Z'.val) := h
    have hsame : c.toLower = c := dif_neg hval
    rw [lowerChar_of_not h, hsame]

theorem lowerAscii_eq (cs : List Char) : lowerAscii cs = cs.map Char.toLower :=
  List.map_congr_left fun c _ => lowerChar_eq c

theorem lowerAscii_eq_iff_eqIgnoringCase {a b : List Char} : lowerAscii a = lowerAscii b ↔ EqIgnoringCase a b := by
  rw [lowerAscii_eq, lowerAscii_eq, EqIgnoringCase]

/-- A character before the letters is the lower case of itself only. -/
theorem lowerChar_eq_iff {c d : Char} (hd : d < 'A') : lowerChar c = d ↔ c = d := by
  have hd : d.toNat < 65 := hd
  by_cases h : 'A' ≤ c ∧ c ≤ 'Z'
  · have hlow : 65 ≤ c.toNat := h.1
    rw [← Char.toNat_inj, ← Char.toNat_inj, toNat_lowerChar h]
    omega
  · rw [lowerChar_of_not h]

theorem lowerAscii_eq_iff_of_all {cs ds : List Char} (hds : ds.all (· < 'A') = true) :
    lowerAscii cs = ds ↔ cs = ds := by
  induction cs generalizing ds with
  | nil => rfl
  | cons c cs ih =>
    cases ds with
    | nil => simp [lowerAscii]
    | cons d ds =>
      rw [List.all_cons, Bool.and_eq_true, decide_eq_true_eq] at hds
      rw [lowerAscii, List.map_cons, List.cons.injEq, List.cons.injEq, lowerChar_eq_iff hds.1]
      exact and_congr_right fun _ => ih hds.2

@[simp]
theorem lowerChar_lowerChar (c : Char) : lowerChar (lowerChar c) = lowerChar c := by
  by_cases h : 'A' ≤ c ∧ c ≤ 'Z'
  · refine lowerChar_of_not fun hlower => ?_
    have hlow : 65 ≤ c.toNat := h.1
    have hhigh : (lowerChar c).toNat ≤ 90 := hlower.2
    rw [toNat_lowerChar h] at hhigh
    omega
  · rw [lowerChar_of_not h, lowerChar_of_not h]

@[simp]
theorem lowerAscii_lowerAscii (cs : List Char) : lowerAscii (lowerAscii cs) = lowerAscii cs := by
  rw [lowerAscii, lowerAscii, List.map_map]
  exact List.map_congr_left fun c _ => lowerChar_lowerChar c

end Text

namespace Path
open Text

/-! ## What an extension is -/

/-- A name with a dot in it, but not only at its beginning, has what follows the last dot. -/
def HasExtension (name ext : List Char) : Prop := ∃ stem, name = stem ++ '.' :: ext ∧ stem ≠ [] ∧ '.' ∉ ext

theorem extensionOf?_eq_some_iff {name ext : List Char} : extensionOf? name = some ext ↔ HasExtension name ext := by
  unfold extensionOf?
  dsimp only
  have hsplit := List.takeWhile_append_dropWhile (p := (· != '.')) (l := name.reverse)
  refine ⟨fun h => ?_, fun ⟨stem, hname, hstem, hext⟩ => ?_⟩
  · split at h
    · rename_i hlength
      have hlengths := congrArg List.length hsplit
      rw [List.length_append, List.length_reverse] at hlengths
      cases hbehind : name.reverse.dropWhile (· != '.') with
      | nil =>
        rw [hbehind, List.length_nil] at hlengths
        omega
      | cons c rest =>
        have hc : c = '.' := by
          have hhead := List.head_dropWhile_not (· != '.') (l := name.reverse) (by rw [hbehind]; simp)
          simpa [hbehind] using hhead
        have hname : name = rest.reverse ++ '.' :: ext := by
          rw [← List.reverse_reverse name, ← hsplit, hbehind, hc, ← Option.some.inj h]
          simp
        refine ⟨rest.reverse, hname, fun hnil => ?_, fun hdot => ?_⟩
        · rw [hbehind, List.reverse_eq_nil_iff.1 hnil, List.length_singleton] at hlengths
          omega
        · rw [← Option.some.inj h, List.mem_reverse] at hdot
          exact absurd (List.mem_takeWhile_imp hdot) (by decide)
    · cases h
  · have hreverse : name.reverse = ext.reverse ++ '.' :: stem.reverse := by
      rw [hname, List.reverse_append, List.reverse_cons, List.append_assoc]
      rfl
    have hkept : ∀ c ∈ ext.reverse, (c != '.') = true := by
      intro c hc
      rw [bne_iff_ne]
      rintro rfl
      exact hext (List.mem_reverse.1 hc)
    have htail : name.reverse.takeWhile (· != '.') = ext.reverse := by
      rw [hreverse, List.takeWhile_append_of_pos hkept, List.takeWhile_cons_of_neg (by decide), List.append_nil]
    have hlong : 0 < stem.length := List.length_pos_iff.2 hstem
    rw [htail, if_pos, List.reverse_reverse]
    rw [hname, List.length_append, List.length_cons, List.length_reverse]
    omega

/-- The extension of a path is that of its last component. -/
def ExtensionOf (path ext : List Char) : Prop :=
  ∃ name, (components path).getLast? = some name ∧ HasExtension name ext

theorem extension?_eq_some_iff {path ext : List Char} :
    extension? path = some ext ↔ (components path).getLast? ≠ some ['.', '.'] ∧ ExtensionOf path ext := by
  unfold extension? fileName? ExtensionOf
  cases (components path).getLast? with
  | none => simp
  | some name =>
    by_cases hup : name = ['.', '.']
    · simp [hup]
    · simp [hup, extensionOf?_eq_some_iff]

/-- A dot at the beginning of a name begins no extension, unless it is the second one. -/
example : extension? "a/.ts".toList = none ∧ extension? "a/..ts".toList = some ['t', 's'] := by decide

theorem extension?_congr {path other : List Char}
    (h : (components path).getLast? = (components other).getLast?) : extension? path = extension? other := by
  unfold extension? fileName?
  rw [h]

/-! ## Extensions in lower case -/

theorem pieces_lowerAscii (path : List Char) : pieces (lowerAscii path) = (pieces path).map lowerAscii := by
  unfold pieces
  induction path with
  | nil => rfl
  | cons c cs ih =>
    have hslash : (lowerChar c == '/') = (c == '/') := by
      rw [Bool.eq_iff_iff, beq_iff_eq, beq_iff_eq, lowerChar_eq_iff (by decide)]
    rw [lowerAscii, List.map_cons, ← lowerAscii, splitAt, splitAt, ih, hslash]
    split
    · rfl
    · cases splitAt (· == '/') cs <;> rfl

theorem components_lowerAscii (path : List Char) :
    components (lowerAscii path) = (components path).map lowerAscii := by
  rw [components, pieces_lowerAscii, List.filter_map, components]
  refine congrArg (List.map lowerAscii) (List.filter_congr fun piece _ => ?_)
  have hdot : lowerAscii piece = ['.'] ↔ piece = ['.'] := lowerAscii_eq_iff_of_all (by decide)
  have hempty : (lowerAscii piece).isEmpty = piece.isEmpty := by cases piece <;> rfl
  rw [Function.comp_apply, hempty, Bool.eq_iff_iff]
  simp only [Bool.and_eq_true, bne_iff_ne, ne_eq, hdot]

theorem extensionOf?_lowerAscii (name : List Char) :
    extensionOf? (lowerAscii name) = (extensionOf? name).map lowerAscii := by
  have htail : (lowerAscii name).reverse.takeWhile (· != '.') =
      lowerAscii (name.reverse.takeWhile (· != '.')) := by
    rw [lowerAscii, ← List.map_reverse, List.takeWhile_map, lowerAscii]
    refine congrArg (List.map lowerChar) (congrArg (List.takeWhile · name.reverse) (funext fun c => ?_))
    rw [Function.comp_apply, Bool.eq_iff_iff, bne_iff_ne, bne_iff_ne, ne_eq, lowerChar_eq_iff (by decide)]
  unfold extensionOf?
  dsimp only
  rw [htail, lowerAscii, lowerAscii, List.length_map, List.length_map]
  split
  · rw [← List.map_reverse]
    rfl
  · rfl

theorem extension?_lowerAscii (path : List Char) :
    extension? (lowerAscii path) = (extension? path).map lowerAscii := by
  unfold extension? fileName?
  rw [components_lowerAscii, List.getLast?_map]
  cases (components path).getLast? with
  | none => rfl
  | some name =>
    have hup : lowerAscii name = ['.', '.'] ↔ name = ['.', '.'] := lowerAscii_eq_iff_of_all (by decide)
    simp only [Option.map_some, hup]
    split
    · rfl
    · exact extensionOf?_lowerAscii name

/-! ## Extensions as they are compared -/

theorem toList_normalExtension (e : String) :
    (normalExtension e).toList = lowerAscii (e.toList.dropWhile (· == '.')) :=
  String.toList_ofList

theorem dropWhile_lowerAscii (cs : List Char) :
    (lowerAscii cs).dropWhile (· == '.') = lowerAscii (cs.dropWhile (· == '.')) := by
  rw [lowerAscii, List.dropWhile_map, lowerAscii]
  refine congrArg (List.map lowerChar) (congrArg (List.dropWhile · cs) (funext fun c => ?_))
  rw [Function.comp_apply, Bool.eq_iff_iff, beq_iff_eq, beq_iff_eq, lowerChar_eq_iff (by decide)]

@[simp]
theorem normalExtension_normalExtension (e : String) : normalExtension (normalExtension e) = normalExtension e := by
  rw [← String.toList_inj, toList_normalExtension, toList_normalExtension, dropWhile_lowerAscii,
    List.dropWhile_idempotent, lowerAscii_lowerAscii]

theorem normalExtension_congr {e e' : String} (h : EqIgnoringCase e.toList e'.toList) :
    normalExtension e = normalExtension e' := by
  rw [← String.toList_inj, toList_normalExtension, toList_normalExtension, ← dropWhile_lowerAscii,
    lowerAscii_eq_iff_eqIgnoringCase.2 h, dropWhile_lowerAscii]

theorem normalExtension_dot (e : String) : normalExtension ("." ++ e) = normalExtension e := by
  rw [← String.toList_inj, toList_normalExtension, toList_normalExtension, String.toList_append]
  rfl

end Path
end Fanout
