import Fanout.Text.Blank
import Fanout.Text.Line

/-!
# Lines and blanks

* `Tidy` : a text on one line, with no blanks around it;
* `Tidy.append` : what begins and ends tidily is tidy;
* `joined` : some lines as one text, with a line feed behind the last one or without;
* `lines_joined` : tidy lines are read back from the text that they make;
* `Ended` : a text that ends where a line ends, and `lines_append` : the lines of what follows it are read apart;
* `cutOnce_append` : a text is cut at a mark where no mark begins before it.
-/

namespace Fanout.Text

/-! ## Blanks at the ends -/

section
variable {p : Char → Bool} {c : Char}

theorem dropEndWhile_cons (h : p c = false) (cs : List Char) :
    dropEndWhile p (c :: cs) = c :: dropEndWhile p cs := by
  unfold dropEndWhile
  rw [List.reverse_cons, List.dropWhile_append, List.dropWhile_cons_of_neg (by simp [h])]
  cases hd : cs.reverse.dropWhile p <;> simp

theorem length_dropEndWhile_le (cs : List Char) : (dropEndWhile p cs).length ≤ cs.length := by
  have h := (List.dropWhile_sublist p (l := cs.reverse)).length_le
  rw [List.length_reverse] at h
  rw [dropEndWhile, List.length_reverse]
  exact h

theorem dropEndWhile_append {ending : List Char} (h : dropEndWhile p ending = ending)
    (hne : ending ≠ []) (cs : List Char) : dropEndWhile p (cs ++ ending) = cs ++ ending := by
  have h : ending.reverse.dropWhile p = ending.reverse := by
    rw [← List.reverse_inj, List.reverse_reverse]
    exact h
  rw [dropEndWhile, List.reverse_append, List.dropWhile_append, h]
  simp [hne]

end

/-- A text on one line, with no blanks around it. -/
structure Tidy (cs : List Char) : Prop where
  ne_nil : cs ≠ []
  oneLine : '\n' ∉ cs
  trim_eq : trim cs = cs

namespace Tidy
variable {cs : List Char}

theorem head_eq (h : Tidy cs) : ∃ c rest, cs = c :: rest ∧ isBlank c = false := by
  cases cs with
  | nil => exact absurd rfl h.ne_nil
  | cons c rest =>
    refine ⟨c, rest, rfl, Bool.eq_false_iff.2 fun hc => ?_⟩
    have hlen := congrArg List.length h.trim_eq
    have hle := length_dropEndWhile_le (p := isBlank) (rest.dropWhile isBlank)
    have hdrop := (List.dropWhile_sublist isBlank (l := rest)).length_le
    rw [trim, trimStart, List.dropWhile_cons_of_pos hc, trimEnd,
      List.length_cons] at hlen
    omega

theorem dropWhile_eq (h : Tidy cs) : cs.dropWhile isBlank = cs := by
  obtain ⟨c, rest, rfl, hc⟩ := h.head_eq
  rw [List.dropWhile_cons_of_neg (by simp [hc])]

theorem trimEnd_eq (h : Tidy cs) : trimEnd cs = cs := by
  have heq := h.trim_eq
  rwa [trim, trimStart, h.dropWhile_eq] at heq

/-- What stands before a tidy text does not matter to its end. -/
theorem trimEnd_append (h : Tidy cs) (start : List Char) : trimEnd (start ++ cs) = start ++ cs :=
  dropEndWhile_append h.trimEnd_eq h.ne_nil start

theorem append_dropWhile (h : Tidy cs) (rest : List Char) :
    (cs ++ rest).dropWhile isBlank = cs ++ rest := by
  obtain ⟨c, cs, rfl, hc⟩ := h.head_eq
  rw [List.cons_append, List.dropWhile_cons_of_neg (by simp [hc])]

theorem of_ends (hne : cs ≠ []) (hline : '\n' ∉ cs) (hstart : cs.dropWhile isBlank = cs)
    (hend : trimEnd cs = cs) : Tidy cs :=
  ⟨hne, hline, by rw [trim, trimStart, hstart, hend]⟩

theorem append {start ending : List Char} (hs : Tidy start) (he : Tidy ending) {middle : List Char}
    (hm : '\n' ∉ middle) : Tidy (start ++ (middle ++ ending)) := by
  refine of_ends ?_ ?_ (hs.append_dropWhile _) ?_
  · simp [hs.ne_nil]
  · simp [hs.oneLine, he.oneLine, hm]
  · rw [← List.append_assoc]
    exact he.trimEnd_append _

theorem of_not_blank (hne : cs ≠ []) (h : ∀ c ∈ cs, isBlank c = false) : Tidy cs := by
  refine of_ends hne (fun hm => absurd (h _ hm) (by decide)) ?_ ?_
  · cases cs with
    | nil => rfl
    | cons c rest => rw [List.dropWhile_cons_of_neg (by simp [h c])]
  · rw [trimEnd, dropEndWhile, ← List.reverse_inj, List.reverse_reverse]
    cases hr : cs.reverse with
    | nil => rfl
    | cons c rest =>
      have hc : c ∈ cs := List.mem_reverse.1 (hr ▸ List.mem_cons_self)
      rw [List.dropWhile_cons_of_neg (by simp [h c hc])]

/-- A tidy line does not end in a carriage return, which would be a blank. -/
theorem dropReturn_eq (h : Tidy cs) : dropReturn cs = cs := by
  unfold dropReturn
  split
  · rename_i hlast
    obtain ⟨start, rfl⟩ := List.getLast?_eq_some_iff.1 hlast
    have heq := h.trimEnd_eq
    rw [trimEnd, dropEndWhile, List.reverse_append, List.reverse_singleton, List.singleton_append,
      List.dropWhile_cons_of_pos (by decide)] at heq
    have hlen := congrArg List.length heq
    have hle := (List.dropWhile_sublist isBlank (l := start.reverse)).length_le
    rw [List.length_reverse, List.length_append, List.length_singleton] at hlen
    rw [List.length_reverse] at hle
    omega
  · rfl

end Tidy

/-! ## Lines -/

/-- Some lines as one text. A line feed stands behind the last one if the text is `ended`. -/
def joined (ended : Bool) : List (List Char) → List Char
  | [] => []
  | [l] => if ended then l ++ ['\n'] else l
  | l :: ls => l ++ '\n' :: joined ended ls

theorem joined_cons (ended : Bool) (l : List Char) {ls : List (List Char)} (h : ls ≠ []) :
    joined ended (l :: ls) = l ++ '\n' :: joined ended ls := by
  cases ls with
  | nil => exact absurd rfl h
  | cons l' ls => rfl

theorem joined_append (ended : Bool) (ls : List (List Char)) {more : List (List Char)}
    (h : more ≠ []) :
    joined ended (ls ++ more) = ls.flatMap (· ++ ['\n']) ++ joined ended more := by
  induction ls with
  | nil => rfl
  | cons l ls ih =>
    have hne : ls ++ more ≠ [] := by simp [h]
    rw [List.cons_append, joined_cons ended l hne, ih, List.flatMap_cons, List.append_assoc,
      List.append_assoc, List.singleton_append]

theorem linesFrom_append {l : List Char} (h : '\n' ∉ l) (line rest : List Char) :
    linesFrom line (l ++ '\n' :: rest) = dropReturn (line.reverse ++ l) :: linesFrom [] rest := by
  induction l generalizing line with
  | nil => rw [List.nil_append, linesFrom, List.append_nil]
  | cons c l ih =>
    rw [List.mem_cons, not_or] at h
    rw [List.cons_append, linesFrom, ih h.2]
    · simp
    · exact fun hc => h.1 hc.symm

theorem linesFrom_last {l : List Char} (h : '\n' ∉ l) (line : List Char) :
    linesFrom line l = if (line.reverse ++ l).isEmpty then [] else [line.reverse ++ l] := by
  induction l generalizing line with
  | nil => simp [linesFrom]
  | cons c l ih =>
    rw [List.mem_cons, not_or] at h
    rw [linesFrom, ih h.2]
    · simp
    · exact fun hc => h.1 hc.symm

theorem lines_joined (ended : Bool) {ls : List (List Char)} (h : ∀ l ∈ ls, Tidy l) :
    lines (joined ended ls) = ls := by
  unfold lines
  induction ls with
  | nil => rfl
  | cons l ls ih =>
    have hl := h l List.mem_cons_self
    by_cases hls : ls = []
    · subst hls
      cases ended with
      | true =>
        rw [joined, if_pos rfl, linesFrom_append hl.oneLine]
        simp [linesFrom, hl.dropReturn_eq]
      | false =>
        rw [joined, if_neg (by decide), linesFrom_last hl.oneLine]
        simp [hl.ne_nil]
    · rw [joined_cons ended l hls, linesFrom_append hl.oneLine,
        ih fun l' hl' => h l' (List.mem_cons_of_mem _ hl')]
      simp [hl.dropReturn_eq]

/-! ## Lines of a text in parts -/

/-- A text that is empty or ends where a line ends. -/
def Ended (cs : List Char) : Prop := cs = [] ∨ cs.getLast? = some '\n'

instance (cs : List Char) : Decidable (Ended cs) := inferInstanceAs (Decidable (_ ∨ _))

theorem linesFrom_of_ended {before : List Char} (h : before.getLast? = some '\n') (line rest : List Char) :
    linesFrom line (before ++ rest) = linesFrom line before ++ linesFrom [] rest := by
  induction before generalizing line with
  | nil => cases h
  | cons c cs ih =>
    by_cases hcs : cs = []
    · subst hcs
      obtain rfl : c = '\n' := Option.some_inj.1 h
      rfl
    · rw [List.getLast?_cons_of_ne_nil hcs] at h
      by_cases hc : c = '\n'
      · subst hc
        rw [List.cons_append, linesFrom, linesFrom, ih h, List.cons_append]
      · rw [List.cons_append, linesFrom, linesFrom, ih h]
        · exact fun h => hc h
        · exact fun h => hc h

/-- The lines of two texts are read one text after the other where the first one ends with a line. -/
theorem lines_append {before : List Char} (h : Ended before) (rest : List Char) :
    lines (before ++ rest) = lines before ++ lines rest := by
  obtain rfl | h := h
  · rfl
  · exact linesFrom_of_ended h [] rest

theorem lines_line {line : List Char} (h : '\n' ∉ line) (rest : List Char) :
    lines (line ++ '\n' :: rest) = dropReturn line :: lines rest :=
  linesFrom_append h [] rest

theorem dropReturn_append {start : List Char} (h : start.getLast? ≠ some '\r') (ending : List Char) :
    dropReturn (start ++ ending) = start ++ dropReturn ending := by
  cases ending with
  | nil => rw [List.append_nil, dropReturn, if_neg h, show dropReturn [] = [] from rfl, List.append_nil]
  | cons c ending =>
    have hlast : (start ++ c :: ending).getLast? = (c :: ending).getLast? := by
      rw [List.getLast?_append, List.getLast?_cons, Option.some_or]
    rw [dropReturn, dropReturn, hlast]
    by_cases hc : (c :: ending).getLast? = some '\r'
    · rw [if_pos hc, if_pos hc, List.dropLast_append_cons]
    · rw [if_neg hc, if_neg hc]

/-- What a text begins with is the beginning of its first line, if it has no line end. -/
theorem exists_lines_append (rest : List Char) :
    ∃ ending more, ∀ start : List Char, start ≠ [] → '\n' ∉ start → start.getLast? ≠ some '\r' →
      lines (start ++ rest) = (start ++ ending) :: more := by
  by_cases hrest : '\n' ∈ rest
  · obtain ⟨ending, more, rfl, hending⟩ := List.eq_append_cons_of_mem hrest
    refine ⟨dropReturn ending, lines more, fun start _ hstart hlast => ?_⟩
    have hline : '\n' ∉ start ++ ending := by simp [hstart, hending]
    rw [← List.append_assoc, lines_line hline, dropReturn_append hlast]
  · refine ⟨rest, [], fun start hne hstart _ => ?_⟩
    rw [lines, linesFrom_last (by simp [hstart, hrest])]
    simp [hne]

theorem mem_of_mem_linesFrom {cs line l : List Char} {c : Char} (hl : l ∈ linesFrom line cs) (hc : c ∈ l) :
    c ∈ line ∨ c ∈ cs := by
  fun_induction linesFrom line cs with
  | case1 line hempty => cases hl
  | case2 line hempty =>
    rw [List.mem_singleton.1 hl, List.mem_reverse] at hc
    exact .inl hc
  | case3 line cs ih =>
    obtain rfl | hl := List.mem_cons.1 hl
    · have hmem : c ∈ line.reverse := by
        unfold dropReturn at hc
        split at hc
        · exact (List.dropLast_sublist line.reverse).subset hc
        · exact hc
      exact .inl (List.mem_reverse.1 hmem)
    · have hcs := (ih hl).resolve_left nofun
      exact .inr (List.mem_cons_of_mem _ hcs)
  | case4 line c' cs hc' ih =>
    obtain hline | hcs := ih hl
    · obtain rfl | hline := List.mem_cons.1 hline
      · exact .inr List.mem_cons_self
      · exact .inl hline
    · exact .inr (List.mem_cons_of_mem _ hcs)

theorem mem_of_mem_lines {cs l : List Char} {c : Char} (hl : l ∈ lines cs) (hc : c ∈ l) : c ∈ cs :=
  (mem_of_mem_linesFrom hl hc).resolve_left nofun

theorem not_mem_of_mem_linesFrom {cs line l : List Char} (hline : '\n' ∉ line) (hl : l ∈ linesFrom line cs) :
    '\n' ∉ l := by
  fun_induction linesFrom line cs with
  | case1 line hempty => cases hl
  | case2 line hempty =>
    rw [List.mem_singleton.1 hl, List.mem_reverse]
    exact hline
  | case3 line cs ih =>
    obtain rfl | hl := List.mem_cons.1 hl
    · unfold dropReturn
      split
      · exact fun hfeed => hline (List.mem_reverse.1 ((List.dropLast_sublist line.reverse).subset hfeed))
      · exact fun hfeed => hline (List.mem_reverse.1 hfeed)
    · exact ih List.not_mem_nil hl
  | case4 line c cs hc ih =>
    refine ih (fun hfeed => ?_) hl
    obtain rfl | hfeed := List.mem_cons.1 hfeed
    · exact hc rfl
    · exact hline hfeed

/-- No line of a text has a line feed. -/
theorem not_mem_of_mem_lines {cs l : List Char} (hl : l ∈ lines cs) : '\n' ∉ l :=
  not_mem_of_mem_linesFrom List.not_mem_nil hl

/-! ## Cutting -/

/-- A text is cut at a mark where no mark begins before it. -/
theorem cutOnce_append (mark : List Char) {before after : List Char} (hne : mark ≠ [])
    (h : ∀ s, s <:+ before → s ≠ [] → ¬ mark <+: s ++ (mark ++ after)) :
    cutOnce mark (before ++ (mark ++ after)) = some (before, after) := by
  induction before with
  | nil =>
    obtain ⟨m, ms, rfl⟩ := List.exists_cons_of_ne_nil hne
    rw [List.nil_append, List.cons_append, cutOnce, if_pos]
    · simp
    · simp
  | cons c before ih =>
    have hc := h (c :: before) List.suffix_rfl (by simp)
    rw [List.cons_append, cutOnce, if_neg (by simpa [List.isPrefixOf_iff_prefix] using hc), ih]
    · rfl
    · intro s hs
      exact h s (hs.trans (List.suffix_cons c before))

theorem eq_append_of_cutOnce {mark cs before after : List Char} (h : cutOnce mark cs = some (before, after)) :
    cs = before ++ (mark ++ after) := by
  induction cs generalizing before with
  | nil =>
    obtain ⟨hmark, h⟩ := Option.ite_none_right_eq_some.1 h
    cases h
    rw [List.isEmpty_iff.1 hmark]
    rfl
  | cons c cs ih =>
    by_cases hmark : mark.isPrefixOf (c :: cs) = true
    · rw [cutOnce, if_pos hmark] at h
      cases h
      obtain ⟨rest, hrest⟩ := List.isPrefixOf_iff_prefix.1 hmark
      rw [← hrest, List.drop_left, List.nil_append]
    · rw [cutOnce, if_neg hmark] at h
      obtain ⟨⟨start, rest⟩, hcut, h⟩ := Option.map_eq_some_iff.1 h
      cases h
      rw [ih hcut, List.cons_append]

end Fanout.Text
