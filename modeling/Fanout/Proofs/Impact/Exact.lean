import Mathlib.Algebra.Order.Field.Rat
import Mathlib.Tactic.Linarith
import Mathlib.Tactic.NormNum
import Mathlib.Tactic.Positivity
import Mathlib.Tactic.Ring
import Fanout.Impact.Metrics

/-!
# The figures in exact arithmetic

* `Arithmetic` : the operations that the figures are computed with, on any kind of number;
* `Arithmetic.figures`, `Arithmetic.improvedLoadTime` : the figures of a count of critical issues, once for
  all kinds of numbers;
* `toFigures_ofCount` : in doubles they are the figures that a report holds;
* `rationals_figures` : in rationals they are linear in the count, but for one that has a limit;
* `figures_of_count` : what the count alone decides, how figures add up, and the range they stay in.

The rationals take each literal at its decimal value, to which a double may only come close.
-/

namespace Fanout

/-- Operations on numbers. A decimal is a natural number over a power of ten. -/
structure Arithmetic (α : Type) where
  ofNat : Nat → α
  decimal : Nat → Nat → α
  add : α → α → α
  sub : α → α → α
  mul : α → α → α
  div : α → α → α
  Less : α → α → Prop
  [decidableLess : DecidableRel Less]

attribute [instance] Arithmetic.decidableLess

/-- The four figures in some kind of numbers. -/
structure Figures (α : Type) where
  loadTime : α
  databaseLoad : α
  networkRequests : α
  potentialImprovement : α

namespace Arithmetic
variable {α : Type} (A : Arithmetic α)

def least (a b : α) : α := if A.Less b a then b else a

/-- The figures of a number of critical issues. -/
def figures (critical : Nat) (model : LoadTimeModel) : Figures α :=
  let k := A.ofNat critical
  { loadTime := match model with
      | .perIssue => A.add (A.decimal 28 1) (A.mul (A.decimal 5 1) k)
      | .flat => A.decimal 28 1
    databaseLoad := A.mul (A.decimal 15 1) k
    networkRequests := A.mul (A.ofNat 15) k
    potentialImprovement := A.least (A.mul (A.ofNat 20) k) (A.ofNat 80) }

/-- The load time once the improvement has been made. -/
def improvedLoadTime (f : Figures α) : α :=
  A.mul f.loadTime (A.sub (A.ofNat 1) (A.div f.potentialImprovement (A.ofNat 100)))

end Arithmetic

/-! ## Doubles -/

def doubles : Arithmetic Float where
  ofNat := Float.ofNat
  decimal n d := Float.ofScientific n true d
  add := (· + ·)
  sub := (· - ·)
  mul := (· * ·)
  div := (· / ·)
  Less := (· < ·)
  decidableLess := inferInstance

namespace Metrics

def toFigures (m : Metrics) : Figures Float :=
  ⟨m.loadTime, m.databaseLoad, m.networkRequests, m.potentialImprovement⟩

theorem toFigures_ofCount (k : Nat) (model : LoadTimeModel) :
    (ofCount k model).toFigures = doubles.figures k model := by
  cases model with
  | perIssue => rfl
  | flat => rfl

theorem improvedLoadTime_eq (m : Metrics) : m.improvedLoadTime = doubles.improvedLoadTime m.toFigures := rfl

end Metrics

/-! ## Rationals -/

def rationals : Arithmetic ℚ where
  ofNat n := n
  decimal n d := n / 10 ^ d
  add := (· + ·)
  sub := (· - ·)
  mul := (· * ·)
  div := (· / ·)
  Less := (· < ·)
  decidableLess := inferInstance

theorem rationals_least (a b : ℚ) : rationals.least a b = min a b := (min_def_lt' a b).symm

theorem rationals_figures (k : Nat) (model : LoadTimeModel) :
    rationals.figures k model =
      { loadTime := match model with
          | .perIssue => 2.8 + 0.5 * k
          | .flat => 2.8
        databaseLoad := 1.5 * k
        networkRequests := 15 * k
        potentialImprovement := min (20 * k) 80 } := by
  have hbase : rationals.decimal 28 1 = 2.8 := by
    norm_num [rationals]
  have htime : rationals.decimal 5 1 = 0.5 := by
    norm_num [rationals]
  have hload : rationals.decimal 15 1 = 1.5 := by
    norm_num [rationals]
  unfold Arithmetic.figures
  dsimp only
  rw [hbase, htime, hload, rationals_least]
  cases model with
  | perIssue => rfl
  | flat => rfl

theorem rationals_improvedLoadTime (f : Figures ℚ) :
    rationals.improvedLoadTime f = f.loadTime * (1 - f.potentialImprovement / 100) := rfl

/-- No figure is above that of the other. -/
structure Figures.AtMost (f g : Figures ℚ) : Prop where
  loadTime : f.loadTime ≤ g.loadTime
  databaseLoad : f.databaseLoad ≤ g.databaseLoad
  networkRequests : f.networkRequests ≤ g.networkRequests
  potentialImprovement : f.potentialImprovement ≤ g.potentialImprovement

/-- More critical issues lower no figure. -/
theorem rationals_figures_mono {j k : Nat} (h : j ≤ k) (model : LoadTimeModel) :
    (rationals.figures j model).AtMost (rationals.figures k model) := by
  have hcast : (j : ℚ) ≤ k := Nat.cast_le.2 h
  rw [rationals_figures, rationals_figures]
  refine ⟨?_, ?_, ?_, ?_⟩
  · cases model with
    | perIssue => exact (by linarith : (2.8 + 0.5 * j : ℚ) ≤ 2.8 + 0.5 * k)
    | flat => exact le_refl (2.8 : ℚ)
  · exact (by linarith : (1.5 * j : ℚ) ≤ 1.5 * k)
  · exact (by linarith : (15 * j : ℚ) ≤ 15 * k)
  · exact min_le_min_right 80 (by linarith)

theorem potentialImprovement_mem (k : Nat) (model : LoadTimeModel) :
    0 ≤ (rationals.figures k model).potentialImprovement ∧
      (rationals.figures k model).potentialImprovement ≤ 80 := by
  rw [rationals_figures]
  exact ⟨le_min (by positivity) (by norm_num), min_le_right _ _⟩

theorem loadTime_pos (k : Nat) (model : LoadTimeModel) : 0 < (rationals.figures k model).loadTime := by
  rw [rationals_figures]
  cases model with
  | perIssue => exact (by positivity : (0 : ℚ) < 2.8 + 0.5 * k)
  | flat => exact (by norm_num : (0 : ℚ) < 2.8)

/-- An improvement of at most 80 percent leaves a fifth of the load time. -/
theorem improvedLoadTime_mem (k : Nat) (model : LoadTimeModel) :
    (rationals.figures k model).loadTime / 5 ≤ rationals.improvedLoadTime (rationals.figures k model) ∧
      rationals.improvedLoadTime (rationals.figures k model) ≤ (rationals.figures k model).loadTime := by
  obtain ⟨hnonneg, hmost⟩ := potentialImprovement_mem k model
  have hpos := loadTime_pos k model
  rw [rationals_improvedLoadTime]
  generalize rationals.figures k model = f at *
  have hfifth : 1 / 5 ≤ 1 - f.potentialImprovement / 100 := by linarith
  have hone : 1 - f.potentialImprovement / 100 ≤ 1 := by linarith
  constructor
  · calc f.loadTime / 5 = f.loadTime * (1 / 5) := by ring
      _ ≤ f.loadTime * (1 - f.potentialImprovement / 100) := mul_le_mul_of_nonneg_left hfifth hpos.le
  · exact mul_le_of_le_one_right hpos.le hone

/-! ## Lists of issues -/

/-- The figures of a list of issues in exact arithmetic. -/
def exactFigures (issues : List Issue) (model : LoadTimeModel) : Figures ℚ :=
  rationals.figures (countOf .critical issues) model

theorem countOf_append (severity : Severity) (a b : List Issue) :
    countOf severity (a ++ b) = countOf severity a + countOf severity b := List.countP_append

theorem countOf_insert {severity : Severity} {i : Issue} (h : i.severity ≠ severity) (a b : List Issue) :
    countOf severity (a ++ i :: b) = countOf severity (a ++ b) := by
  have hother : ¬ (i.severity == severity) = true := fun heq => h (eq_of_beq heq)
  rw [countOf_append, countOf_append]
  exact congrArg _ (List.countP_cons_of_neg hother)

theorem synthesize_congr {a b : List Issue} (h : countOf .critical a = countOf .critical b)
    (model : LoadTimeModel) :
    Metrics.synthesize a model = Metrics.synthesize b model ∧ exactFigures a model = exactFigures b model := by
  unfold Metrics.synthesize exactFigures
  rw [h]
  exact ⟨rfl, rfl⟩

/-- The figures of a report are those of one formula, taken in doubles. They depend on the number of critical
issues alone, so neither the order of issues nor a warning or an info among them matters. In exact arithmetic
load and requests of two lists add up, and so do load times of the model that counts issues, but for the base
that both have; more critical issues lower no figure; and the improvement is at most 80 percent, so that
between a fifth of the load time and all of it is left. -/
theorem figures_of_count (a b : List Issue) (model : LoadTimeModel) :
    ((Metrics.synthesize a model).toFigures = doubles.figures (countOf .critical a) model ∧
      (Metrics.synthesize a model).improvedLoadTime =
        doubles.improvedLoadTime (doubles.figures (countOf .critical a) model)) ∧
    (countOf .critical a = countOf .critical b →
      Metrics.synthesize a model = Metrics.synthesize b model ∧
        exactFigures a model = exactFigures b model) ∧
    (a.Perm b →
      Metrics.synthesize a model = Metrics.synthesize b model ∧
        exactFigures a model = exactFigures b model) ∧
    (∀ i : Issue, i.severity ≠ .critical →
      Metrics.synthesize (a ++ i :: b) model = Metrics.synthesize (a ++ b) model ∧
        exactFigures (a ++ i :: b) model = exactFigures (a ++ b) model) ∧
    (exactFigures (a ++ b) model).databaseLoad =
      (exactFigures a model).databaseLoad + (exactFigures b model).databaseLoad ∧
    (exactFigures (a ++ b) model).networkRequests =
      (exactFigures a model).networkRequests + (exactFigures b model).networkRequests ∧
    (exactFigures (a ++ b) .perIssue).loadTime + 2.8 =
      (exactFigures a .perIssue).loadTime + (exactFigures b .perIssue).loadTime ∧
    (countOf .critical a ≤ countOf .critical b → (exactFigures a model).AtMost (exactFigures b model)) ∧
    0 ≤ (exactFigures a model).potentialImprovement ∧ (exactFigures a model).potentialImprovement ≤ 80 ∧
    (exactFigures a model).loadTime / 5 ≤ rationals.improvedLoadTime (exactFigures a model) ∧
    rationals.improvedLoadTime (exactFigures a model) ≤ (exactFigures a model).loadTime ∧
    0 < rationals.improvedLoadTime (exactFigures a model) := by
  obtain ⟨hnonneg, hmost⟩ := potentialImprovement_mem (countOf .critical a) model
  obtain ⟨hfifth, hwhole⟩ := improvedLoadTime_mem (countOf .critical a) model
  have hpos := loadTime_pos (countOf .critical a) model
  have hsum : ((countOf .critical (a ++ b) : Nat) : ℚ) = countOf .critical a + countOf .critical b := by
    rw [countOf_append, Nat.cast_add]
  refine ⟨⟨Metrics.toFigures_ofCount _ model, ?_⟩, fun h => synthesize_congr h model,
    fun h => synthesize_congr (h.countP_eq _) model, fun i h => synthesize_congr (countOf_insert h a b) model,
    ?_, ?_, ?_, fun h => rationals_figures_mono h model, hnonneg, hmost, hfifth, hwhole, ?_⟩
  · rw [Metrics.improvedLoadTime_eq, ← Metrics.toFigures_ofCount]
    rfl
  · simp only [exactFigures, rationals_figures, hsum]
    ring
  · simp only [exactFigures, rationals_figures, hsum]
    ring
  · simp only [exactFigures, rationals_figures, hsum]
    ring
  · exact lt_of_lt_of_le (by positivity) hfifth

/-- A critical issue and a warning against two critical issues. -/
theorem figures_of_count_two :
    let a : List Issue := [{ severity := .critical }, { severity := .warning }]
    let b : List Issue := [{ severity := .critical }, { severity := .critical }]
    (exactFigures a .perIssue).AtMost (exactFigures b .perIssue) ∧
      Metrics.synthesize [{ severity := .warning }, { severity := .critical }] .perIssue =
        Metrics.synthesize a .perIssue ∧
      Metrics.synthesize (a ++ { severity := .info } :: b) .flat = Metrics.synthesize (a ++ b) .flat ∧
      (exactFigures (a ++ b) .perIssue).loadTime = 4.3 := by
  intro a b
  obtain ⟨-, -, hperm, -, -, -, hsum, hmono, -⟩ := figures_of_count a b .perIssue
  obtain ⟨-, -, -, hinsert, -⟩ := figures_of_count a b .flat
  obtain ⟨-, -, hswap, -⟩ := figures_of_count [{ severity := .warning }, { severity := .critical }] a .perIssue
  refine ⟨hmono (by decide), (hswap (List.Perm.swap _ _ [])).1, (hinsert _ (by decide)).1, ?_⟩
  have ha : (exactFigures a .perIssue).loadTime = 3.3 := by
    show (rationals.figures 1 .perIssue).loadTime = _
    rw [rationals_figures]
    norm_num
  have hb : (exactFigures b .perIssue).loadTime = 3.8 := by
    show (rationals.figures 2 .perIssue).loadTime = _
    rw [rationals_figures]
    norm_num
  rw [ha, hb] at hsum
  linarith

end Fanout
