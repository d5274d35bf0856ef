/-!
# Places in a source text

* `Point` : a row and a column, both counted from zero, the column in bytes of UTF-8;
* `Location` : the line, counted from one, and the column that reports show; both are 32-bit words
  and stay at the largest word when a text is larger.
-/

namespace Fanout

structure Point where
  row : Nat
  column : Nat
  deriving Repr, DecidableEq, Inhabited

structure Location where
  line : UInt32
  column : UInt32
  deriving Repr, DecidableEq, Inhabited

/-- The largest 32-bit word. -/
def maxWord : Nat := 0xFFFFFFFF

/-- The place as a report shows it. -/
def Point.location (p : Point) : Location :=
  ⟨UInt32.ofNat (min (p.row + 1) maxWord), UInt32.ofNat (min p.column maxWord)⟩

theorem Point.location_line_toNat (p : Point) :
    p.location.line.toNat = min (p.row + 1) maxWord := by
  simp only [location, UInt32.toNat_ofNat', maxWord]
  omega

theorem Point.location_column_toNat (p : Point) :
    p.location.column.toNat = min p.column maxWord := by
  simp only [location, UInt32.toNat_ofNat', maxWord]
  omega

/-- No place is reported on line zero. -/
theorem Point.location_line_pos (p : Point) : 0 < p.location.line.toNat := by
  rw [location_line_toNat, maxWord]
  omega

end Fanout
