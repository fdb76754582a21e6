import JsonSchema.Proofs.Equality

set_option autoImplicit false

/-! Numbers compared through the doubles nearest to them. Rounding never turns an order round, so two numbers
compare as their doubles do unless they share one; for that one of them has to be an integer of more than
53 bits. -/

namespace JsonSchema

/-- Of two numbers the lesser is not rounded to the greater double. -/
theorem Binary64.IsNearest.mono {left right : Int} {low high : Binary64} (less : left < right)
    (atLeft : low.IsNearest left 1) (atRight : high.IsNearest right 1) : low.units ≤ high.units := by
  -- Otherwise the two are at least as far apart as half the way between the doubles, the wrong way round.
  by_contra turned
  have nearer := atLeft.nearest high
  have nearerToo := atRight.nearest low
  unfold distance at nearer nearerToo
  omega

namespace Number

private theorem isNearest_iff (number : Number) (double : Binary64) :
    double.IsNearest number.units 1 ↔ double.units = number.toBinary64.units := by
  cases number with
  | integer value inRange => exact Binary64.isNearest_ofInt?_iff (ofInt?_toBinary64 inRange) double
  | double value =>
      constructor
      · intro nearest
        have closest := nearest.nearest value
        simp only [Binary64.distance, units] at closest
        simp only [toBinary64]
        omega
      · intro same
        exact Binary64.isNearest_of_eq Nat.one_pos ((Int.mul_one _).trans same)

private theorem isNearest_toBinary64 (number : Number) : number.toBinary64.IsNearest number.units 1 :=
  (number.isNearest_iff _).mpr rfl

private theorem units_toBinary64_eq {left right : Number} (same : left.units = right.units) :
    left.toBinary64.units = right.toBinary64.units := by
  rw [← isNearest_iff, ← same]
  exact left.isNearest_toBinary64

theorem units_toBinary64_le {left right : Number} (le : left.units ≤ right.units) :
    left.toBinary64.units ≤ right.toBinary64.units := by
  obtain less | same := Int.lt_or_eq_of_le le
  · exact left.isNearest_toBinary64.mono less right.isNearest_toBinary64
  · exact Int.le_of_eq (units_toBinary64_eq same)

/-- Two different numbers to which one double is nearest. -/
def Blurs (left right : Number) : Prop :=
  left.units ≠ right.units ∧
    ∃ double : Binary64, double.IsNearest left.units 1 ∧ double.IsNearest right.units 1

private theorem blurs_iff {left right : Number} :
    left.Blurs right ↔
      left.units ≠ right.units ∧ left.toBinary64.units = right.toBinary64.units := by
  refine and_congr_right fun _ => ?_
  simp only [isNearest_iff]
  constructor
  · rintro ⟨double, atLeft, atRight⟩
    exact atLeft.symm.trans atRight
  · intro same
    exact ⟨left.toBinary64, rfl, same⟩

instance (left right : Number) : Decidable (left.Blurs right) := decidable_of_iff _ blurs_iff.symm

theorem Blurs.symm {left right : Number} (blurs : left.Blurs right) : right.Blurs left :=
  ⟨blurs.1.symm, blurs.2.imp fun _ => And.symm⟩

theorem units_toBinary64_eq_iff {left right : Number} :
    left.toBinary64.units = right.toBinary64.units ↔
      left.units = right.units ∨ left.Blurs right := by
  rw [blurs_iff]
  constructor
  · intro same
    by_cases equal : left.units = right.units
    · exact .inl equal
    · exact .inr ⟨equal, same⟩
  · rintro (equal | ⟨_, same⟩)
    · exact units_toBinary64_eq equal
    · exact same

theorem units_toBinary64_lt_iff {left right : Number} :
    left.toBinary64.units < right.toBinary64.units ↔
      left.units < right.units ∧ ¬ left.Blurs right := by
  constructor
  · intro less
    refine ⟨?_, fun blurs => ?_⟩
    · by_contra le
      have turned := units_toBinary64_le (Int.not_lt.mp le)
      omega
    · exact Int.ne_of_lt less (blurs_iff.mp blurs).2
  · rintro ⟨less, separate⟩
    refine Int.lt_iff_le_and_ne.mpr ⟨units_toBinary64_le (Int.le_of_lt less), fun same => ?_⟩
    exact separate (blurs_iff.mpr ⟨Int.ne_of_lt less, same⟩)

def isWide : Number → Bool
  | .integer value _ => 2 ^ 53 < value.natAbs
  | .double _ => false

theorem units_toBinary64 {number : Number} (narrow : number.isWide = false) :
    number.toBinary64.units = number.units := by
  cases number with
  | integer value inRange =>
      have small := of_decide_eq_false narrow
      exact Binary64.units_ofInt? (ofInt?_toBinary64 inRange) (Nat.not_lt.mp small)
  | double value => rfl

theorem Blurs.isWide {left right : Number} (blurs : left.Blurs right) :
    left.isWide = true ∨ right.isWide = true := by
  by_contra narrow
  rw [not_or, Bool.not_eq_true, Bool.not_eq_true] at narrow
  obtain ⟨different, same⟩ := blurs_iff.mp blurs
  rw [units_toBinary64 narrow.1, units_toBinary64 narrow.2] at same
  exact different same

end Number

end JsonSchema
