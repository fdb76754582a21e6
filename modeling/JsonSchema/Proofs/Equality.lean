import JsonSchema.Equality
import JsonSchema.Proofs.Numbers.Rounding
import JsonSchema.Proofs.Parts

set_option autoImplicit false

/-! Equality by meaning. Two numbers are equal when they are the same number of units, and also when one
is an integer that no double is and the other the double nearest to it. Only such a double in the middle
keeps equality from being transitive. -/

namespace JsonSchema

namespace Number

/-- The value of a number, in units; a whole number of them for an integer and for a double. -/
def units : Number → Int
  | .integer value _ => value * Binary64.unitsPerOne
  | .double value => value.units

/-- An integer that is no double, and the double nearest to it. -/
inductive RoundsTo : Number → Number → Prop where
  | intro {value : Int} {inRange : -0x8000000000000000 ≤ value ∧ value < 0x10000000000000000}
      {double : Binary64} (inexact : value * Binary64.unitsPerOne ≠ double.units)
      (nearest : double.IsNearest (value * Binary64.unitsPerOne) 1) :
      RoundsTo (.integer value inRange) (.double double)

section Integers

variable {value : Int}

theorem ofInt?_toBinary64 (inRange : -0x8000000000000000 ≤ value ∧ value < 0x10000000000000000) :
    Binary64.ofInt? value = some (integer value inRange).toBinary64 := by
  obtain ⟨rounded, rounds⟩ := Binary64.ofInt?_isSome value (by omega)
  rw [toBinary64, rounds]
  rfl

private theorem units_integer_inj {other : Int} :
    value * Binary64.unitsPerOne = other * Binary64.unitsPerOne ↔ value = other :=
  Int.mul_eq_mul_right_iff (Int.natCast_ne_zero.mpr (Nat.ne_of_gt Binary64.unitsPerOne_pos))

/-- An integer has the units of a double in which it is written, or is rounded to it. -/
theorem units_toBinary64_iff {inRange : -0x8000000000000000 ≤ value ∧ value < 0x10000000000000000}
    {double : Binary64} :
    (integer value inRange).toBinary64.units = double.units ↔
      (integer value inRange).units = (Number.double double).units ∨
        (integer value inRange).RoundsTo (.double double) := by
  have rounding := Binary64.isNearest_ofInt?_iff (ofInt?_toBinary64 inRange) double
  constructor
  · intro same
    have nearest := rounding.mpr same.symm
    by_cases exact : value * Binary64.unitsPerOne = double.units
    · exact Or.inl exact
    · exact Or.inr (.intro exact nearest)
  · intro cases
    refine (rounding.mp ?_).symm
    obtain exact | ⟨inexact, nearest⟩ := cases
    · exact Binary64.isNearest_of_eq Nat.one_pos ((Int.mul_one _).trans exact.symm)
    · exact nearest

end Integers

private theorem not_roundsTo_integer {number : Number} {value : Int}
    {inRange : -0x8000000000000000 ≤ value ∧ value < 0x10000000000000000} :
    ¬ number.RoundsTo (.integer value inRange) := nofun

private theorem not_double_roundsTo {number : Number} {value : Binary64} :
    ¬ (Number.double value).RoundsTo number := nofun

theorem same_iff (left right : Number) :
    left.same right = true ↔
      left.units = right.units ∨ left.RoundsTo right ∨ right.RoundsTo left := by
  cases left with
  | integer left leftInRange =>
      cases right with
      | integer right rightInRange =>
          simp only [same, decide_eq_true_eq, units, units_integer_inj, not_roundsTo_integer, or_false]
      | double right =>
          simp only [same, Binary64.same, decide_eq_true_eq, not_double_roundsTo, or_false]
          exact units_toBinary64_iff
  | double left =>
      cases right with
      | integer right rightInRange =>
          simp only [same, Binary64.same, decide_eq_true_eq, not_double_roundsTo, false_or]
          rw [eq_comm, eq_comm (a := units _)]
          exact units_toBinary64_iff
      | double right =>
          simp only [same, Binary64.same, decide_eq_true_eq, not_double_roundsTo, or_false]
          rfl

theorem RoundsTo.large {number rounded : Number} (rounds : number.RoundsTo rounded) :
    2 ^ 53 * Binary64.unitsPerOne < number.units.natAbs := by
  cases rounds with
  | @intro value inRange double inexact nearest =>
      have written := ofInt?_toBinary64 inRange
      by_contra small
      rw [units, Int.natAbs_mul, Int.natAbs_natCast, Nat.not_lt] at small
      have le := Nat.le_of_mul_le_mul_right small Binary64.unitsPerOne_pos
      have exact := Binary64.units_ofInt? written le
      exact inexact (((Binary64.isNearest_ofInt?_iff written double).mp nearest).trans exact).symm

inductive Merges : Number → Number → Number → Prop where
  | intro {left right : Int} {leftInRange : -0x8000000000000000 ≤ left ∧ left < 0x10000000000000000}
      {rightInRange : -0x8000000000000000 ≤ right ∧ right < 0x10000000000000000}
      {double : Binary64} (apart : left ≠ right)
      (atLeft : double.IsNearest (left * Binary64.unitsPerOne) 1)
      (atRight : double.IsNearest (right * Binary64.unitsPerOne) 1) :
      Merges (.integer left leftInRange) (.double double) (.integer right rightInRange)

private theorem same_double_iff {value : Int} {double : Binary64}
    {inRange : -0x8000000000000000 ≤ value ∧ value < 0x10000000000000000} :
    (integer value inRange).same (.double double) = true ↔
      double.IsNearest (value * Binary64.unitsPerOne) 1 := by
  simp only [same, Binary64.same, decide_eq_true_eq]
  exact eq_comm.trans (Binary64.isNearest_ofInt?_iff (ofInt?_toBinary64 inRange) double).symm

theorem same_comm (left right : Number) : left.same right = right.same left := by
  rw [Bool.eq_iff_iff, same_iff, same_iff, eq_comm (a := left.units), or_comm (a := left.RoundsTo _)]

private theorem units_toBinary64_of_same {left right : Number} (same : left.same right = true) :
    left.toBinary64.units = right.toBinary64.units := by
  unfold Number.same at same
  split at same
  next =>
    obtain rfl := of_decide_eq_true same
    rfl
  next => exact of_decide_eq_true same

/-- Equality passes from two pairs of numbers to the outer pair unless the outer ones are integers that
the number in the middle merges. -/
theorem same_trans_iff {left middle right : Number} (first : left.same middle = true)
    (second : middle.same right = true) :
    left.same right = true ↔ ¬ left.Merges middle right := by
  constructor
  · rintro same ⟨apart, -, -⟩
    exact apart (of_decide_eq_true same)
  · intro separate
    have nearest := (units_toBinary64_of_same first).trans (units_toBinary64_of_same second)
    cases left with
    | double left => exact decide_eq_true nearest
    | integer left leftInRange =>
        cases right with
        | double right => exact decide_eq_true nearest
        | integer right rightInRange =>
            cases middle with
            | integer middle middleInRange =>
                exact decide_eq_true ((of_decide_eq_true first).trans (of_decide_eq_true second))
            | double middle =>
                by_contra apart
                rw [same_comm] at second
                exact separate (.intro (mt decide_eq_true apart) (same_double_iff.mp first)
                  (same_double_iff.mp second))

end Number

namespace Json

theorem sameElements_iff {lefts rights : List Json} :
    sameElements lefts rights = true ↔
      List.Forall₂ (fun left right => left.same right = true) lefts rights := by
  induction lefts generalizing rights with
  | nil => cases rights <;> simp [sameElements]
  | cons left rest ih => cases rights <;> simp [sameElements, ih]

theorem sameMembers_iff {lefts rights : List (String × Json)} :
    sameMembers lefts rights = true ↔
      ∀ entry ∈ lefts, ∃ right, rights.lookup entry.1 = some right ∧ entry.2.same right = true := by
  induction lefts with
  | nil => simp [sameMembers]
  | cons entry rest ih =>
      obtain ⟨key, left⟩ := entry
      rw [sameMembers, Bool.and_eq_true, List.forall_mem_cons, ih]
      cases found : rights.lookup key <;> simp

private theorem sameElements_trans {firsts seconds thirds : List Json}
    (passes : ∀ first ∈ firsts, ∀ second ∈ seconds, ∀ third ∈ thirds,
      first.same second = true → second.same third = true → first.same third = true)
    (first : sameElements firsts seconds = true) (second : sameElements seconds thirds = true) :
    sameElements firsts thirds = true := by
  rw [sameElements_iff] at first second ⊢
  induction first generalizing thirds with
  | nil =>
      cases second
      exact .nil
  | cons same _ ih =>
      cases second with
      | cons next rest =>
          refine .cons (passes _ List.mem_cons_self _ List.mem_cons_self _ List.mem_cons_self same next)
            (ih ?_ rest)
          intro first inFirsts second inSeconds third inThirds
          exact passes first (List.mem_cons_of_mem _ inFirsts) second (List.mem_cons_of_mem _ inSeconds)
            third (List.mem_cons_of_mem _ inThirds)

private theorem sameMembers_trans {firsts seconds thirds : List (String × Json)}
    (passes : ∀ first ∈ firsts, ∀ second ∈ seconds, ∀ third ∈ thirds,
      first.2.same second.2 = true → second.2.same third.2 = true → first.2.same third.2 = true)
    (first : sameMembers firsts seconds = true) (second : sameMembers seconds thirds = true) :
    sameMembers firsts thirds = true := by
  rw [sameMembers_iff] at first second ⊢
  intro entry member
  obtain ⟨middle, atMiddle, same⟩ := first entry member
  have inSeconds := Entries.mem_of_lookup atMiddle
  obtain ⟨last, atLast, next⟩ := second _ inSeconds
  exact ⟨last, atLast, passes entry member _ inSeconds _ (Entries.mem_of_lookup atLast) same next⟩

def Merges (first second third : Json) : Prop :=
  ∃ left middle right : Number, left.Merges middle right ∧
    first.Holds (.number left) ∧ second.Holds (.number middle) ∧ third.Holds (.number right)

theorem Merges.of_parts {first second third left middle right : Json}
    {leftToken middleToken rightToken : String} (leftPart : first.Part leftToken left)
    (middlePart : second.Part middleToken middle) (rightPart : third.Part rightToken right)
    (merges : left.Merges middle right) : first.Merges second third := by
  obtain ⟨_, _, _, numbers, inLeft, inMiddle, inRight⟩ := merges
  exact ⟨_, _, _, numbers, .head ⟨_, leftPart⟩ inLeft, .head ⟨_, middlePart⟩ inMiddle,
    .head ⟨_, rightPart⟩ inRight⟩

theorem part_of_mem {elements : List Json} {element : Json} (member : element ∈ elements) :
    ∃ token, (Json.array elements).Part token element := by
  obtain ⟨index, found⟩ := List.mem_iff_getElem?.mp member
  exact ⟨_, .element rfl found⟩

/-- Equality passes on from value to value where no two integers meet a double nearest to both. -/
theorem same_trans {first second third : Json} (separate : ¬ first.Merges second third)
    (start : first.same second = true) (next : second.same third = true) :
    first.same third = true := by
  induction weight : first.weight using Nat.strongRecOn generalizing first second third with
  | ind _ ih =>
      subst weight
      have passes {left middle right : Json} {leftToken middleToken rightToken : String}
          (leftPart : first.Part leftToken left) (middlePart : second.Part middleToken middle)
          (rightPart : third.Part rightToken right) (start : left.same middle = true)
          (next : middle.same right = true) : left.same right = true :=
        ih _ leftPart.weight_lt (mt (Merges.of_parts leftPart middlePart rightPart) separate) start next
          rfl
      cases first with
      | null =>
          cases second with
          | null => exact next
          | _ => cases start
      | bool value =>
          cases second with
          | bool other => exact eq_of_beq start ▸ next
          | _ => cases start
      | string value =>
          cases second with
          | string other => exact eq_of_beq start ▸ next
          | _ => cases start
      | number left =>
          cases second with
          | number middle =>
              cases third with
              | number right =>
                  refine (Number.same_trans_iff start next).mpr fun numbers => separate ?_
                  exact ⟨left, middle, right, numbers, .refl, .refl, .refl⟩
              | _ => cases next
          | _ => cases start
      | array firsts =>
          cases second with
          | array seconds =>
              cases third with
              | array thirds =>
                  refine sameElements_trans ?_ start next
                  intro left inFirsts middle inSeconds right inThirds
                  obtain ⟨_, leftPart⟩ := part_of_mem inFirsts
                  obtain ⟨_, middlePart⟩ := part_of_mem inSeconds
                  obtain ⟨_, rightPart⟩ := part_of_mem inThirds
                  exact passes leftPart middlePart rightPart
              | _ => cases next
          | _ => cases start
      | object firsts =>
          cases second with
          | object seconds =>
              cases third with
              | object thirds =>
                  rw [same, Bool.and_eq_true, beq_iff_eq] at start next ⊢
                  refine ⟨start.1.trans next.1, sameMembers_trans ?_ start.2 next.2⟩
                  intro left inFirsts middle inSeconds right inThirds
                  exact passes (.member rfl inFirsts) (.member rfl inSeconds) (.member rfl inThirds)
              | _ => cases next
          | _ => cases start

/-- What equality of numbers and of values asks for. Numbers of the same value are equal, and so are an
integer beyond `2 ^ 53` that is no double and the double nearest to it. Between numbers it fails to pass
on exactly where two integers meet a double nearest to both, and between values only there. -/
theorem same_by_value (left middle right : Number) (first second third : Json) :
    (left.same middle = true ↔
      left.units = middle.units ∨ left.RoundsTo middle ∨ middle.RoundsTo left) ∧
    (left.RoundsTo middle → 2 ^ 53 * Binary64.unitsPerOne < left.units.natAbs) ∧
    (left.same middle = true → middle.same right = true →
      (left.same right = true ↔ ¬ left.Merges middle right)) ∧
    (first.same second = true → second.same third = true → ¬ first.Merges second third →
      first.same third = true) :=
  ⟨Number.same_iff left middle, Number.RoundsTo.large, Number.same_trans_iff,
    fun start next separate => same_trans separate start next⟩

def power : Number := .integer 0x20000000000000 (by decide)

def powerDouble : Number :=
  .double ⟨false, 0x10000000000000, 1075, by decide, by decide, Or.inr (Nat.le_refl _)⟩

def behindPower : Number := .integer 0x20000000000001 (by decide)

theorem same_by_value_at_power :
    behindPower.RoundsTo powerDouble ∧ behindPower.Merges powerDouble power := by
  obtain ⟨sameIff, -, passesIff, -⟩ :=
    same_by_value behindPower powerDouble power null null null
  have different : behindPower.units ≠ powerDouble.units := by decide +kernel
  have start : behindPower.same powerDouble = true := by decide +kernel
  have apart : behindPower.same power ≠ true := by decide +kernel
  constructor
  · have rounds := (sameIff.mp start).resolve_left different
    exact rounds.resolve_right nofun
  · by_contra separate
    exact apart ((passesIff start (by decide +kernel)).mpr separate)

/-- The integer behind `2 ^ 53` equals the double `2 ^ 53`, which has another value and equals the integer
`2 ^ 53`. The two integers are not equal. -/
theorem same_of_other_value :
    (number behindPower).same (number powerDouble) = true ∧ behindPower.units ≠ powerDouble.units ∧
      (number powerDouble).same (number power) = true ∧
      (number behindPower).same (number power) = false := by
  decide +kernel

end Json

end JsonSchema
