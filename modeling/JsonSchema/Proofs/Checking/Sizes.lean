import JsonSchema.Proofs.Checking.Breaking
import JsonSchema.Proofs.Numbers.Comparing

set_option autoImplicit false

/-! Bounds on sizes: of strings in characters, of arrays in elements, of objects in members. A bound is a
number that is whole and not negative, whichever way it is written; sizes are compared with its value, also
where that is beyond the largest bound that is kept. The main statement is `sizes_compared`. -/

namespace JsonSchema

/-! ### Bounds -/

namespace Number

def whole? (number : Number) : Option Nat :=
  if 0 ≤ number.units ∧ number.units % Binary64.unitsPerOne = 0 then
    some (number.units / Binary64.unitsPerOne).toNat
  else none

private theorem whole?_eq_some_iff {number : Number} {count : Nat} :
    number.whole? = some count ↔ number.units = count * Binary64.unitsPerOne := by
  have positive : (0 : Int) < Binary64.unitsPerOne := Int.natCast_pos.mpr Binary64.unitsPerOne_pos
  unfold whole?
  constructor
  · intro isWhole
    obtain ⟨⟨notNegative, divides⟩, isCount⟩ := Option.ite_none_right_eq_some.mp isWhole
    have quotient : 0 ≤ number.units / Binary64.unitsPerOne :=
      Int.ediv_nonneg notNegative (Int.le_of_lt positive)
    rw [← Option.some.inj isCount, Int.toNat_of_nonneg quotient]
    exact (Int.ediv_mul_cancel (Int.dvd_of_emod_eq_zero divides)).symm
  · intro isCount
    have notNegative : 0 ≤ number.units := isCount ▸ Int.mul_nonneg (Int.natCast_nonneg _)
      (Int.le_of_lt positive)
    rw [if_pos ⟨notNegative, isCount ▸ Int.mul_emod_left _ _⟩, isCount,
      Int.mul_ediv_cancel _ (Int.ne_of_gt positive), Int.toNat_natCast]

private theorem whole?_of_negative {number : Number} (negative : number.units < 0) : number.whole? = none :=
  if_neg fun whole => Int.not_le.mpr negative whole.1

/-- An integer below zero is not rounded to zero. -/
theorem units_toBinary64_of_negative {number : Number} (le : number.units ≤ -Binary64.unitsPerOne) :
    number.toBinary64.units < 0 := by
  let below : Number := .integer (-1) (by decide)
  have isBelow : below.units = -Binary64.unitsPerOne := Int.neg_one_mul _
  have bounded : number.toBinary64.units ≤ below.toBinary64.units :=
    units_toBinary64_le (isBelow ▸ le)
  have exact : below.toBinary64.units = below.units := units_toBinary64 (by decide)
  rw [exact, isBelow] at bounded
  have positive := Binary64.unitsPerOne_pos
  omega

end Number

namespace Binary64

private theorem isIntegral_iff (number : Binary64) :
    number.isIntegral = true ↔ number.units % unitsPerOne = 0 := by
  unfold isIntegral
  rw [decide_eq_true_iff, magnitude, Nat.shiftLeft_eq, ← natAbs_units, ← Nat.dvd_iff_mod_eq_zero,
    ← Int.dvd_iff_emod_eq_zero, Int.ofNat_dvd_left]

private theorem toNat_truncate {number : Binary64} (notNegative : 0 ≤ number.units) :
    number.truncate.toNat = (number.units / unitsPerOne).toNat := by
  unfold truncate
  unfold units at notNegative ⊢
  split
  next negative =>
    rw [if_pos negative] at notNegative
    have zero : number.magnitude = 0 := by omega
    simp [zero]
  next => exact congrArg Int.toNat (Int.natCast_ediv _ _)

end Binary64

namespace Json

/-- A value is a number of this value, an integer or a double. -/
def Counts (value : Json) (count : Nat) : Prop :=
  ∃ number : Number, value = .number number ∧ number.units = count * Binary64.unitsPerOne

def whole? (value : Json) : Option Nat := value.number?.bind Number.whole?

private theorem whole?_eq_some_iff {value : Json} {count : Nat} :
    value.whole? = some count ↔ value.Counts count := by
  unfold whole? Counts
  simp only [Option.bind_eq_some_iff, Number.whole?_eq_some_iff]
  refine exists_congr fun number => and_congr_left fun _ => ?_
  cases value <;> simp [number?]

end Json

def largestBound : Nat := 0xFFFFFFFFFFFFFFFF

/-- A number that is not written as an integer from zero up is read through its double. -/
theorem count?_of_not_nat {number : Number} (written : Json.nat? (.number number) = none) :
    Compiler.count? (.number number) =
      if number.toBinary64.isIntegral = true ∧ 0 ≤ number.toBinary64.units then
        some (min number.toBinary64.truncate.toNat largestBound)
      else none := by
  rw [Compiler.count?, written]
  change (if (number.toBinary64.isIntegral && decide (0 ≤ number.toBinary64.units)) = true then
    some (min number.toBinary64.truncate.toNat largestBound) else none) = _
  simp only [Bool.and_eq_true, decide_eq_true_eq]

private theorem count?_integer {value : Int}
    (inRange : -0x8000000000000000 ≤ value ∧ value < 0x10000000000000000) :
    Compiler.count? (.number (.integer value inRange)) =
      (Number.integer value inRange).whole?.map fun bound => min bound largestBound := by
  by_cases notNegative : 0 ≤ value
  · have whole : (Number.integer value inRange).whole? = some value.toNat := by
      rw [Number.whole?_eq_some_iff, Int.toNat_of_nonneg notNegative]
      rfl
    have small : value.toNat ≤ largestBound := by
      unfold largestBound
      omega
    have written : Json.nat? (.number (.integer value inRange)) = some value.toNat :=
      if_pos notNegative
    rw [Compiler.count?, written, whole, Option.map_some, Nat.min_eq_left small]
  · have le : (Number.integer value inRange).units ≤ -Binary64.unitsPerOne := by
      have least : value ≤ -1 := by omega
      have scaled := Int.mul_le_mul_of_nonneg_right least (Int.natCast_nonneg Binary64.unitsPerOne)
      rwa [Int.neg_one_mul] at scaled
    have positive := Binary64.unitsPerOne_pos
    have written : Json.nat? (.number (.integer value inRange)) = none := if_neg notNegative
    have rounded := Int.not_le.mpr (Number.units_toBinary64_of_negative le)
    rw [count?_of_not_nat written, Number.whole?_of_negative (by omega), if_neg fun whole => rounded whole.2]
    rfl

private theorem count?_double (value : Binary64) :
    Compiler.count? (.number (.double value)) =
      (Number.double value).whole?.map fun bound => min bound largestBound := by
  rw [count?_of_not_nat rfl, Number.whole?]
  change (if value.isIntegral = true ∧ 0 ≤ value.units then
      some (min value.truncate.toNat largestBound) else none) =
    Option.map _ (if 0 ≤ value.units ∧ value.units % Binary64.unitsPerOne = 0 then
      some (value.units / Binary64.unitsPerOne).toNat else none)
  have whole : value.isIntegral = true ∧ 0 ≤ value.units ↔
      0 ≤ value.units ∧ value.units % Binary64.unitsPerOne = 0 := by
    rw [Binary64.isIntegral_iff, and_comm]
  rw [if_congr whole rfl rfl]
  split
  next counts => rw [Binary64.toNat_truncate counts.1, Option.map_some]
  next => rfl

private theorem count?_eq (argument : Json) :
    Compiler.count? argument = argument.whole?.map fun bound => min bound largestBound := by
  cases argument with
  | number number =>
      cases number with
      | integer value inRange => exact count?_integer inRange
      | double value => exact count?_double value
  | _ => rfl

/-! ### Sizes -/

namespace Keyword

def isSize : Keyword → Bool
  | .minLength | .maxLength | .minItems | .maxItems | .minProperties | .maxProperties => true
  | _ => false

def size? : Keyword → Json → Option Nat
  | .minLength, .string text | .maxLength, .string text => some text.length
  | .minItems, .array elements | .maxItems, .array elements => some elements.length
  | .minProperties, .object members | .maxProperties, .object members => some members.length
  | _, _ => none

def excludes : Keyword → (bound size : Nat) → Bool
  | .minLength, bound, size | .minItems, bound, size | .minProperties, bound, size => size < bound
  | .maxLength, bound, size | .maxItems, bound, size | .maxProperties, bound, size => bound < size
  | _, _, _ => false

def sizeCheck? : Keyword → Nat → Option Check
  | .minLength, bound => some (.minLength bound)
  | .maxLength, bound => some (.maxLength bound)
  | .minItems, bound => some (.minItems bound)
  | .maxItems, bound => some (.maxItems bound)
  | .minProperties, bound => some (.minProperties bound)
  | .maxProperties, bound => some (.maxProperties bound)
  | _, _ => none

private theorem isSome_sizeCheck? (keyword : Keyword) (bound : Nat) :
    (keyword.sizeCheck? bound).isSome = keyword.isSize := by
  cases keyword <;> rfl

/-- The checks of a size are run for the values that have it. -/
theorem accepts_eq_isSome_size? {keyword : Keyword} (isSize : keyword.isSize = true) (value : Json) :
    keyword.kind?.all (·.accepts value) = (keyword.size? value).isSome := by
  cases keyword
  case minLength | maxLength | minItems | maxItems | minProperties | maxProperties =>
    cases value <;> rfl
  all_goals cases isSize

end Keyword

def readSize (keyword : Keyword) (argument : Json) : Option Check :=
  (Compiler.count? argument).bind keyword.sizeCheck?

/-- A value is of a size that a keyword of the node excludes. -/
def Oversteps (members : List (String × Json)) (value : Json) (keyword : Keyword) : Prop :=
  ∃ argument bound size, members.lookup keyword.name = some argument ∧ argument.Counts bound ∧
    keyword.size? value = some size ∧ keyword.excludes bound size = true

section Node

variable {members : List (String × Json)} {keyword : Keyword} {value : Json}

private theorem oversteps_iff :
    (((members.lookup keyword.name).bind Json.whole?).any fun bound =>
      (keyword.size? value).any (keyword.excludes bound)) = true ↔ Oversteps members value keyword := by
  simp only [Option.any_eq_true, Option.bind_eq_some_iff, Json.whole?_eq_some_iff, Oversteps]
  constructor
  · rintro ⟨bound, ⟨argument, found, counts⟩, size, counted, excluded⟩
    exact ⟨argument, bound, size, found, counts, counted, excluded⟩
  · rintro ⟨argument, bound, size, found, counts, counted, excluded⟩
    exact ⟨bound, ⟨argument, found, counts⟩, size, counted, excluded⟩

instance : Decidable (Oversteps members value keyword) := decidable_of_iff _ oversteps_iff

private theorem readAs_readSize (isSize : keyword.isSize = true) (argument : Json) :
    ReadAs members keyword argument (readSize keyword argument) := by
  cases keyword
  case minLength | maxLength | minItems | maxItems | minProperties | maxProperties =>
    refine ⟨fun _ _ _ => ?_, ?_, ?_⟩
    · exact congrArg pure (Option.map_eq_bind ..)
    all_goals
      intro made isMade
      obtain ⟨_, _, isCheck⟩ := Option.bind_eq_some_iff.mp isMade
      cases isCheck
      rfl
  all_goals cases isSize

/-- A bound beyond all that are kept excludes what the kept one excludes, up to the sizes below it. -/
theorem fails_of_size {size bound : Nat} {check : Check} (counted : keyword.size? value = some size)
    (fits : size < largestBound) (made : keyword.sizeCheck? (min bound largestBound) = some check) :
    check.fails value = keyword.excludes bound size := by
  have below : size < min bound largestBound ↔ size < bound := by omega
  have above : min bound largestBound < size ↔ bound < size := by omega
  cases keyword
  case minLength | minItems | minProperties =>
    cases made
    cases value <;> cases counted
    exact decide_eq_decide.mpr below
  case maxLength | maxItems | maxProperties =>
    cases made
    cases value <;> cases counted
    exact decide_eq_decide.mpr above
  all_goals cases made

private theorem readSize_eq (argument : Json) :
    readSize keyword argument =
      argument.whole?.bind fun bound => keyword.sizeCheck? (min bound largestBound) := by
  rw [readSize, count?_eq]
  exact Option.bind_map ..

private theorem isSome_readSize_iff (isSize : keyword.isSize = true) (argument : Json) :
    (readSize keyword argument).isSome = true ↔ ∃ bound, argument.Counts bound := by
  simp only [readSize_eq, ← Json.whole?_eq_some_iff]
  cases argument.whole? with
  | none => simp
  | some bound => simp [Keyword.isSome_sizeCheck?, isSize]

private theorem isBroken_readSize (isSize : keyword.isSize = true)
    (fits : ∀ size, keyword.size? value = some size → size < largestBound) :
    isBroken readSize members value keyword = decide (Oversteps members value keyword) := by
  rw [Bool.eq_iff_iff, decide_eq_true_iff, ← oversteps_iff, isBroken]
  cases members.lookup keyword.name with
  | none => rfl
  | some argument =>
      rw [Option.bind_some, Option.bind_some, readSize_eq, Keyword.accepts_eq_isSome_size? isSize]
      cases argument.whole? with
      | none => rfl
      | some bound =>
          rw [Option.bind_some, Option.any_some]
          obtain ⟨check, made⟩ := Option.isSome_iff_exists.mp
            ((keyword.isSome_sizeCheck? (min bound largestBound)).trans isSize)
          rw [made, Option.any_some]
          cases counted : keyword.size? value with
          | none => rfl
          | some size =>
              rw [fails_of_size counted (fits size counted) made]
              rfl

/-- What the bounds on sizes of a node demand. A check is made of just those that are whole numbers from
zero up, integers and doubles of any magnitude; it fails just for the sizes that are below or above the
number as it was written. A value breaks the keywords of a node that exclude its size. -/
theorem sizes_compared :
    (∀ keyword : Keyword, keyword.isSize = true → ∀ (argument : Json) (compiler : Compiler)
      (compile : Json → Scope → Compiling Rule) (members : List (String × Json)) (scope : Scope),
      ∃ check?, compiler.compileKeyword compile members scope keyword argument = pure check? ∧
        (check?.isSome = true ↔ ∃ bound, argument.Counts bound) ∧
        ∀ check ∈ check?, ∀ bound, argument.Counts bound →
          ∀ value size, keyword.size? value = some size → size < 2 ^ 64 - 1 →
            check.fails value = keyword.excludes bound size) ∧
    ∀ members, HasOnly Keyword.isSize members → ∀ value,
      (∀ keyword size, Keyword.size? keyword value = some size → size < 2 ^ 64 - 1) →
      Breaks members value
        ((Compiler.keywordsOf members).filter fun keyword => Oversteps members value keyword) := by
  constructor
  · intro keyword isSize argument compiler compile members scope
    refine ⟨readSize keyword argument, (readAs_readSize isSize argument).compiles compiler compile scope,
      isSome_readSize_iff isSize argument, ?_⟩
    intro check isCheck bound counts value size counted fits
    rw [readSize_eq, Json.whole?_eq_some_iff.mpr counts, Option.bind_some] at isCheck
    exact fails_of_size counted fits isCheck
  · intro members only value fits
    have breaks := breaks_of_reads only rfl
      (fun _ isSize argument _ => readAs_readSize isSize argument) value
    rwa [List.filter_congr fun keyword isKeyword =>
      isBroken_readSize (only.keywords keyword isKeyword) (fits keyword)] at breaks

end Node

/-- One character is less than `2.0`, and no more than the double `2 ^ 64`. -/
theorem sizes_compared_one_character :
    let two : Number := .double ⟨false, 0x10000000000000, 1023, by decide, by decide, .inr (Nat.le_refl _)⟩
    let huge : Number := .double ⟨false, 0x10000000000000, 1086, by decide, by decide, .inr (Nat.le_refl _)⟩
    Breaks [("maxLength", .number huge), ("minLength", .number two)] (.string "a") [.minLength] := by
  intro two huge
  have only : HasOnly Keyword.isSize [("maxLength", .number huge), ("minLength", .number two)] :=
    ⟨rfl, by decide⟩
  have breaks := sizes_compared.2 _ only (.string "a") (by
    intro keyword size counted
    cases keyword <;> cases counted <;> decide)
  exact breaks.perm (.of_eq (by decide +kernel))

end JsonSchema
