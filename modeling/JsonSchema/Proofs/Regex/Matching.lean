import Mathlib.Logic.Function.Iterate
import JsonSchema.Proofs.Regex.Stretches

set_option autoImplicit false

/-! The search for a pattern. It moves sets of positions: from a set of positions a pattern leads to the ends
of the stretches that begin there and match it, and that its loops are broken off early loses none of
them. The main statement is `Pattern.occursIn_iff`. -/

namespace JsonSchema.Regex

namespace Moves

private theorem testBit_positionsOf (tests : List Bool) (index : Nat) :
    (positionsOf tests).testBit index = tests[index]?.getD false := by
  induction tests generalizing index with
  | nil => simp [positionsOf]
  | cons passes rest ih =>
      have unfolded : positionsOf (passes :: rest) = 2 * positionsOf rest + passes.toNat := rfl
      have small : passes.toNat < 2 := by cases passes <;> decide
      rw [unfolded]
      cases index with
      | zero =>
          rw [Nat.testBit_zero, List.getElem?_cons_zero, Option.getD_some]
          cases passes <;> simp
      | succ index =>
          rw [Nat.testBit_succ, List.getElem?_cons_succ, ← ih]
          congr 1
          omega

private theorem exactly_eq_iterate (move : Nat → Nat) (count : Nat) :
    exactly move count = move^[count] := by
  funext positions
  induction count generalizing positions with
  | zero => rfl
  | succ count ih =>
      rw [exactly]
      split
      next unchanged => exact (Function.iterate_fixed unchanged (count + 1)).symm
      next => rw [ih, Function.iterate_succ_apply]

private theorem getElem?_neighbours (before after : List Char) :
    (neighbours (before ++ after))[before.length]? = some (before.getLast?, after.head?) := by
  rw [neighbours, List.getElem?_zip_eq_some]
  constructor
  · rcases List.eq_nil_or_concat before with rfl | ⟨front, last, rfl⟩
    · rfl
    · simp
  · cases after <;> simp

/-- A move leads from a set of positions of a text to the ends of the stretches that begin there. -/
def Tracks (text : List Char) (move : Nat → Nat) (stretch : Stretch) : Prop :=
  ∀ positions, (∀ position, positions.testBit position = true → position ≤ text.length) →
    ∀ stop, (move positions).testBit stop = true ↔
      ∃ before middle after, text = before ++ middle ++ after ∧
        positions.testBit before.length = true ∧ stop = (before ++ middle).length ∧
        stretch before middle after

namespace Tracks

variable {text : List Char} {move next : Nat → Nat} {first second : Stretch} {positions : Nat}

private theorem within (tracks : Tracks text move first)
    (inText : ∀ position, positions.testBit position = true → position ≤ text.length) (stop : Nat)
    (isStop : (move positions).testBit stop = true) : stop ≤ text.length := by
  obtain ⟨before, middle, after, rfl, _, rfl, _⟩ := (tracks positions inText stop).mp isStop
  exact (List.prefix_append (before ++ middle) after).length_le

private theorem of_iff (tracks : Tracks text move first)
    (same : ∀ before middle after, text = before ++ middle ++ after →
      (first before middle after ↔ second before middle after)) : Tracks text move second := by
  intro positions inText stop
  rw [tracks positions inText stop]
  refine exists_congr fun before => exists_congr fun middle => exists_congr fun after => ?_
  exact and_congr_right fun isText =>
    and_congr_right fun _ => and_congr_right fun _ => same before middle after isText

private theorem nothing : Tracks text id .nothing := by
  intro positions inText stop
  constructor
  · intro isStart
    have length := List.length_take_of_le (inText stop isStart)
    refine ⟨text.take stop, [], text.drop stop, ?_, ?_, ?_, rfl⟩
    · rw [List.append_nil, List.take_append_drop]
    · rw [length]
      exact isStart
    · rw [List.append_nil, length]
  · rintro ⟨before, middle, after, _, isStart, rfl, rfl⟩
    rwa [List.append_nil]

private theorem followedBy (tracks : Tracks text move first) (more : Tracks text next second) :
    Tracks text (fun positions => next (move positions)) (first.followedBy second) := by
  intro positions inText stop
  rw [more _ (tracks.within inText)]
  constructor
  · rintro ⟨before, middle, after, isText, inMoved, rfl, matched⟩
    obtain ⟨start, done, rest, isSplit, isStart, sameLength, matchedFirst⟩ :=
      (tracks positions inText _).mp inMoved
    rw [List.append_assoc] at isText
    obtain ⟨rfl, rfl⟩ := List.append_inj (isText.symm.trans isSplit) sameLength
    refine ⟨start, done ++ middle, after, ?_, isStart, ?_, done, middle, rfl, matchedFirst, matched⟩
    · rw [isText, List.append_assoc, List.append_assoc, List.append_assoc]
    · rw [List.append_assoc]
  · rintro ⟨before, _, after, isText, isStart, rfl, done, rest, rfl, matchedFirst, matchedSecond⟩
    refine ⟨before ++ done, rest, after, ?_, ?_, ?_, matchedSecond⟩
    · rw [isText, List.append_assoc, List.append_assoc, List.append_assoc, List.append_assoc]
    · refine (tracks positions inText _).mpr
        ⟨before, done, rest ++ after, ?_, isStart, rfl, matchedFirst⟩
      rw [isText, List.append_assoc, List.append_assoc, List.append_assoc]
    · rw [List.append_assoc]

private theorem orElse (tracks : Tracks text move first) (other : Tracks text next second) :
    Tracks text (fun positions => move positions ||| next positions) (first.orElse second) := by
  intro positions inText stop
  rw [Nat.testBit_or, Bool.or_eq_true, tracks positions inText, other positions inText]
  simp only [Stretch.orElse, and_or_left, exists_or]

private theorem iterate (tracks : Tracks text move first) (count : Nat) :
    Tracks text move^[count] (first.rounds count) := by
  induction count with
  | zero => exact nothing
  | succ count ih => exact tracks.followedBy ih

private theorem exactly (tracks : Tracks text move first) (count : Nat) :
    Tracks text (Moves.exactly move count) (first.rounds count) := by
  rw [exactly_eq_iterate]
  exact tracks.iterate count

private theorem upTo (tracks : Tracks text move first) (count : Nat) :
    Tracks text (Moves.upTo move count) fun before middle after =>
      ∃ fewer ≤ count, first.rounds fewer before middle after := by
  rw [Moves.upTo, exactly_eq_iterate]
  exact ((nothing.orElse tracks).iterate count).of_iff fun before middle after _ =>
    Stretch.rounds_orElse_nothing

/-- No more rounds of a repetition without a greatest number are done than there are characters. -/
theorem repeated (tracks : Tracks text move first) (least : Nat) (most : Option Nat) :
    Tracks text
      (fun positions => Moves.upTo move
        (match most with
          | none => text.length + 1
          | some most => most - least) (Moves.exactly move least positions))
      fun before middle after => ∃ count, least ≤ count ∧
        (∀ bound ∈ most, count ≤ max least bound) ∧ first.rounds count before middle after := by
  refine ((tracks.exactly least).followedBy (tracks.upTo _)).of_iff fun before middle after isText => ?_
  constructor
  · rintro ⟨one, other, rfl, matchedLeast, extra, atMost, matchedExtra⟩
    refine ⟨least + extra, Nat.le_add_right least extra, ?_, ?_⟩
    · rintro bound isBound
      rw [isBound] at atMost
      dsimp only at atMost
      omega
    · rw [Stretch.rounds_add]
      exact ⟨one, other, rfl, matchedLeast, matchedExtra⟩
  · rintro ⟨count, atLeast, atMost, matched⟩
    obtain ⟨extra, rfl⟩ := Nat.exists_eq_add_of_le atLeast
    rw [Stretch.rounds_add] at matched
    obtain ⟨one, other, rfl, matchedLeast, matchedExtra⟩ := matched
    cases most with
    | none =>
        obtain ⟨fewer, inMiddle, matchedFewer⟩ := Stretch.exists_fewer_rounds matchedExtra
        refine ⟨one, other, rfl, matchedLeast, fewer, ?_, matchedFewer⟩
        rw [isText]
        simp only [List.length_append]
        omega
    | some bound =>
        have limited := atMost bound rfl
        exact ⟨one, other, rfl, matchedLeast, extra, by dsimp only; omega, matchedExtra⟩

private theorem step (text : List Char) (test : Char → Bool) :
    Tracks text (fun positions => (positions &&& positionsOf (text.map test)) <<< 1) (.char test) := by
  intro positions inText stop
  rw [Nat.testBit_shiftLeft, Nat.testBit_and, testBit_positionsOf, List.getElem?_map]
  constructor
  · intro moved
    simp only [Bool.and_eq_true, decide_eq_true_eq] at moved
    obtain ⟨positive, isStart, passes⟩ := moved
    obtain ⟨start, rfl⟩ : ∃ start, stop = start + 1 := ⟨stop - 1, by omega⟩
    rw [Nat.add_sub_cancel] at isStart passes
    cases atStart : text[start]? with
    | none =>
        rw [atStart] at passes
        cases passes
    | some char =>
        rw [atStart] at passes
        obtain ⟨inRange, isChar⟩ := List.getElem?_eq_some_iff.mp atStart
        have length := List.length_take_of_le (Nat.le_of_lt inRange)
        refine ⟨text.take start, [char], text.drop (start + 1), ?_, ?_, ?_, char, rfl, passes⟩
        · rw [List.append_assoc, List.singleton_append, ← isChar, List.getElem_cons_drop,
            List.take_append_drop]
        · rw [length]
          exact isStart
        · rw [List.length_append, length, List.length_singleton]
  · rintro ⟨before, _, after, rfl, isStart, rfl, char, rfl, passes⟩
    have atStart : (before ++ [char] ++ after)[before.length]? = some char := by
      rw [List.append_assoc, List.getElem?_append_right (Nat.le_refl _), Nat.sub_self]
      rfl
    rw [List.length_append, List.length_singleton, Nat.add_sub_cancel, atStart, isStart]
    simpa using passes

private theorem never (text : List Char) :
    Tracks text (fun positions => (positions &&& 0) <<< 1) fun _ _ _ => False := by
  intro positions inText stop
  simp

private theorem keep (text : List Char) (test : Option Char → Option Char → Bool) :
    Tracks text
      (fun positions => positions &&&
        positionsOf ((neighbours text).map fun (before, after) => test before after))
      fun before middle after => middle = [] ∧ test before.getLast? after.head? = true := by
  intro positions inText stop
  rw [Nat.testBit_and, testBit_positionsOf, List.getElem?_map, Bool.and_eq_true]
  constructor
  · rintro ⟨isStart, passes⟩
    have length := List.length_take_of_le (inText stop isStart)
    have atStart := getElem?_neighbours (text.take stop) (text.drop stop)
    rw [List.take_append_drop, length] at atStart
    rw [atStart] at passes
    refine ⟨text.take stop, [], text.drop stop, ?_, ?_, ?_, rfl, passes⟩
    · rw [List.append_nil, List.take_append_drop]
    · rw [length]
      exact isStart
    · rw [List.append_nil, length]
  · rintro ⟨before, _, after, rfl, isStart, rfl, rfl, passes⟩
    rw [List.append_nil, getElem?_neighbours]
    exact ⟨isStart, passes⟩

private theorem written (text written : List Char) :
    Tracks text (writtenOver text written).apply fun _ middle _ => middle = written := by
  induction written with
  | nil => exact nothing
  | cons char rest ih =>
      refine ((step text (· == char)).followedBy ih).of_iff fun before middle after _ => ?_
      constructor
      · rintro ⟨_, other, rfl, ⟨found, rfl, same⟩, rfl⟩
        rw [eq_of_beq same]
        rfl
      · rintro rfl
        exact ⟨[char], rest, rfl, ⟨char, rfl, beq_self_eq_true char⟩, rfl⟩

end Tracks

end Moves

mutual

theorem Pattern.tracks_over (text : List Char) :
    (pattern : Pattern) → Moves.Tracks text (pattern.over text).apply pattern.Matches
  | .empty => by
      rw [Pattern.Matches]
      exact .nothing
  | .literal written => by
      rw [Pattern.Matches]
      exact .written text written
  | .oneOf set => by
      rw [Pattern.Matches]
      exact .step text set.contains
  | .look test => by
      rw [Pattern.Matches]
      exact .keep text test.accepts
  | .repeated body least most reluctant => by
      rw [Pattern.Matches]
      exact (Pattern.tracks_over text body).repeated least most
  | .captured number body => by
      rw [Pattern.Matches]
      exact Pattern.tracks_over text body
  | .seq parts => by
      rw [Pattern.Matches]
      exact Pattern.tracks_partsOver text parts
  | .either branches => by
      rw [Pattern.Matches]
      exact Pattern.tracks_branchesOver text branches

theorem Pattern.tracks_partsOver (text : List Char) :
    (parts : List Pattern) →
      Moves.Tracks text (Pattern.partsOver text parts).apply (Pattern.PartsMatch parts)
  | [] => by
      rw [Pattern.PartsMatch]
      exact .nothing
  | part :: parts => by
      rw [Pattern.PartsMatch]
      exact (Pattern.tracks_over text part).followedBy (Pattern.tracks_partsOver text parts)

theorem Pattern.tracks_branchesOver (text : List Char) :
    (branches : List Pattern) →
      Moves.Tracks text (Pattern.branchesOver text branches).apply (Pattern.SomeMatches branches)
  | [] => by
      rw [Pattern.SomeMatches]
      exact .never text
  | branch :: branches => by
      rw [Pattern.SomeMatches]
      exact (Pattern.tracks_over text branch).orElse (Pattern.tracks_branchesOver text branches)

end

/-- A pattern occurs in a text exactly if some stretch of the text matches it. -/
theorem Pattern.occursIn_iff (pattern : Pattern) (text : List Char) :
    pattern.occursIn text = true ↔
      ∃ before middle after, text = before ++ middle ++ after ∧ pattern.Matches before middle after := by
  let everywhere : Nat := 1 <<< (text.length + 1) - 1
  have isStart (position : Nat) : everywhere.testBit position = true ↔ position ≤ text.length := by
    dsimp only [everywhere]
    rw [Nat.one_shiftLeft, Nat.testBit_two_pow_sub_one, decide_eq_true_eq, Nat.lt_succ_iff]
  have tracks := pattern.tracks_over text everywhere fun position => (isStart position).mp
  have someStop : pattern.occursIn text = true ↔
      ∃ stop, ((pattern.over text).apply everywhere).testBit stop = true := by
    rw [occursIn, bne_iff_ne]
    constructor
    · exact Nat.exists_testBit_of_ne_zero
    · rintro ⟨stop, isStop⟩ isZero
      rw [isZero, Nat.zero_testBit] at isStop
      cases isStop
  rw [someStop]
  constructor
  · rintro ⟨stop, isStop⟩
    obtain ⟨before, middle, after, isText, _, _, matched⟩ := (tracks stop).mp isStop
    exact ⟨before, middle, after, isText, matched⟩
  · rintro ⟨before, middle, after, isText, matched⟩
    refine ⟨_, (tracks _).mpr ⟨before, middle, after, isText, ?_, rfl, matched⟩⟩
    rw [isStart, isText, List.append_assoc, List.length_append]
    exact Nat.le_add_right _ _

def Pattern.anchored (parts : List Pattern) : Pattern :=
  .seq (.look .textStart :: (parts ++ [.look .textEnd]))

theorem Pattern.occursIn_anchored {parts : List Pattern} {text : List Char} :
    (anchored parts).occursIn text = true ↔ PartsMatch parts [] text [] := by
  rw [occursIn_iff, anchored, Matches, PartsMatch, partsMatch_append, partsMatch_singleton, Matches, Matches]
  constructor
  · rintro ⟨before, _, after, rfl, _, _, rfl, ⟨rfl, atStart⟩, whole, _, rfl, matched, rfl, atEnd⟩
    obtain rfl := List.getLast?_eq_none_iff.mp (Option.isNone_iff_eq_none.mp atStart)
    obtain rfl := List.head?_eq_none_iff.mp (Option.isNone_iff_eq_none.mp atEnd)
    simpa using matched
  · intro matched
    refine ⟨[], text, [], by simp, [], text, rfl, ⟨rfl, rfl⟩, text, [], by simp, ?_, rfl, rfl⟩
    exact matched

end JsonSchema.Regex
