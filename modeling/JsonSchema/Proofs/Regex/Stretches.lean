import JsonSchema.Regex.Search

set_option autoImplicit false

/-! What it is that a pattern matches: a stretch of a text matches by what the parts of the pattern match in
turn. Rounds of a repetition can be put together and, where they match no character, left out. -/

namespace JsonSchema.Regex

abbrev Stretch := List Char → List Char → List Char → Prop

namespace Stretch

def nothing : Stretch := fun _ middle _ => middle = []

def char (test : Char → Bool) : Stretch := fun _ middle _ => ∃ char, middle = [char] ∧ test char = true

def followedBy (first second : Stretch) : Stretch := fun before middle after =>
  ∃ one other, middle = one ++ other ∧ first before one (other ++ after) ∧
    second (before ++ one) other after

def orElse (first second : Stretch) : Stretch := fun before middle after =>
  first before middle after ∨ second before middle after

def rounds (round : Stretch) : Nat → Stretch
  | 0 => nothing
  | count + 1 => round.followedBy (round.rounds count)

end Stretch

/- What a pattern matches. A repetition is done at least as often as it has to be, and stops at its
greatest number only if it is not beyond it already. -/
mutual

def Pattern.Matches : Pattern → Stretch
  | .empty => .nothing
  | .literal text => fun _ middle _ => middle = text
  | .oneOf set => .char set.contains
  | .look test => fun before middle after =>
      middle = [] ∧ test.accepts before.getLast? after.head? = true
  | .repeated body least most _ => fun before middle after =>
      ∃ count, least ≤ count ∧ (∀ bound ∈ most, count ≤ max least bound) ∧
        Stretch.rounds body.Matches count before middle after
  | .captured _ body => body.Matches
  | .seq parts => Pattern.PartsMatch parts
  | .either branches => Pattern.SomeMatches branches

def Pattern.PartsMatch : List Pattern → Stretch
  | [] => .nothing
  | part :: parts => Stretch.followedBy part.Matches (Pattern.PartsMatch parts)

def Pattern.SomeMatches : List Pattern → Stretch
  | [] => fun _ _ _ => False
  | branch :: branches => Stretch.orElse branch.Matches (Pattern.SomeMatches branches)

end

namespace Stretch

variable {round first second third : Stretch} {before middle after : List Char} {count : Nat}

private theorem nothing_followedBy (second : Stretch) : nothing.followedBy second = second := by
  funext before middle after
  refine propext ⟨?_, fun matched => ⟨[], middle, rfl, rfl, ?_⟩⟩
  · rintro ⟨one, other, rfl, rfl, matched⟩
    rwa [List.append_nil] at matched
  · rwa [List.append_nil]

private theorem followedBy_nothing (first : Stretch) : first.followedBy nothing = first := by
  funext before middle after
  refine propext ⟨?_, fun matched => ⟨middle, [], ?_, matched, rfl⟩⟩
  · rintro ⟨one, other, rfl, matched, rfl⟩
    rwa [List.append_nil]
  · rw [List.append_nil]

private theorem followedBy_assoc (first second third : Stretch) :
    (first.followedBy second).followedBy third = first.followedBy (second.followedBy third) := by
  funext before middle after
  apply propext
  constructor
  · rintro ⟨_, last, rfl, ⟨one, other, rfl, matchedFirst, matchedSecond⟩, matchedThird⟩
    rw [← List.append_assoc] at matchedFirst matchedThird
    exact ⟨one, other ++ last, List.append_assoc one other last, matchedFirst, other, last, rfl,
      matchedSecond, matchedThird⟩
  · rintro ⟨one, _, rfl, matchedFirst, other, last, rfl, matchedSecond, matchedThird⟩
    rw [List.append_assoc] at matchedFirst matchedThird
    exact ⟨one ++ other, last, (List.append_assoc one other last).symm,
      ⟨one, other, rfl, matchedFirst, matchedSecond⟩, matchedThird⟩

theorem rounds_add (round : Stretch) (count more : Nat) :
    round.rounds (count + more) = (round.rounds count).followedBy (round.rounds more) := by
  induction count with
  | zero => rw [Nat.zero_add, rounds, nothing_followedBy]
  | succ count ih => rw [Nat.succ_add, rounds, rounds, ih, followedBy_assoc]

theorem rounds_orElse_nothing :
    (nothing.orElse round).rounds count before middle after ↔
      ∃ fewer ≤ count, round.rounds fewer before middle after := by
  induction count generalizing before middle with
  | zero =>
      refine ⟨fun matched => ⟨0, Nat.le_refl 0, matched⟩, ?_⟩
      rintro ⟨fewer, atMost, matched⟩
      rwa [Nat.le_zero.mp atMost] at matched
  | succ count ih =>
      constructor
      · rintro ⟨one, other, rfl, left | matched, rest⟩
        · obtain rfl : one = [] := left
          rw [List.append_nil] at rest
          obtain ⟨fewer, atMost, matched⟩ := ih.mp rest
          exact ⟨fewer, by omega, matched⟩
        · obtain ⟨fewer, atMost, others⟩ := ih.mp rest
          exact ⟨fewer + 1, by omega, one, other, rfl, matched, others⟩
      · rintro ⟨fewer, atMost, matched⟩
        cases fewer with
        | zero =>
            refine ⟨[], middle, rfl, .inl rfl, ih.mpr ⟨0, Nat.zero_le count, ?_⟩⟩
            exact matched
        | succ fewer =>
            obtain ⟨one, other, rfl, matched, rest⟩ := matched
            exact ⟨one, other, rfl, .inr matched, ih.mpr ⟨fewer, by omega, rest⟩⟩

/-- Rounds that match no character can be left out, so there need not be more than characters. -/
theorem exists_fewer_rounds (matched : round.rounds count before middle after) :
    ∃ fewer ≤ middle.length, round.rounds fewer before middle after := by
  induction count generalizing before middle with
  | zero => exact ⟨0, Nat.zero_le _, matched⟩
  | succ count ih =>
      obtain ⟨one, other, rfl, matched, rest⟩ := matched
      obtain ⟨fewer, atMost, others⟩ := ih rest
      cases one with
      | nil =>
          rw [List.append_nil] at others
          exact ⟨fewer, atMost, others⟩
      | cons char one =>
          refine ⟨fewer + 1, ?_, char :: one, other, rfl, matched, others⟩
          rw [List.length_append, List.length_cons]
          omega

end Stretch

/-! ### Patterns of some forms -/

namespace Stretch

variable {before middle after : List Char} {count : Nat}

private theorem rounds_char {test : Char → Bool} :
    (char test).rounds count before middle after ↔
      middle.length = count ∧ ∀ char ∈ middle, test char = true := by
  induction count generalizing before middle with
  | zero =>
      rw [List.length_eq_zero_iff]
      refine ⟨?_, And.left⟩
      rintro rfl
      exact ⟨rfl, nofun⟩
  | succ count ih =>
      constructor
      · rintro ⟨_, other, rfl, ⟨char, rfl, passes⟩, rest⟩
        obtain ⟨length, others⟩ := ih.mp rest
        exact ⟨congrArg Nat.succ length, List.forall_mem_cons.mpr ⟨passes, others⟩⟩
      · rintro ⟨length, passing⟩
        cases middle with
        | nil => cases length
        | cons char rest =>
            obtain ⟨passes, others⟩ := List.forall_mem_cons.mp passing
            exact ⟨[char], rest, rfl, ⟨char, rfl, passes⟩, ih.mpr ⟨Nat.succ.inj length, others⟩⟩

end Stretch

namespace Pattern

variable {before middle after : List Char}

theorem matches_repeated_oneOf {set : Unicode.CharSet} {least : Nat} {most : Option Nat}
    {reluctant : Bool} :
    (Pattern.repeated (.oneOf set) least most reluctant).Matches before middle after ↔
      (least ≤ middle.length ∧ ∀ bound ∈ most, middle.length ≤ max least bound) ∧
        ∀ char ∈ middle, set.contains char = true := by
  rw [Matches, Matches]
  simp only [Stretch.rounds_char]
  constructor
  · rintro ⟨count, atLeast, atMost, rfl, members⟩
    exact ⟨⟨atLeast, atMost⟩, members⟩
  · rintro ⟨⟨atLeast, atMost⟩, members⟩
    exact ⟨middle.length, atLeast, atMost, rfl, members⟩

theorem matches_optional {body : Pattern} {reluctant : Bool} :
    (Pattern.repeated body 0 (some 1) reluctant).Matches before middle after ↔
      middle = [] ∨ body.Matches before middle after := by
  rw [Matches]
  constructor
  · rintro ⟨count, _, atMost, matched⟩
    match count, atMost 1 rfl with
    | 0, _ => exact .inl matched
    | 1, _ =>
        rw [Stretch.rounds, Stretch.rounds, Stretch.followedBy_nothing] at matched
        exact .inr matched
  · rintro (rfl | matched)
    · exact ⟨0, Nat.le_refl 0, fun _ _ => Nat.zero_le _, rfl⟩
    · refine ⟨1, Nat.zero_le 1, fun bound isBound => ?_, ?_⟩
      · cases isBound
        exact Nat.le_refl 1
      · rwa [Stretch.rounds, Stretch.rounds, Stretch.followedBy_nothing]

theorem partsMatch_cons {part : Pattern} {parts : List Pattern} :
    PartsMatch (part :: parts) before middle after ↔
      ∃ one other, middle = one ++ other ∧ part.Matches before one (other ++ after) ∧
        PartsMatch parts (before ++ one) other after := by
  rw [PartsMatch]
  rfl

theorem partsMatch_literal_cons {text : List Char} {parts : List Pattern} :
    PartsMatch (.literal text :: parts) before middle after ↔
      ∃ rest, middle = text ++ rest ∧ PartsMatch parts (before ++ text) rest after := by
  rw [partsMatch_cons, Matches]
  constructor
  · rintro ⟨_, rest, isMiddle, rfl, matched⟩
    exact ⟨rest, isMiddle, matched⟩
  · rintro ⟨rest, isMiddle, matched⟩
    exact ⟨text, rest, isMiddle, rfl, matched⟩

theorem partsMatch_append (front back : List Pattern) :
    PartsMatch (front ++ back) = (PartsMatch front).followedBy (PartsMatch back) := by
  induction front with
  | nil => rw [List.nil_append, PartsMatch, Stretch.nothing_followedBy]
  | cons part front ih => rw [List.cons_append, PartsMatch, PartsMatch, ih, Stretch.followedBy_assoc]

@[simp] theorem partsMatch_singleton (part : Pattern) : PartsMatch [part] = part.Matches := by
  rw [PartsMatch, PartsMatch, Stretch.followedBy_nothing]

end Pattern

end JsonSchema.Regex
