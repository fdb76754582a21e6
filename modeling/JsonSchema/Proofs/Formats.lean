import JsonSchema.Format
import JsonSchema.Proofs.Regex.Matching

set_option autoImplicit false

/-! The standard formats that are patterns. What each of them is for is said without patterns, by a grammar
for the texts; then the pattern, which is given as it has been read, is shown to match the texts of the
grammar and no others. The main statement is `FormatRegistry.standard_patterns_accept`. -/

namespace Char

private theorem isUpper_iff_toNat {char : Char} :
    char.isUpper = true ↔ 65 ≤ char.toNat ∧ char.toNat ≤ 90 :=
  decide_eq_true_iff

private theorem isLower_iff_toNat {char : Char} :
    char.isLower = true ↔ 97 ≤ char.toNat ∧ char.toNat ≤ 122 := by
  change (decide (97 ≤ char.toNat) && decide (char.toNat ≤ 122)) = true ↔ _
  rw [Bool.and_eq_true, decide_eq_true_iff, decide_eq_true_iff]

private theorem isAlpha_iff_toNat {char : Char} : char.isAlpha = true ↔
    (65 ≤ char.toNat ∧ char.toNat ≤ 90) ∨ (97 ≤ char.toNat ∧ char.toNat ≤ 122) := by
  change (char.isUpper || char.isLower) = true ↔ _
  rw [Bool.or_eq_true, isUpper_iff_toNat, isLower_iff_toNat]

private theorem isAlphanum_iff_toNat {char : Char} : char.isAlphanum = true ↔
    char.isAlpha = true ∨ (48 ≤ char.toNat ∧ char.toNat ≤ 57) := by
  rw [isAlphanum, Bool.or_eq_true, isDigit_iff_toNat]
  rfl

end Char

namespace List

private theorem intercalate_cons {Item : Type} (separator first : List Item) (rest : List (List Item)) :
    separator.intercalate (first :: rest) = first ++ rest.flatMap (separator ++ ·) := by
  induction rest generalizing first with
  | nil => rw [intercalate_singleton, flatMap_nil, append_nil]
  | cons second rest ih =>
      rw [intercalate_cons_cons, ih, flatMap_cons, append_assoc, append_assoc]

end List

namespace JsonSchema

open Unicode (CharSet isWhiteSpace whiteSpace)
open Regex (Pattern Stretch)

namespace Format

/-! ### Grammars -/

/-- One to 63 letters, digits and hyphens of ASCII, without a hyphen at either end. -/
def IsLabel (text : List Char) : Prop :=
  1 ≤ text.length ∧ text.length ≤ 63 ∧ (∀ char ∈ text, char.isAlphanum = true ∨ char = '-') ∧
    text.head? ≠ some '-' ∧ text.getLast? ≠ some '-'

def IsHostname (text : List Char) : Prop :=
  ∃ labels, labels ≠ [] ∧ (∀ label ∈ labels, IsLabel label) ∧ text = ['.'].intercalate labels

def IsHexDigit (char : Char) : Prop :=
  char.isDigit = true ∨ ('A' ≤ char ∧ char ≤ 'F') ∨ ('a' ≤ char ∧ char ≤ 'f')

def IsUuid (text : List Char) : Prop :=
  ∃ groups : List (List Char), groups.map List.length = [8, 4, 4, 4, 12] ∧
    (∀ group ∈ groups, ∀ char ∈ group, IsHexDigit char) ∧ text = ['-'].intercalate groups

/-- One `@`, with something before it, and after it a point that has something on both sides. -/
def IsEmail (text : List Char) : Prop :=
  (∀ char ∈ text, isWhiteSpace char = false) ∧ text.count '@' = 1 ∧
    ∃ name domain, text = name ++ '@' :: domain ∧ name ≠ [] ∧
      ∃ front back, domain = front ++ '.' :: back ∧ front ≠ [] ∧ back ≠ []

/-- A scheme before the first colon; it begins with a letter. -/
def IsUri (text : List Char) : Prop :=
  ∃ scheme rest, text = scheme ++ ':' :: rest ∧ ':' ∉ scheme ∧
    (∃ first more, scheme = first :: more ∧ first.isAlpha = true ∧
      ∀ char ∈ more, char.isAlphanum = true ∨ char ∈ ['+', '.', '-']) ∧
    ∀ char ∈ rest, isWhiteSpace char = false

/-! ### Sets of characters -/

def letters : CharSet := ⟨[.between 0x41 0x5A, .between 0x61 0x7A]⟩

def lettersAndDigits : CharSet := ⟨[.between 0x30 0x39, .between 0x41 0x5A, .between 0x61 0x7A]⟩

def inLabels : CharSet :=
  ⟨[.single 0x2D, .between 0x30 0x39, .between 0x41 0x5A, .between 0x61 0x7A]⟩

def hexDigits : CharSet := ⟨[.between 0x30 0x39, .between 0x41 0x46, .between 0x61 0x66]⟩

def inSchemes : CharSet :=
  ⟨[.single 0x2B, .between 0x2D 0x2E, .between 0x30 0x39, .between 0x41 0x5A, .between 0x61 0x7A]⟩

def nonBlank : CharSet := whiteSpace.complement

def nonBlankNorAt : CharSet := (whiteSpace.union (.single 0x40)).complement

section Sets

variable (char : Char)

private theorem contains_letters : letters.contains char = true ↔ char.isAlpha = true := by
  rw [CharSet.contains_iff, Char.isAlpha_iff_toNat]
  simp [letters, Unicode.CharRange.between]

private theorem contains_lettersAndDigits :
    lettersAndDigits.contains char = true ↔ char.isAlphanum = true := by
  rw [CharSet.contains_iff, Char.isAlphanum_iff_toNat, Char.isAlpha_iff_toNat]
  simp [lettersAndDigits, Unicode.CharRange.between]
  omega

private theorem contains_inLabels :
    inLabels.contains char = true ↔ char.isAlphanum = true ∨ char = '-' := by
  rw [CharSet.contains_iff, Char.isAlphanum_iff_toNat, Char.isAlpha_iff_toNat, ← Char.toNat_inj]
  simp [inLabels, Unicode.CharRange.between, Unicode.CharRange.single]
  omega

private theorem contains_hexDigits : hexDigits.contains char = true ↔ IsHexDigit char := by
  rw [CharSet.contains_iff, IsHexDigit, Char.isDigit_iff_toNat]
  simp [hexDigits, Unicode.CharRange.between, Char.le_def, UInt32.le_iff_toNat_le]

private theorem contains_inSchemes :
    inSchemes.contains char = true ↔ char.isAlphanum = true ∨ char ∈ ['+', '.', '-'] := by
  simp only [List.mem_cons, List.not_mem_nil, or_false, ← Char.toNat_inj]
  rw [CharSet.contains_iff, Char.isAlphanum_iff_toNat, Char.isAlpha_iff_toNat]
  simp [inSchemes, Unicode.CharRange.between, Unicode.CharRange.single]
  omega

private theorem contains_nonBlank : nonBlank.contains char = true ↔ isWhiteSpace char = false := by
  rw [nonBlank, CharSet.contains_complement (by decide), Bool.not_eq_true', isWhiteSpace]

private theorem contains_nonBlankNorAt :
    nonBlankNorAt.contains char = true ↔ isWhiteSpace char = false ∧ char ≠ '@' := by
  have isAt : (CharSet.single 0x40).contains char = true ↔ char = '@' := by
    rw [CharSet.contains_iff, ← Char.toNat_inj]
    simp [CharSet.single, Unicode.CharRange.single]
    omega
  rw [nonBlankNorAt, CharSet.contains_complement (by decide), ne_eq, ← isAt]
  simp [isWhiteSpace]

end Sets

/-! ### Patterns -/

def labelParts : List Pattern :=
  [.oneOf lettersAndDigits,
    .repeated (.seq [.repeated (.oneOf inLabels) 0 (some 61) false, .oneOf lettersAndDigits])
      0 (some 1) false]

def hostname : Pattern :=
  .anchored (labelParts ++ [.repeated (.seq (.literal ['.'] :: labelParts)) 0 none false])

def digitGroup (count : Nat) : Pattern := .repeated (.oneOf hexDigits) count (some count) false

def uuid : Pattern :=
  .anchored (([8, 4, 4, 4, 12].map digitGroup).intersperse (.literal ['-']))

def emailWord : Pattern := .repeated (.oneOf nonBlankNorAt) 1 none false

def email : Pattern := .anchored [emailWord, .literal ['@'], emailWord, .literal ['.'], emailWord]

def uri : Pattern :=
  .anchored [.oneOf letters, .repeated (.oneOf inSchemes) 0 none false, .literal [':'],
    .repeated (.oneOf nonBlank) 0 none false]

section Patterns

variable {before middle after : List Char}

private theorem isLabel_iff {text : List Char} :
    IsLabel text ↔ ∃ first rest, text = first :: rest ∧ first.isAlphanum = true ∧
      (rest = [] ∨ ∃ inner last, rest = inner ++ [last] ∧ inner.length ≤ 61 ∧
        (∀ char ∈ inner, char.isAlphanum = true ∨ char = '-') ∧ last.isAlphanum = true) := by
  have notHyphen {char : Char} (isAlphanum : char.isAlphanum = true) : some char ≠ some '-' := by
    rintro ⟨⟩
    revert isAlphanum
    decide
  constructor
  · rintro ⟨atLeast, atMost, members, atStart, atEnd⟩
    cases text with
    | nil => cases atLeast
    | cons first rest =>
        obtain ⟨firstMember, others⟩ := List.forall_mem_cons.mp members
        have isFirst := firstMember.resolve_right fun same => atStart (congrArg some same)
        refine ⟨first, rest, rfl, isFirst, ?_⟩
        rcases List.eq_nil_or_concat rest with rfl | ⟨inner, last, isRest⟩
        · exact .inl rfl
        · rw [List.concat_eq_append] at isRest
          subst isRest
          rw [← List.cons_append, List.getLast?_concat] at atEnd
          have isLast := (others last (by simp)).resolve_right fun same => atEnd (congrArg some same)
          rw [List.length_cons, List.length_append, List.length_singleton] at atMost
          refine .inr ⟨inner, last, rfl, by omega, ?_, isLast⟩
          exact fun char isInner => others char (List.mem_append_left _ isInner)
  · rintro ⟨first, _, rfl, isFirst, rfl | ⟨inner, last, rfl, short, members, isLast⟩⟩
    · have short : [first].length ≤ 63 := by simp
      exact ⟨Nat.le_refl 1, short, List.forall_mem_singleton.mpr (.inl isFirst), notHyphen isFirst,
        notHyphen isFirst⟩
    · refine ⟨Nat.succ_pos _, ?_, ?_, notHyphen isFirst, ?_⟩
      · rw [List.length_cons, List.length_append, List.length_singleton]
        omega
      · refine List.forall_mem_cons.mpr ⟨.inl isFirst, List.forall_mem_append.mpr ⟨members, ?_⟩⟩
        exact List.forall_mem_singleton.mpr (.inl isLast)
      · rw [← List.cons_append, List.getLast?_concat]
        exact notHyphen isLast

private theorem matches_label : Pattern.PartsMatch labelParts before middle after ↔ IsLabel middle := by
  rw [labelParts, Pattern.PartsMatch, Pattern.partsMatch_singleton, Pattern.Matches, isLabel_iff]
  constructor
  · rintro ⟨_, rest, rfl, ⟨first, rfl, isFirst⟩, tail⟩
    refine ⟨first, rest, rfl, (contains_lettersAndDigits first).mp isFirst, ?_⟩
    refine (Pattern.matches_optional.mp tail).imp_right fun matched => ?_
    rw [Pattern.Matches, Pattern.PartsMatch, Pattern.partsMatch_singleton, Pattern.Matches] at matched
    obtain ⟨inner, _, rfl, matchedInner, last, rfl, isLast⟩ := matched
    obtain ⟨⟨_, atMost⟩, members⟩ := Pattern.matches_repeated_oneOf.mp matchedInner
    refine ⟨inner, last, rfl, atMost 61 rfl, ?_, (contains_lettersAndDigits last).mp isLast⟩
    exact fun char isInner => (contains_inLabels char).mp (members char isInner)
  · rintro ⟨first, rest, rfl, isFirst, tail⟩
    refine ⟨[first], rest, rfl, ⟨first, rfl, (contains_lettersAndDigits first).mpr isFirst⟩, ?_⟩
    refine Pattern.matches_optional.mpr (tail.imp_right ?_)
    rintro ⟨inner, last, rfl, short, members, isLast⟩
    rw [Pattern.Matches, Pattern.PartsMatch, Pattern.partsMatch_singleton, Pattern.Matches]
    refine ⟨inner, [last], rfl, Pattern.matches_repeated_oneOf.mpr ⟨⟨Nat.zero_le _, ?_⟩, ?_⟩,
      last, rfl, (contains_lettersAndDigits last).mpr isLast⟩
    · rintro bound ⟨⟩
      exact short
    · exact fun char isInner => (contains_inLabels char).mpr (members char isInner)

private theorem rounds_dotted {count : Nat} :
    (Pattern.seq (.literal ['.'] :: labelParts)).Matches.rounds count before middle after ↔
      ∃ labels : List (List Char), labels.length = count ∧ (∀ label ∈ labels, IsLabel label) ∧
        middle = labels.flatMap (['.'] ++ ·) := by
  induction count generalizing before middle with
  | zero =>
      constructor
      · rintro rfl
        exact ⟨[], rfl, nofun, rfl⟩
      · rintro ⟨labels, isEmpty, _, rfl⟩
        rw [List.length_eq_zero_iff.mp isEmpty]
        rfl
  | succ count ih =>
      rw [Stretch.rounds]
      constructor
      · rintro ⟨_, others, rfl, matched, matchedRest⟩
        rw [Pattern.Matches, Pattern.PartsMatch, Pattern.Matches] at matched
        obtain ⟨_, label, rfl, rfl, isLabel⟩ := matched
        obtain ⟨rest, length, areLabels, rfl⟩ := ih.mp matchedRest
        exact ⟨label :: rest, congrArg Nat.succ length,
          List.forall_mem_cons.mpr ⟨matches_label.mp isLabel, areLabels⟩, rfl⟩
      · rintro ⟨labels, length, areLabels, rfl⟩
        cases labels with
        | nil => cases length
        | cons label rest =>
            obtain ⟨isLabel, others⟩ := List.forall_mem_cons.mp areLabels
            refine ⟨['.'] ++ label, _, rfl, ?_, ih.mpr ⟨rest, Nat.succ.inj length, others, rfl⟩⟩
            rw [Pattern.Matches, Pattern.PartsMatch, Pattern.Matches]
            exact ⟨['.'], label, rfl, rfl, matches_label.mpr isLabel⟩

theorem matches_hostname {text : List Char} : hostname.occursIn text = true ↔ IsHostname text := by
  rw [hostname, Pattern.occursIn_anchored, Pattern.partsMatch_append, Pattern.partsMatch_singleton,
    Pattern.Matches]
  constructor
  · rintro ⟨first, _, rfl, isLabel, count, _, _, matched⟩
    obtain ⟨rest, _, areLabels, rfl⟩ := rounds_dotted.mp matched
    refine ⟨first :: rest, List.cons_ne_nil _ _, ?_, (List.intercalate_cons _ _ _).symm⟩
    exact List.forall_mem_cons.mpr ⟨matches_label.mp isLabel, areLabels⟩
  · rintro ⟨labels, notEmpty, areLabels, rfl⟩
    cases labels with
    | nil => exact absurd rfl notEmpty
    | cons first rest =>
        obtain ⟨isLabel, others⟩ := List.forall_mem_cons.mp areLabels
        refine ⟨first, _, List.intercalate_cons _ _ _, matches_label.mpr isLabel, rest.length,
          Nat.zero_le _, nofun, ?_⟩
        exact rounds_dotted.mpr ⟨rest, rfl, others, rfl⟩

private theorem matches_digitGroup {count : Nat} :
    (digitGroup count).Matches before middle after ↔
      middle.length = count ∧ ∀ char ∈ middle, IsHexDigit char := by
  rw [digitGroup, Pattern.matches_repeated_oneOf]
  simp only [contains_hexDigits]
  refine and_congr_left fun _ => ⟨fun limits => ?_, ?_⟩
  · have atMost := limits.2 count rfl
    omega
  · rintro rfl
    exact ⟨Nat.le_refl _, fun bound _ => Nat.le_max_left _ _⟩

private theorem matches_digitGroups {counts : List Nat} :
    Pattern.PartsMatch ((counts.map digitGroup).intersperse (.literal ['-'])) before middle after ↔
      ∃ groups : List (List Char), groups.map List.length = counts ∧
        (∀ group ∈ groups, ∀ char ∈ group, IsHexDigit char) ∧
          middle = ['-'].intercalate groups := by
  induction counts generalizing before middle with
  | nil =>
      rw [List.map_nil, List.intersperse_nil, Pattern.PartsMatch]
      constructor
      · rintro rfl
        exact ⟨[], rfl, nofun, rfl⟩
      · rintro ⟨groups, isEmpty, _, rfl⟩
        rw [List.map_eq_nil_iff.mp isEmpty]
        rfl
  | cons count counts ih =>
      cases counts with
      | nil =>
          rw [List.map_cons, List.map_nil, List.intersperse_singleton, Pattern.partsMatch_singleton,
            matches_digitGroup]
          constructor
          · rintro ⟨length, digits⟩
            refine ⟨[middle], by rw [List.map_singleton, length], ?_, ?_⟩
            · exact List.forall_mem_singleton.mpr digits
            · rw [List.intercalate_singleton]
          · rintro ⟨groups, lengths, digits, rfl⟩
            obtain ⟨group, rfl, length⟩ := List.map_eq_singleton_iff.mp lengths
            rw [List.intercalate_singleton]
            exact ⟨length, List.forall_mem_singleton.mp digits⟩
      | cons next counts =>
          rw [List.map_cons, List.map_cons, List.intersperse_cons_cons, Pattern.partsMatch_cons]
          constructor
          · rintro ⟨group, _, rfl, isGroup, matched⟩
            obtain ⟨length, digits⟩ := matches_digitGroup.mp isGroup
            obtain ⟨rest, rfl, matchedRest⟩ := Pattern.partsMatch_literal_cons.mp matched
            obtain ⟨groups, lengths, others, rfl⟩ := ih.mp matchedRest
            refine ⟨group :: groups, by rw [List.map_cons, length, lengths], ?_, ?_⟩
            · exact List.forall_mem_cons.mpr ⟨digits, others⟩
            · cases groups with
              | nil => cases lengths
              | cons second groups => rw [List.intercalate_cons_cons, List.append_assoc]
          · rintro ⟨groups, lengths, digits, rfl⟩
            match groups, lengths with
            | group :: second :: groups, lengths =>
                obtain ⟨isGroup, others⟩ := List.forall_mem_cons.mp digits
                obtain ⟨length, lengthsRest⟩ := List.cons.inj lengths
                rw [List.intercalate_cons_cons, List.append_assoc]
                refine ⟨group, _, rfl, matches_digitGroup.mpr ⟨length, isGroup⟩, ?_⟩
                refine Pattern.partsMatch_literal_cons.mpr ⟨_, rfl, ih.mpr ?_⟩
                exact ⟨second :: groups, lengthsRest, others, rfl⟩

theorem matches_uuid {text : List Char} : uuid.occursIn text = true ↔ IsUuid text := by
  rw [uuid, Pattern.occursIn_anchored, matches_digitGroups, IsUuid]

private theorem matches_emailWord : emailWord.Matches before middle after ↔
    middle ≠ [] ∧ (∀ char ∈ middle, isWhiteSpace char = false) ∧ '@' ∉ middle := by
  rw [emailWord, Pattern.matches_repeated_oneOf]
  simp only [contains_nonBlankNorAt, forall_and]
  refine and_congr ?_ (and_congr_right fun _ => ?_)
  · rw [and_iff_left nofun, ← List.length_pos_iff]
    exact Iff.rfl
  · refine ⟨fun noAt isMember => noAt '@' isMember rfl, fun absent char isMember => ?_⟩
    rintro rfl
    exact absent isMember

theorem matches_email {text : List Char} : email.occursIn text = true ↔ IsEmail text := by
  rw [email, Pattern.occursIn_anchored, Pattern.partsMatch_cons]
  constructor
  · rintro ⟨name, _, rfl, isName, afterName⟩
    obtain ⟨_, rfl, afterAt⟩ := Pattern.partsMatch_literal_cons.mp afterName
    obtain ⟨front, _, rfl, isFront, afterFront⟩ := Pattern.partsMatch_cons.mp afterAt
    obtain ⟨back, rfl, isBack⟩ := Pattern.partsMatch_literal_cons.mp afterFront
    rw [Pattern.partsMatch_singleton] at isBack
    obtain ⟨nameFilled, nameBlanks, nameAts⟩ := matches_emailWord.mp isName
    obtain ⟨frontFilled, frontBlanks, frontAts⟩ := matches_emailWord.mp isFront
    obtain ⟨backFilled, backBlanks, backAts⟩ := matches_emailWord.mp isBack
    refine ⟨?_, ?_, name, _, rfl, nameFilled, front, back, rfl, frontFilled, backFilled⟩
    · simp only [List.forall_mem_append, List.forall_mem_cons]
      exact ⟨nameBlanks, ⟨by decide, nofun⟩, frontBlanks, ⟨by decide, nofun⟩, backBlanks⟩
    · simp [List.count_append, List.count_eq_zero.mpr nameAts, List.count_eq_zero.mpr frontAts,
        List.count_eq_zero.mpr backAts]
  · rintro ⟨blanks, once, name, _, rfl, nameFilled, front, back, rfl, frontFilled, backFilled⟩
    simp only [List.forall_mem_append, List.forall_mem_cons] at blanks
    obtain ⟨nameBlanks, _, frontBlanks, _, backBlanks⟩ := blanks
    have counts : name.count '@' + (front.count '@' + back.count '@' + 1) = 1 := by
      simpa [List.count_append] using once
    obtain ⟨nameAts, frontAts, backAts⟩ : '@' ∉ name ∧ '@' ∉ front ∧ '@' ∉ back := by
      simp only [← List.count_eq_zero]
      omega
    refine ⟨name, _, rfl, matches_emailWord.mpr ⟨nameFilled, nameBlanks, nameAts⟩, ?_⟩
    refine Pattern.partsMatch_literal_cons.mpr ⟨_, rfl, Pattern.partsMatch_cons.mpr ?_⟩
    refine ⟨front, _, rfl, matches_emailWord.mpr ⟨frontFilled, frontBlanks, frontAts⟩, ?_⟩
    refine Pattern.partsMatch_literal_cons.mpr ⟨back, rfl, ?_⟩
    rw [Pattern.partsMatch_singleton]
    exact matches_emailWord.mpr ⟨backFilled, backBlanks, backAts⟩

theorem matches_uri {text : List Char} : uri.occursIn text = true ↔ IsUri text := by
  rw [uri, Pattern.occursIn_anchored, Pattern.partsMatch_cons]
  constructor
  · rintro ⟨_, _, rfl, ⟨first, rfl, isFirst⟩, afterFirst⟩
    obtain ⟨more, _, rfl, isMore, afterMore⟩ := Pattern.partsMatch_cons.mp afterFirst
    obtain ⟨rest, rfl, isRest⟩ := Pattern.partsMatch_literal_cons.mp afterMore
    rw [Pattern.partsMatch_singleton] at isRest
    obtain ⟨_, members⟩ := Pattern.matches_repeated_oneOf.mp isMore
    obtain ⟨_, noBlanks⟩ := Pattern.matches_repeated_oneOf.mp isRest
    have isLetter := (contains_letters first).mp isFirst
    refine ⟨first :: more, rest, rfl, ?_, ⟨first, more, rfl, isLetter, ?_⟩, ?_⟩
    · intro isColon
      rcases List.mem_cons.mp isColon with rfl | isColon
      · revert isFirst
        decide
      · have inScheme := members ':' isColon
        revert inScheme
        decide
    · exact fun char isMember => (contains_inSchemes char).mp (members char isMember)
    · exact fun char isMember => (contains_nonBlank char).mp (noBlanks char isMember)
  · rintro ⟨_, rest, rfl, _, ⟨first, more, rfl, isFirst, isMore⟩, noBlanks⟩
    refine ⟨[first], _, rfl, ⟨first, rfl, (contains_letters first).mpr isFirst⟩, ?_⟩
    refine Pattern.partsMatch_cons.mpr ⟨more, _, rfl, Pattern.matches_repeated_oneOf.mpr ?_, ?_⟩
    · exact ⟨⟨Nat.zero_le _, nofun⟩,
        fun char isMember => (contains_inSchemes char).mpr (isMore char isMember)⟩
    · refine Pattern.partsMatch_literal_cons.mpr ⟨rest, rfl, ?_⟩
      rw [Pattern.partsMatch_singleton]
      exact Pattern.matches_repeated_oneOf.mpr ⟨⟨Nat.zero_le _, nofun⟩,
        fun char isMember => (contains_nonBlank char).mpr (noBlanks char isMember)⟩

end Patterns

end Format

/-! ### The registry -/

namespace FormatRegistry

open Format

private theorem read_email :
    (Regex.ofString? emailPattern).map Regex.pattern = some email := by decide +kernel

private theorem read_hostname : (Regex.ofString? hostnamePattern).map Regex.pattern = some hostname := by
  decide +kernel

private theorem read_uri : (Regex.ofString? uriPattern).map Regex.pattern = some uri := by decide +kernel

private theorem read_uuid : (Regex.ofString? uuidPattern).map Regex.pattern = some uuid := by decide +kernel

private theorem get?_standard {name source : String} (isPattern : (name, source) ∈ standardPatterns) :
    standard.get? name = Format.ofPattern? source := by
  have distinct : (Entries.names standardPatterns).Nodup := by decide
  have noOther : ∀ entry ∈ standardPatterns,
      entry.1 ∉ ["date-time", "date", "time", "ipv4", "ipv6"] := by decide
  rw [get?, standard]
  dsimp only
  rw [List.lookup_append, Entries.lookup_eq_none_iff.mpr (noOther _ isPattern), Option.none_or,
    Entries.lookup_filterMap distinct, Entries.lookup_of_mem distinct isPattern]
  rfl

/-- A name stands for a format in the standard registry that accepts the texts of a grammar and no others. -/
def StandsFor (name : String) (grammar : List Char → Prop) : Prop :=
  ∃ format, standard.get? name = some format ∧
    ∀ (text : String) (schema : Json), format.accepts (.string text) schema = true ↔ grammar text.toList

private theorem standsFor_of_read {name source : String} {pattern : Pattern} {grammar : List Char → Prop}
    (isPattern : (name, source) ∈ standardPatterns)
    (read : (Regex.ofString? source).map Regex.pattern = some pattern)
    (isGrammar : ∀ text, pattern.occursIn text = true ↔ grammar text) : StandsFor name grammar := by
  obtain ⟨regex, isRegex, rfl⟩ := Option.map_eq_some_iff.mp read
  refine ⟨.pattern regex, ?_, fun text schema => isGrammar text.toList⟩
  rw [get?_standard isPattern, Format.ofPattern?, isRegex]
  rfl

/-- The patterns of the standard registry accept exactly the texts of their grammars. -/
theorem standard_patterns_accept :
    StandsFor "hostname" IsHostname ∧ StandsFor "uuid" IsUuid ∧ StandsFor "email" IsEmail ∧
      StandsFor "uri" IsUri := by
  refine ⟨?_, ?_, ?_, ?_⟩
  · exact standsFor_of_read (by decide) read_hostname fun _ => matches_hostname
  · exact standsFor_of_read (by decide) read_uuid fun _ => matches_uuid
  · exact standsFor_of_read (by decide) read_email fun _ => matches_email
  · exact standsFor_of_read (by decide) read_uri fun _ => matches_uri

end FormatRegistry

end JsonSchema
