import Mathlib.Algebra.Group.Nat.Defs
import Mathlib.Data.List.Forall2
import JsonSchema.Proofs.Pointers

set_option autoImplicit false

/-! What becomes of a pointer. Its tokens are read as a location: a token is a key, and an index too if it
is written like one. A pointer finds what stands at the location; it is absent when the value around it
is there, and malformed when the location ends earlier or when its parts stand for no tokens. -/

namespace JsonSchema

namespace Pointer

/-! ### Parts and what they stand for -/

private theorem splitSlashes_eq_splitOn (text : List Char) : splitSlashes text = text.splitOn '/' := by
  induction text with
  | nil => rfl
  | cons char rest ih =>
      rw [splitSlashes, List.splitOn_cons_eq_if_modifyHead, ih]
      by_cases slash : char = '/'
      · rw [if_pos slash, if_pos (beq_iff_eq.mpr slash)]
      · rw [if_neg slash, if_neg (mt beq_iff_eq.mp slash)]
        cases split : rest.splitOn '/' with
        | nil => exact absurd split (List.splitOn_ne_nil _ _)
        | cons part parts => rfl

def decoded (part : List Char) : ByteArray :=
  let text := String.ofList (replaceTilde '0' '~' (replaceTilde '1' '/' part))
  ⟨(Text.percentDecodeBytes text.toUTF8.data.toList).toArray⟩

def Reads (parts : List (List Char)) (tokens : List String) : Prop :=
  List.Forall₂ (fun part token => decoded part = token.toUTF8) parts tokens

/-- Parts that stand for no tokens: there is an empty one among several, or one of them is no UTF-8. -/
def Unreadable (parts : List (List Char)) : Prop :=
  (1 < parts.length ∧ [] ∈ parts) ∨ ∃ part ∈ parts, ¬ (decoded part).IsValidUTF8

section Reading

variable {part : List Char} {parts : List (List Char)} {token : String} {tokens : List String}
  {expression : List Char}

private theorem token?_eq_some_iff : token? part = some token ↔ decoded part = token.toUTF8 := by
  change String.fromUTF8? (decoded part) = some token ↔ _
  unfold String.fromUTF8?
  constructor
  · intro read
    split at read
    next valid =>
      obtain rfl := Option.some.inj read
      rfl
    next => cases read
  · intro same
    rw [same]
    exact dif_pos token.isValidUTF8

private theorem token?_eq_none_iff : token? part = none ↔ ¬ (decoded part).IsValidUTF8 := by
  change String.fromUTF8? (decoded part) = none ↔ _
  unfold String.fromUTF8?
  rw [dite_eq_right_iff]
  simp only [reduceCtorEq, imp_false]

private theorem mapM_token?_eq_some_iff : parts.mapM token? = some tokens ↔ Reads parts tokens := by
  induction parts generalizing tokens with
  | nil =>
      rw [List.mapM_nil, Reads, List.forall₂_nil_left_iff]
      exact Option.some_inj.trans eq_comm
  | cons part rest ih =>
      rw [List.mapM_cons, Reads, List.forall₂_cons_left_iff]
      constructor
      · intro read
        obtain ⟨token, atPart, read⟩ := Option.bind_eq_some_iff.mp read
        obtain ⟨others, atRest, same⟩ := Option.bind_eq_some_iff.mp read
        exact ⟨token, others, token?_eq_some_iff.mp atPart, ih.mp atRest, (Option.some.inj same).symm⟩
      · rintro ⟨token, others, atPart, atRest, rfl⟩
        rw [token?_eq_some_iff.mpr atPart, ih.mpr atRest]
        rfl

private theorem mapM_token?_eq_none_iff :
    parts.mapM token? = none ↔ ∃ part ∈ parts, ¬ (decoded part).IsValidUTF8 := by
  induction parts with
  | nil => exact iff_of_false nofun (by rintro ⟨_, member, _⟩; cases member)
  | cons part rest ih =>
      simp only [List.mapM_cons, List.mem_cons, exists_eq_or_imp, ← token?_eq_none_iff]
      simp only [← token?_eq_none_iff] at ih
      rw [← ih]
      cases token? part with
      | none => exact iff_of_true rfl (Or.inl rfl)
      | some token => cases rest.mapM token? <;> simp

private theorem tokens?_eq_some_iff :
    tokens? expression = some tokens ↔
      ¬ Unreadable ((dropSlash expression).splitOn '/') ∧
        Reads ((dropSlash expression).splitOn '/') tokens := by
  rw [tokens?, splitSlashes_eq_splitOn]
  generalize (dropSlash expression).splitOn '/' = parts
  rw [Unreadable, ← mapM_token?_eq_none_iff, ← mapM_token?_eq_some_iff]
  split
  next empty =>
    refine iff_of_false ?_ fun readable => readable.1 (Or.inl empty)
    intro read
    cases read
  next filled =>
    constructor
    · intro read
      refine ⟨?_, read⟩
      rintro (empty | refused)
      · exact filled empty
      · cases read.symm.trans refused
    · exact And.right

private theorem tokens?_eq_none_iff :
    tokens? expression = none ↔ Unreadable ((dropSlash expression).splitOn '/') := by
  rw [tokens?, splitSlashes_eq_splitOn]
  generalize (dropSlash expression).splitOn '/' = parts
  rw [Unreadable, ← mapM_token?_eq_none_iff]
  split
  next empty => exact iff_of_true rfl (Or.inl empty)
  next filled => exact ⟨Or.inr, fun unreadable => unreadable.resolve_left filled⟩

end Reading

/-! ### Steps -/

/-- A token that is written like an index: decimal digits, a plus sign before them or not, of a number
that 64 bits hold. -/
def IsIndex (token : String) (index : Nat) : Prop :=
  ∃ digits : List Char, (token.toList = digits ∨ token.toList = '+' :: digits) ∧ digits ≠ [] ∧
    (∀ digit ∈ digits, digit.isDigit = true) ∧ Nat.ofDigitChars 10 digits 0 = index ∧ index < 2 ^ 64

inductive ReadAs (token : String) : Step → Prop where
  | member : ReadAs token (.member token)
  | element {index : Nat} (isIndex : IsIndex token index) : ReadAs token (.element index)

def Finds (tokens : List String) (document value : Json) : Prop :=
  ∃ path, List.Forall₂ ReadAs tokens path ∧ document.at? path = some value

section Steps

variable {token : String} {tokens front back : List String} {document value next : Json}

private theorem natOfDigits_eq (digits : List Char) :
    Text.natOfDigits digits = Nat.ofDigitChars 10 digits 0 := by
  simp only [Text.natOfDigits, Nat.ofDigitChars, Nat.mul_comm 10]
  rfl

private theorem digits_eq_some_iff {digits : List Char} {index : Nat} :
    (if digits.isEmpty || !digits.all Char.isDigit then none
      else if Text.natOfDigits digits < 0x10000000000000000 then some (Text.natOfDigits digits)
      else none) = some index ↔
      digits ≠ [] ∧ (∀ digit ∈ digits, digit.isDigit = true) ∧
        Nat.ofDigitChars 10 digits 0 = index ∧ index < 2 ^ 64 := by
  rw [natOfDigits_eq]
  cases digits with
  | nil => simp
  | cons first rest =>
      by_cases allDigits : (first :: rest).all Char.isDigit = true
      · simp only [List.isEmpty_cons, allDigits, Bool.not_true, Bool.or_self, Bool.false_eq_true,
          if_false, Option.ite_none_right_eq_some, Option.some.injEq]
        rw [List.all_eq_true] at allDigits
        constructor
        · rintro ⟨bound, rfl⟩
          exact ⟨nofun, allDigits, rfl, bound⟩
        · rintro ⟨-, -, rfl, bound⟩
          exact ⟨bound, rfl⟩
      · rw [if_pos (by simp [allDigits])]
        exact iff_of_false nofun fun digits => allDigits (List.all_eq_true.mpr digits.2.1)

private theorem index?_eq_some_iff {index : Nat} : index? token = some index ↔ IsIndex token index := by
  rw [index?, IsIndex]
  dsimp only
  split
  next rest signed =>
    rw [digits_eq_some_iff]
    constructor
    · exact fun valid => ⟨rest, Or.inr signed, valid⟩
    · rintro ⟨digits, plain | same, valid⟩
      · have plus := valid.2.1 '+' (by rw [← plain, signed]; exact List.mem_cons_self)
        exact absurd plus (by decide)
      · obtain rfl := (List.cons.inj (signed.symm.trans same)).2
        exact valid
  next unsigned =>
    rw [digits_eq_some_iff]
    constructor
    · exact fun valid => ⟨token.toList, Or.inl rfl, valid⟩
    · rintro ⟨digits, rfl | signed, valid⟩
      · exact valid
      · exact absurd signed (unsigned digits)

private theorem step?_eq_some_iff :
    step? token value = some next ↔ ∃ step, ReadAs token step ∧ value.part? step = some next := by
  constructor
  · intro found
    cases value with
    | object members => exact ⟨_, .member, found⟩
    | array elements =>
        obtain ⟨index, atIndex, found⟩ := Option.bind_eq_some_iff.mp found
        exact ⟨_, .element (index?_eq_some_iff.mp atIndex), found⟩
    | _ => cases found
  · rintro ⟨step, readAs, found⟩
    cases readAs with
    | member =>
        obtain ⟨members, rfl, found⟩ := Json.member_of_part? found
        exact found
    | element isIndex =>
        obtain ⟨elements, rfl, found⟩ := Json.element_of_part? found
        exact Option.bind_eq_some_iff.mpr ⟨_, index?_eq_some_iff.mpr isIndex, found⟩

@[simp] theorem finds_nil_iff : Finds [] document value ↔ value = document := by
  rw [Finds]
  constructor
  · rintro ⟨path, read, found⟩
    rw [List.forall₂_nil_left_iff.mp read] at found
    exact (Option.some.inj found).symm
  · rintro rfl
    exact ⟨[], .nil, rfl⟩

private theorem finds_cons_iff :
    Finds (token :: tokens) document value ↔
      ∃ next, step? token document = some next ∧ Finds tokens next value := by
  constructor
  · rintro ⟨path, read, found⟩
    obtain ⟨step, rest, atToken, atRest, rfl⟩ := List.forall₂_cons_left_iff.mp read
    obtain ⟨next, atStep, found⟩ := Option.bind_eq_some_iff.mp found
    exact ⟨next, step?_eq_some_iff.mpr ⟨step, atToken, atStep⟩, rest, atRest, found⟩
  · rintro ⟨next, stepped, rest, atRest, found⟩
    obtain ⟨step, atToken, atStep⟩ := step?_eq_some_iff.mp stepped
    exact ⟨step :: rest, .cons atToken atRest, Option.bind_eq_some_iff.mpr ⟨next, atStep, found⟩⟩

private theorem finds_append_iff :
    Finds (front ++ back) document value ↔
      ∃ middle, Finds front document middle ∧ Finds back middle value := by
  induction front generalizing document with
  | nil => simp
  | cons token rest ih =>
      simp only [List.cons_append, finds_cons_iff, ih]
      constructor
      · rintro ⟨next, stepped, middle, atFront, atBack⟩
        exact ⟨middle, ⟨next, stepped, atFront⟩, atBack⟩
      · rintro ⟨middle, ⟨next, stepped, atFront⟩, atBack⟩
        exact ⟨next, stepped, middle, atFront, atBack⟩

end Steps

/-! ### Walks -/

section Walks

variable {pointer : String} {tokens : List String} {document value : Json}

private theorem walk_eq_ok_iff :
    walk pointer tokens document = .ok value ↔ Finds tokens document value := by
  induction tokens generalizing document with
  | nil =>
      simp [walk, eq_comm]
  | cons token rest ih =>
      rw [walk, finds_cons_iff]
      cases stepped : step? token document with
      | none =>
          refine iff_of_false (by simp) ?_
          rintro ⟨_, found, _⟩
          cases found
      | some next => simp [ih]

/-- A walk fails in one of two ways, and says which pointer it was about. -/
theorem walk_error {error : PointerError} (failed : walk pointer tokens document = .error error) :
    error = .absent pointer ∨ error = .malformed pointer := by
  induction tokens generalizing document with
  | nil => cases failed
  | cons token rest ih =>
      rw [walk] at failed
      split at failed
      next => exact ih failed
      next =>
        obtain rfl := Except.error.inj failed
        split
        next => exact Or.inl rfl
        next => exact Or.inr rfl

/-- A walk is malformed when some tokens before the last lead to nothing. -/
theorem walk_eq_malformed_iff :
    walk pointer tokens document = .error (.malformed pointer) ↔
      ∃ count < tokens.length, ∀ value, ¬ Finds (tokens.take count) document value := by
  induction tokens generalizing document with
  | nil =>
      refine iff_of_false (by simp [walk]) ?_
      rintro ⟨count, impossible, _⟩
      cases impossible
  | cons token rest ih =>
      rw [walk]
      cases stepped : step? token document with
      | none =>
          -- With a token left behind this one the walk ends too early.
          cases rest with
          | nil =>
              refine iff_of_false (by simp) ?_
              rintro ⟨count, inside, nothing⟩
              obtain rfl : count = 0 := Nat.lt_one_iff.mp inside
              exact nothing document (by simp)
          | cons second rest =>
              refine iff_of_true rfl ⟨1, by simp, ?_⟩
              intro value found
              obtain ⟨next, atToken, _⟩ := finds_cons_iff.mp found
              cases stepped.symm.trans atToken
      | some next =>
          dsimp only
          rw [ih]
          constructor
          · rintro ⟨count, inside, nothing⟩
            refine ⟨count + 1, Nat.succ_lt_succ inside, ?_⟩
            intro value found
            obtain ⟨other, atToken, found⟩ := finds_cons_iff.mp found
            obtain rfl := Option.some.inj (stepped.symm.trans atToken)
            exact nothing value found
          · rintro ⟨count, inside, nothing⟩
            cases count with
            | zero => exact absurd (by simp) (nothing document)
            | succ count =>
                refine ⟨count, Nat.lt_of_succ_lt_succ inside, ?_⟩
                intro value found
                exact nothing value (finds_cons_iff.mpr ⟨next, stepped, found⟩)

/-- A walk misses when all tokens but the last lead somewhere. -/
theorem walk_eq_absent_iff :
    walk pointer tokens document = .error (.absent pointer) ↔
      (∀ count < tokens.length, ∃ value, Finds (tokens.take count) document value) ∧
        ∀ value, ¬ Finds tokens document value := by
  have early : walk pointer tokens document = .error (.malformed pointer) ↔ _ :=
    walk_eq_malformed_iff
  cases walked : walk pointer tokens document with
  | ok value =>
      have found := walk_eq_ok_iff.mp walked
      exact iff_of_false nofun fun missed => missed.2 value found
  | error error =>
      rw [walked] at early
      have nothing : ∀ value, ¬ Finds tokens document value :=
        fun value found => nomatch walked.symm.trans (walk_eq_ok_iff.mpr found)
      rcases walk_error walked with rfl | rfl
      · refine iff_of_true rfl ⟨?_, nothing⟩
        by_contra ended
        push Not at ended
        cases early.mpr ended
      · refine iff_of_false nofun ?_
        rintro ⟨inside, -⟩
        obtain ⟨count, before, ended⟩ := early.mp rfl
        obtain ⟨value, found⟩ := inside count before
        exact ended value found

end Walks

/-! ### Pointers -/

section Resolving

variable {document value : Json} {expression : List Char} {tokens : List String}

/-- A pointer whose parts stand for no tokens is malformed; any other is followed token by token. -/
theorem resolve_cases (document : Json) (something : expression ≠ []) :
    (Unreadable ((dropSlash expression).splitOn '/') ∧
      resolve document (String.ofList ('#' :: expression)) =
        .error (.malformed (String.ofList ('#' :: expression)))) ∨
    ¬ Unreadable ((dropSlash expression).splitOn '/') ∧
      ∃ tokens, Reads ((dropSlash expression).splitOn '/') tokens ∧
        resolve document (String.ofList ('#' :: expression)) =
          walk (String.ofList ('#' :: expression)) tokens document := by
  obtain ⟨char, chars, rfl⟩ := List.exists_cons_of_ne_nil something
  cases read : tokens? (char :: chars) with
  | none =>
      refine Or.inl ⟨tokens?_eq_none_iff.mp read, ?_⟩
      simp only [resolve, String.toList_ofList, read]
  | some tokens =>
      obtain ⟨readable, reads⟩ := tokens?_eq_some_iff.mp read
      refine Or.inr ⟨readable, tokens, reads, ?_⟩
      simp only [resolve, String.toList_ofList, read]

/-- Both errors say which pointer they are about. -/
theorem resolve_error {pointer : String} {error : PointerError}
    (failed : resolve document pointer = .error error) :
    error = .absent pointer ∨ error = .malformed pointer := by
  unfold resolve at failed
  split at failed
  next => cases failed
  next =>
    split at failed
    next => exact walk_error failed
    next => exact Or.inr (Except.error.inj failed).symm
  next =>
    split at failed
    next => cases failed
    next => exact Or.inl (Except.error.inj failed).symm

theorem begins_of_malformed {pointer : String}
    (failed : resolve document pointer = .error (.malformed pointer)) :
    pointer.toList.head? = some '#' := by
  unfold resolve at failed
  split at failed
  next => cases failed
  next rest _ text => rw [text, List.head?_cons]
  next => split at failed <;> cases failed

private theorem exists_reads_iff {parts : List (List Char)} (reads : Reads parts tokens)
    {holds : List String → Prop} :
    (∃ others, Reads parts others ∧ holds others) ↔ holds tokens := by
  constructor
  · rintro ⟨others, readsOthers, known⟩
    have same := (mapM_token?_eq_some_iff.mpr reads).symm.trans (mapM_token?_eq_some_iff.mpr readsOthers)
    exact Option.some.inj same ▸ known
  · exact fun known => ⟨tokens, reads, known⟩

theorem resolve_eq_ok_iff (something : expression ≠ []) :
    resolve document (String.ofList ('#' :: expression)) = .ok value ↔
      ¬ Unreadable ((dropSlash expression).splitOn '/') ∧
        ∃ tokens, Reads ((dropSlash expression).splitOn '/') tokens ∧
          Finds tokens document value := by
  rcases resolve_cases document something with
    ⟨unreadable, refused⟩ | ⟨readable, tokens, reads, walked⟩
  · rw [refused]
    exact iff_of_false nofun fun found => found.1 unreadable
  · rw [walked, walk_eq_ok_iff, exists_reads_iff reads, and_iff_right readable]

theorem resolve_eq_malformed_iff (something : expression ≠ []) :
    resolve document (String.ofList ('#' :: expression)) =
        .error (.malformed (String.ofList ('#' :: expression))) ↔
      Unreadable ((dropSlash expression).splitOn '/') ∨
        ∃ tokens, Reads ((dropSlash expression).splitOn '/') tokens ∧
          ∃ count < tokens.length, ∀ value, ¬ Finds (tokens.take count) document value := by
  rcases resolve_cases document something with
    ⟨unreadable, refused⟩ | ⟨readable, tokens, reads, walked⟩
  · exact iff_of_true refused (Or.inl unreadable)
  · rw [walked, walk_eq_malformed_iff, exists_reads_iff reads, or_iff_right readable]

theorem resolve_eq_absent_iff (something : expression ≠ []) :
    resolve document (String.ofList ('#' :: expression)) =
        .error (.absent (String.ofList ('#' :: expression))) ↔
      ¬ Unreadable ((dropSlash expression).splitOn '/') ∧
        ∃ tokens, Reads ((dropSlash expression).splitOn '/') tokens ∧
          (∀ count < tokens.length, ∃ value, Finds (tokens.take count) document value) ∧
            ∀ value, ¬ Finds tokens document value := by
  rcases resolve_cases document something with
    ⟨unreadable, refused⟩ | ⟨readable, tokens, reads, walked⟩
  · rw [refused]
    exact iff_of_false nofun fun found => found.1 unreadable
  · rw [walked, walk_eq_absent_iff, exists_reads_iff reads, and_iff_right readable]

private theorem readable_of_filled {parts : List (List Char)} (filled : [] ∉ parts)
    (reads : Reads parts tokens) : ¬ Unreadable parts := by
  rintro (⟨-, empty⟩ | ⟨part, member, invalid⟩)
  · exact filled empty
  · have read := mapM_token?_eq_some_iff.mpr reads
    exact nomatch (mapM_token?_eq_none_iff.mpr ⟨part, member, invalid⟩).symm.trans read

/-- With a slash before it, a text without empty parts finds what its tokens lead to. -/
theorem resolve_slashed_iff {text : List Char} (filled : [] ∉ text.splitOn '/') :
    resolve document (String.ofList ('#' :: '/' :: text)) = .ok value ↔
      ∃ tokens, Reads (text.splitOn '/') tokens ∧ Finds tokens document value := by
  rw [resolve_eq_ok_iff (List.cons_ne_nil _ _), dropSlash]
  constructor
  · exact And.right
  · rintro ⟨tokens, reads, found⟩
    exact ⟨readable_of_filled filled reads, tokens, reads, found⟩

private theorem reads_of_append {fronts backs : List (List Char)} (reads : Reads (fronts ++ backs) tokens) :
    Reads fronts (tokens.take fronts.length) ∧ Reads backs (tokens.drop fronts.length) := by
  have flipped := List.Forall₂.flip reads
  exact ⟨(List.forall₂_take_append _ _ _ flipped).flip,
    (List.forall₂_drop_append _ _ _ flipped).flip⟩

/-- A pointer made of two finds what the second finds in what the first has found. -/
theorem resolve_joined_iff {front back : List Char} (filledFront : [] ∉ front.splitOn '/')
    (filledBack : [] ∉ back.splitOn '/') :
    resolve document (String.ofList ('#' :: '/' :: (front ++ '/' :: back))) = .ok value ↔
      ∃ middle, resolve document (String.ofList ('#' :: '/' :: front)) = .ok middle ∧
        resolve middle (String.ofList ('#' :: '/' :: back)) = .ok value := by
  have filled : [] ∉ (front ++ '/' :: back).splitOn '/' := by
    rw [List.splitOn_append_cons_self, List.mem_append]
    exact fun empty => empty.elim filledFront filledBack
  rw [resolve_slashed_iff filled, List.splitOn_append_cons_self]
  simp only [resolve_slashed_iff filledFront, resolve_slashed_iff filledBack]
  constructor
  · rintro ⟨tokens, reads, found⟩
    obtain ⟨readsFront, readsBack⟩ := reads_of_append reads
    rw [← List.take_append_drop (front.splitOn '/').length tokens] at found
    obtain ⟨middle, atFront, atBack⟩ := finds_append_iff.mp found
    exact ⟨middle, ⟨_, readsFront, atFront⟩, _, readsBack, atBack⟩
  · rintro ⟨middle, ⟨frontTokens, readsFront, atFront⟩, backTokens, readsBack, atBack⟩
    exact ⟨frontTokens ++ backTokens, List.rel_append readsFront readsBack,
      finds_append_iff.mpr ⟨middle, atFront, atBack⟩⟩

end Resolving

/-- Every pointer with something behind the number sign is of one of three kinds. It is malformed when its
parts stand for no tokens or when tokens before the last lead to nothing; absent when they stand for
tokens of which the last alone leads to nothing; and otherwise it finds what the tokens lead to. A pointer
made of two, each without empty parts, is followed like the one and then the other. -/
theorem resolve_classified (document : Json) {expression : List Char} (something : expression ≠ []) :
    let pointer := String.ofList ('#' :: expression)
    let parts := (dropSlash expression).splitOn '/'
    (resolve document pointer = .error (.malformed pointer) ↔
      Unreadable parts ∨ ∃ tokens, Reads parts tokens ∧
        ∃ count < tokens.length, ∀ value, ¬ Finds (tokens.take count) document value) ∧
    (resolve document pointer = .error (.absent pointer) ↔
      ¬ Unreadable parts ∧ ∃ tokens, Reads parts tokens ∧
        (∀ count < tokens.length, ∃ value, Finds (tokens.take count) document value) ∧
        ∀ value, ¬ Finds tokens document value) ∧
    (∀ value, resolve document pointer = .ok value ↔
      ¬ Unreadable parts ∧ ∃ tokens, Reads parts tokens ∧ Finds tokens document value) ∧
    ∀ front back : List Char, [] ∉ front.splitOn '/' → [] ∉ back.splitOn '/' → ∀ value,
      (resolve document (String.ofList ('#' :: '/' :: (front ++ '/' :: back))) = .ok value ↔
        ∃ middle, resolve document (String.ofList ('#' :: '/' :: front)) = .ok middle ∧
          resolve middle (String.ofList ('#' :: '/' :: back)) = .ok value) :=
  ⟨resolve_eq_malformed_iff something, resolve_eq_absent_iff something,
    fun _ => resolve_eq_ok_iff something,
    fun _ _ filledFront filledBack _ => resolve_joined_iff filledFront filledBack⟩

def shelves : Json := .object [("list", .array [.null, .object [("x/y", .bool true)]])]

theorem resolve_classified_shelves :
    "/list/+01/x~1y".toList ≠ [] ∧
      (¬ Unreadable ("list/+01/x~1y".toList.splitOn '/') ∧
        ∃ tokens, Reads ("list/+01/x~1y".toList.splitOn '/') tokens ∧
          Finds tokens shelves (.bool true)) ∧
      ∃ middle, resolve shelves "#/list/+01" = .ok middle ∧
        resolve middle "#/x~1y" = .ok (.bool true) := by
  have something : "/list/+01/x~1y".toList ≠ [] := by decide
  have found : resolve shelves "#/list/+01/x~1y" = .ok (.bool true) := by rfl
  obtain ⟨-, -, finds, joined⟩ := resolve_classified shelves something
  have follows := joined "list/+01".toList "x~1y".toList (by decide) (by decide) (.bool true)
  exact ⟨something, (finds (.bool true)).mp found, follows.mp found⟩

end Pointer

end JsonSchema
