set_option autoImplicit false

/-! Sets of characters as ranges of code points, in ascending order and with gaps between. The
surrogates are code points but no characters: a range may run across them, and no range begins or
ends among them. Membership in a union, an intersection or a difference is what it says, for ranges
in any order. -/

namespace JsonSchema.Unicode

structure CharRange where
  first : Nat
  last : Nat
  ordered : first ≤ last
deriving DecidableEq

namespace CharRange

def single (point : Nat) : CharRange := ⟨point, point, Nat.le_refl point⟩

def between (one other : Nat) : CharRange := ⟨min one other, max one other, by omega⟩

def holds (range : CharRange) (point : Nat) : Bool :=
  decide (range.first ≤ point) && decide (point ≤ range.last)

def touches (left right : CharRange) : Bool :=
  decide (left.first ≤ right.last + 1) && decide (right.first ≤ left.last + 1)

def hull (left right : CharRange) : CharRange :=
  ⟨min left.first right.first, max left.last right.last, by
    have := left.ordered
    omega⟩

private theorem holds_hull {left right : CharRange} (together : left.touches right) (point : Nat) :
    (left.hull right).holds point = (left.holds point || right.holds point) := by
  have leftOrdered := left.ordered
  have rightOrdered := right.ordered
  simp only [touches, Bool.and_eq_true, decide_eq_true_eq] at together
  rw [Bool.eq_iff_iff]
  simp only [holds, Bool.or_eq_true, Bool.and_eq_true, decide_eq_true_eq]
  simp only [hull]
  omega

end CharRange

def characterBefore (point : Nat) : Nat := if point = 0xE000 then 0xD7FF else point - 1

def characterAfter (point : Nat) : Nat := if point = 0xD7FF then 0xE000 else point + 1

private theorem le_characterBefore {point bound : Nat} (valid : point.isValidChar)
    (positive : bound ≠ 0) : point ≤ characterBefore bound ↔ point < bound := by
  unfold Nat.isValidChar at valid
  unfold characterBefore
  split <;> omega

private theorem characterAfter_le {point bound : Nat} (valid : point.isValidChar) :
    characterAfter bound ≤ point ↔ bound < point := by
  unfold Nat.isValidChar at valid
  unfold characterAfter
  split <;> omega

private theorem characterBefore_le (point : Nat) : characterBefore point ≤ point := by
  unfold characterBefore
  split <;> omega

private theorem lt_characterAfter (point : Nat) : point < characterAfter point := by
  unfold characterAfter
  split <;> omega

structure CharSet where
  ranges : List CharRange
deriving DecidableEq

namespace CharSet

def empty : CharSet := ⟨[]⟩

def all : CharSet := ⟨[.between 0 0x10FFFF]⟩

def single (point : Nat) : CharSet := ⟨[.single point]⟩

def holds (set : CharSet) (point : Nat) : Bool := set.ranges.any fun range => range.holds point

def contains (set : CharSet) (char : Char) : Bool := set.holds char.toNat

theorem contains_iff {set : CharSet} {char : Char} :
    set.contains char = true ↔
      ∃ range ∈ set.ranges, range.first ≤ char.toNat ∧ char.toNat ≤ range.last := by
  simp [contains, holds, CharRange.holds]

def onlyMember? (set : CharSet) : Option Char :=
  match set.ranges with
  | [range] => if range.first = range.last then some (Char.ofNat range.first) else none
  | _ => none

def isAscii (set : CharSet) : Bool := set.ranges.all fun range => decide (range.last < 128)

/-- Puts a range before the first of a list that does not begin earlier, and lets `later` treat what
follows. -/
def place (range : CharRange) (later : List CharRange → List CharRange) :
    List CharRange → List CharRange
  | [] => range :: later []
  | other :: rest =>
      if other.first < range.first then other :: place range later rest
      else range :: later (other :: rest)

def interleave (left right : List CharRange) : List CharRange := left.foldr place id right

/-- Joins a range with those of a list that it touches, as far as there is no gap. -/
def absorb (range : CharRange) : List CharRange → List CharRange
  | [] => [range]
  | other :: rest =>
      if range.touches other then absorb (range.hull other) rest else range :: absorb other rest

def joined : List CharRange → List CharRange
  | [] => []
  | range :: rest => absorb range rest

def union (left right : CharSet) : CharSet := ⟨joined (interleave left.ranges right.ranges)⟩

def unionAll (sets : List CharSet) : CharSet := sets.foldl union empty

def ofPoints (points : List Nat) : CharSet := unionAll (points.map single)

def gaps (start : Nat) : List CharRange → List CharRange
  | [] => if start ≤ 0x10FFFF then [.between start 0x10FFFF] else []
  | range :: rest =>
      if range.first = 0 then gaps (characterAfter range.last) rest
      else .between start (characterBefore range.first) :: gaps (characterAfter range.last) rest

/-- The characters outside a set. A gap that holds surrogates only is taken for the two characters
beside it. -/
def complement (set : CharSet) : CharSet := ⟨gaps 0 set.ranges⟩

def overlap? (left right : CharRange) : Option CharRange :=
  if shared : max left.first right.first ≤ min left.last right.last then
    some ⟨max left.first right.first, min left.last right.last, shared⟩
  else none

def intersection (left right : CharSet) : CharSet :=
  ⟨left.ranges.flatMap fun range => right.ranges.filterMap fun other => overlap? range other⟩

def without (range removed : CharRange) : List CharRange :=
  if range.last < removed.first ∨ removed.last < range.first then [range]
  else
    (if range.first < removed.first then [.between range.first (characterBefore removed.first)]
      else []) ++
      if removed.last < range.last then [.between (characterAfter removed.last) range.last] else []

def difference (left right : CharSet) : CharSet :=
  ⟨right.ranges.foldl (fun ranges removed => ranges.flatMap fun range => without range removed)
    left.ranges⟩

def symmetricDifference (left right : CharSet) : CharSet :=
  (left.union right).difference (left.intersection right)

@[simp] theorem holds_absorb (ranges : List CharRange) (range : CharRange) (point : Nat) :
    (absorb range ranges).any (fun range => range.holds point) =
      (range.holds point || ranges.any fun range => range.holds point) := by
  induction ranges generalizing range with
  | nil => simp [absorb]
  | cons other rest ih =>
      by_cases together : range.touches other
      · simp [absorb, together, ih, CharRange.holds_hull together, Bool.or_assoc]
      · simp [absorb, together, ih]

@[simp] theorem holds_joined (ranges : List CharRange) (point : Nat) :
    (joined ranges).any (fun range => range.holds point) =
      ranges.any fun range => range.holds point := by
  cases ranges with
  | nil => rfl
  | cons range rest => simp [joined]

@[simp] theorem mem_interleave {left right : List CharRange} {range : CharRange} :
    range ∈ interleave left right ↔ range ∈ left ∨ range ∈ right := by
  have placed (first : CharRange) (later : List CharRange → List CharRange)
      (others : List CharRange)
      (known : ∀ given, range ∈ later given ↔ range ∈ others ∨ range ∈ given)
      (given : List CharRange) :
      range ∈ place first later given ↔ range = first ∨ range ∈ others ∨ range ∈ given := by
    induction given with
    | nil => simp [place, known]
    | cons other rest ih =>
        by_cases earlier : other.first < first.first
        · simp only [place, earlier, if_true, List.mem_cons, ih]
          grind
        · simp [place, earlier, known]
  induction left generalizing right with
  | nil => simp [interleave]
  | cons first rest ih =>
      have known (given : List CharRange) :
          range ∈ List.foldr place id rest given ↔ range ∈ rest ∨ range ∈ given := ih
      have := placed first _ rest known right
      simpa [interleave, or_assoc] using this

/-- A union holds what one of its sides holds. -/
@[simp] theorem holds_union (left right : CharSet) (point : Nat) :
    (left.union right).holds point = (left.holds point || right.holds point) := by
  rw [Bool.eq_iff_iff]
  simp only [union, holds, holds_joined, Bool.or_eq_true, List.any_eq_true, mem_interleave]
  grind

/-- Whether ranges ascend from a character on, each with room before it for a gap. -/
def ascendsFrom (start : Nat) : List CharRange → Bool
  | [] => true
  | range :: rest =>
      decide (start ≤ characterBefore range.first) && ascendsFrom (characterAfter range.last) rest

private theorem le_first_of_ascendsFrom {ranges : List CharRange} {start : Nat}
    (ascends : ascendsFrom start ranges = true) : ∀ range ∈ ranges, start ≤ range.first := by
  induction ranges generalizing start with
  | nil => simp
  | cons range rest ih =>
      simp only [ascendsFrom, Bool.and_eq_true, decide_eq_true_eq] at ascends
      obtain ⟨room, ascendsRest⟩ := ascends
      have atFirst := Nat.le_trans room (characterBefore_le range.first)
      have ordered := range.ordered
      have after := lt_characterAfter range.last
      refine List.forall_mem_cons.mpr ⟨atFirst, fun other isOther => ?_⟩
      have later := ih ascendsRest other isOther
      omega

private theorem mem_gaps {point : Nat} (valid : point.isValidChar) {ranges : List CharRange}
    {start : Nat} (ascends : ascendsFrom start ranges = true) :
    (∃ gap ∈ gaps start ranges, gap.first ≤ point ∧ point ≤ gap.last) ↔
      start ≤ point ∧ ∀ range ∈ ranges, range.first ≤ point → range.last < point := by
  induction ranges generalizing start with
  | nil =>
      have atMost : point ≤ 0x10FFFF := by
        unfold Nat.isValidChar at valid
        omega
      by_cases room : start ≤ 0x10FFFF
      · simp [gaps, room, CharRange.between, atMost]
      · have outside : ¬start ≤ point := by omega
        simp [gaps, room, outside]
  | cons range rest ih =>
      simp only [ascendsFrom, Bool.and_eq_true, decide_eq_true_eq] at ascends
      obtain ⟨room, ascendsRest⟩ := ascends
      have ordered := range.ordered
      have inRest := ih ascendsRest
      rw [characterAfter_le valid] at inRest
      rw [List.forall_mem_cons, gaps]
      split
      next atZero =>
        have : start = 0 := by
          rw [atZero] at room
          exact Nat.le_zero.mp room
        rw [inRest]
        refine ⟨fun later => ⟨by omega, fun _ => later.1, later.2⟩, fun outside => ⟨?_, outside.2.2⟩⟩
        exact outside.2.1 (by omega)
      next positive =>
        have inFirst := le_characterBefore valid positive
        have fromStart := Nat.le_trans room (characterBefore_le range.first)
        have afterLast := lt_characterAfter range.last
        simp only [List.mem_cons, exists_eq_or_imp, inRest, CharRange.between, Nat.min_eq_left room,
          Nat.max_eq_right room, inFirst]
        constructor
        · rintro (⟨fromHere, before⟩ | ⟨after, others⟩)
          · refine ⟨fromHere, by omega, fun other isOther => ?_⟩
            have later := le_first_of_ascendsFrom ascendsRest other isOther
            omega
          · exact ⟨by omega, fun _ => after, others⟩
        · rintro ⟨fromHere, atFirst, others⟩
          rcases Nat.lt_or_ge point range.first with before | inside
          · exact .inl ⟨fromHere, before⟩
          · exact .inr ⟨atFirst inside, others⟩

@[simp] theorem contains_union (left right : CharSet) (char : Char) :
    (left.union right).contains char = (left.contains char || right.contains char) :=
  holds_union left right char.toNat

/-- The complement of ascending ranges contains the other characters. -/
theorem contains_complement {set : CharSet} (ascends : ascendsFrom 0 set.ranges = true) (char : Char) :
    set.complement.contains char = !set.contains char := by
  have valid : char.toNat.isValidChar := char.valid
  have outside := mem_gaps valid ascends
  rw [Bool.eq_iff_iff, Bool.not_eq_true']
  simpa [complement, contains, holds, CharRange.holds] using outside

end CharSet

end JsonSchema.Unicode
