import JsonSchema.Checking

set_option autoImplicit false

/-! Computations that run side by side. When two of them are built in the same way from smaller ones, a
correspondence of the smaller ones carries over. `Compatible` says which correspondences do, so that one
induction over a program serves for all of them. -/

namespace JsonSchema

/-- A way for two computations to correspond that those made from corresponding ones inherit. -/
structure Compatible (Left Right : Type → Type) [Monad Left] [Monad Right]
    (Match : ∀ {Answer : Type}, Left Answer → Right Answer → Prop) : Prop where
  known : ∀ {Answer : Type} (answer : Answer), Match (pure answer) (pure answer)
  bind : ∀ {Answer More : Type} {left : Left Answer} {right : Right Answer}
    {leftNext : Answer → Left More} {rightNext : Answer → Right More}, Match left right →
    (∀ answer, Match (leftNext answer) (rightNext answer)) →
    Match (left >>= leftNext) (right >>= rightNext)

theorem Compatible.mapM {Left Right : Type → Type} [Monad Left] [Monad Right] [LawfulMonad Left]
    [LawfulMonad Right] {Match : ∀ {Answer : Type}, Left Answer → Right Answer → Prop}
    (compatible : Compatible Left Right Match) {Item Answer : Type} {left : Item → Left Answer}
    {right : Item → Right Answer} {items : List Item} (each : ∀ item ∈ items, Match (left item) (right item)) :
    Match (items.mapM left) (items.mapM right) := by
  induction items with
  | nil => exact compatible.known []
  | cons item rest ih =>
      rw [List.mapM_cons, List.mapM_cons]
      refine compatible.bind (each item List.mem_cons_self) fun answer => ?_
      have others := ih fun later member => each later (List.mem_cons_of_mem item member)
      exact compatible.bind others fun answers => compatible.known (answer :: answers)

def Agree {Answer : Type} (left right : Option Answer) : Prop :=
  ∀ answer other, left = some answer → right = some other → answer = other

theorem compatible_agree : Compatible Option Option @Agree := by
  constructor
  · intro _ answer first second atLeft atRight
    exact Option.some.inj (atLeft.symm.trans atRight)
  · intro _ _ left right leftNext rightNext agree next first second atLeft atRight
    obtain ⟨answer, known, more⟩ := Option.bind_eq_some_iff.mp atLeft
    obtain ⟨other, otherKnown, otherMore⟩ := Option.bind_eq_some_iff.mp atRight
    obtain rfl := agree answer other known otherKnown
    exact next answer first second more otherMore

def KnownIn {Answer : Type} (left right : Option Answer) : Prop :=
  ∀ answer, left = some answer → right = some answer

theorem compatible_knownIn : Compatible Option Option @KnownIn := by
  constructor
  · intro _ answer first atLeft
    exact atLeft
  · intro _ _ left right leftNext rightNext knownIn next first atLeft
    obtain ⟨answer, known, more⟩ := Option.bind_eq_some_iff.mp atLeft
    rw [knownIn answer known]
    exact next answer first more

section Runs

variable {LeftStop RightStop : Type}

theorem ends_of_bind {Answer Result : Type} {first : Except LeftStop Answer}
    {next : Answer → Except LeftStop Result} {result : Result}
    (ends : first >>= next = .ok result) :
    ∃ answer, first = .ok answer ∧ next answer = .ok result := by
  cases first with
  | error stop => cases ends
  | ok answer => exact ⟨answer, rfl, ends⟩

theorem bind_of_ends {Answer Result : Type} {first : Except LeftStop Answer}
    {next : Answer → Except LeftStop Result} {answer : Answer} (ends : first = .ok answer) :
    first >>= next = next answer := by
  rw [ends]
  rfl

/-- Where the first run ends, the second ends with the same answer. -/
def EndsIn {Answer : Type} (left : Except LeftStop Answer) (right : Except RightStop Answer) : Prop :=
  ∀ answer, left = .ok answer → right = .ok answer

theorem compatible_endsIn :
    Compatible (Except LeftStop) (Except RightStop) (@EndsIn LeftStop RightStop) := by
  constructor
  · intro _ answer first atLeft
    cases atLeft
    rfl
  · intro _ _ left right leftNext rightNext endsIn next first atLeft
    cases left with
    | error stop => cases atLeft
    | ok answer =>
        rw [endsIn answer rfl]
        exact next answer first atLeft

end Runs

end JsonSchema
