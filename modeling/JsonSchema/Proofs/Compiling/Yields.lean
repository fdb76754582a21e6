import JsonSchema.Proofs.Interpreting.Represents

set_option autoImplicit false

/-! Runs of the compiler. A run leaves the slots that are there alone and fills all that it takes, but
what it makes may name slots that are still open, being inside their targets. So what a run yields is
stated about the table at the end of the whole run, in which every slot has its reference. -/

namespace JsonSchema

def Keeps (earlier later : Array Slot) : Prop :=
  earlier.size ≤ later.size ∧ ∀ index < earlier.size, later[index]? = earlier[index]?

def Covers (final slots : Array Slot) : Prop :=
  ∀ (index : Nat) (slot : Slot), slots[index]? = some slot →
    ∃ other, final[index]? = some other ∧ other.scope = slot.scope ∧
      other.reference = slot.reference

theorem Keeps.refl (slots : Array Slot) : Keeps slots slots :=
  ⟨Nat.le_refl _, fun _ _ => rfl⟩

theorem Keeps.trans {first second third : Array Slot} (left : Keeps first second)
    (right : Keeps second third) : Keeps first third := by
  refine ⟨Nat.le_trans left.1 right.1, ?_⟩
  intro index inFirst
  rw [right.2 index (Nat.lt_of_lt_of_le inFirst left.1), left.2 index inFirst]

theorem Keeps.get? {earlier later : Array Slot} (keeps : Keeps earlier later) {index : Nat}
    {slot : Slot} (atIndex : earlier[index]? = some slot) : later[index]? = some slot := by
  obtain ⟨inRange, _⟩ := Array.getElem?_eq_some_iff.mp atIndex
  rw [keeps.2 index inRange, atIndex]

theorem Covers.of_keeps {final earlier later : Array Slot} (covers : Covers final later)
    (keeps : Keeps earlier later) : Covers final earlier :=
  fun index slot atIndex => covers index slot (keeps.get? atIndex)

theorem Covers.refl (slots : Array Slot) : Covers slots slots :=
  fun _ slot atIndex => ⟨slot, atIndex, rfl, rfl⟩

namespace Compiling

variable {Answer More : Type} {run : Compiling Answer} {next : Answer → Compiling More}
  {slots later : Array Slot}

theorem bind_ok {answer : Answer} (ran : run slots = .ok (answer, later)) :
    (run >>= next) slots = next answer later := by
  simp only [bind, StateT.bind, Except.bind, ran]

theorem bind_error {stop : CompileStop} (ran : run slots = .error stop) :
    (run >>= next) slots = .error stop := by
  simp only [bind, StateT.bind, Except.bind, ran]

theorem ok_of_bind {more : More} (ran : (run >>= next) slots = .ok (more, later)) :
    ∃ answer middle, run slots = .ok (answer, middle) ∧ next answer middle = .ok (more, later) := by
  cases ranFirst : run slots with
  | error stop =>
      rw [bind_error ranFirst] at ran
      cases ran
  | ok result =>
      rw [bind_ok ranFirst] at ran
      exact ⟨result.1, result.2, rfl, ran⟩

end Compiling

namespace Compiler

/-- The slots of a table from some index on hold rules that fit them. -/
def FilledFrom (interpreter : Interpreter) (final : Array Slot) (first : Nat)
    (slots : Array Slot) : Prop :=
  ∀ (index : Nat) (slot : Slot), first ≤ index → slots[index]? = some slot →
    ∃ body, slot.body = some body ∧ interpreter.Fits final slot body

theorem filledFrom_size {interpreter : Interpreter} {final : Array Slot} (slots : Array Slot) :
    FilledFrom interpreter final slots.size slots := by
  intro index slot behind atIndex
  obtain ⟨inRange, _⟩ := Array.getElem?_eq_some_iff.mp atIndex
  omega

theorem FilledFrom.trans {interpreter : Interpreter} {final middle later : Array Slot} {first : Nat}
    (left : FilledFrom interpreter final first middle) (keeps : Keeps middle later)
    (right : FilledFrom interpreter final middle.size later) :
    FilledFrom interpreter final first later := by
  intro index slot behind atIndex
  by_cases inMiddle : index < middle.size
  · rw [keeps.2 index inMiddle] at atIndex
    exact left index slot behind atIndex
  · exact right index slot (Nat.le_of_not_lt inMiddle) atIndex

/-- A run, if it comes to an answer, keeps the slots that are there; and in a table that has all slots
after the run, the new ones are filled and the answer is as stated. -/
def Yields (interpreter : Interpreter) (final : Array Slot) {Answer : Type}
    (run : Compiling Answer) (stated : Answer → Prop) : Prop :=
  ∀ (earlier : Array Slot) (answer : Answer) (later : Array Slot),
    run earlier = .ok (answer, later) →
      Keeps earlier later ∧
        (Covers final later →
          stated answer ∧ FilledFrom interpreter final earlier.size later)

namespace Yields

variable {interpreter : Interpreter} {final : Array Slot} {Answer More : Type}

theorem pure {answer : Answer} {stated : Answer → Prop} (holds : stated answer) :
    Yields interpreter final (Pure.pure answer) stated := by
  intro earlier other later ran
  cases ran
  exact ⟨.refl earlier, fun _ => ⟨holds, filledFrom_size earlier⟩⟩

theorem throw {stop : CompileStop} {stated : Answer → Prop} :
    Yields interpreter final (MonadExcept.throw stop) stated := by
  intro earlier answer later ran
  cases ran

theorem imp {run : Compiling Answer} {stated weaker : Answer → Prop}
    (yields : Yields interpreter final run stated) (implied : ∀ answer, stated answer → weaker answer) :
    Yields interpreter final run weaker := by
  intro earlier answer later ran
  obtain ⟨keeps, atEnd⟩ := yields earlier answer later ran
  refine ⟨keeps, fun covers => ?_⟩
  obtain ⟨holds, filled⟩ := atEnd covers
  exact ⟨implied answer holds, filled⟩

/-- What the first run states is known only in the final table, so the second states its own under this
condition. -/
theorem bind {run : Compiling Answer} {next : Answer → Compiling More} {stated : Answer → Prop}
    {ends : More → Prop} (first : Yields interpreter final run stated)
    (second : ∀ answer, Yields interpreter final (next answer)
      fun more => stated answer → ends more) :
    Yields interpreter final (run >>= next) ends := by
  intro earlier more later ran
  obtain ⟨answer, middle, ranFirst, ranSecond⟩ := Compiling.ok_of_bind ran
  obtain ⟨keepsFirst, atMiddle⟩ := first earlier answer middle ranFirst
  obtain ⟨keepsSecond, atEnd⟩ := second answer middle more later ranSecond
  refine ⟨keepsFirst.trans keepsSecond, fun covers => ?_⟩
  obtain ⟨holds, filledFirst⟩ := atMiddle (covers.of_keeps keepsSecond)
  obtain ⟨holdsFinally, filledSecond⟩ := atEnd covers
  exact ⟨holdsFinally holds, filledFirst.trans keepsSecond filledSecond⟩

theorem map {run : Compiling Answer} {wrap : Answer → More} {stated : Answer → Prop}
    {ends : More → Prop} (first : Yields interpreter final run stated)
    (implied : ∀ answer, stated answer → ends (wrap answer)) :
    Yields interpreter final (run >>= fun answer => Pure.pure (wrap answer)) ends :=
  first.bind fun answer => .pure (implied answer)

theorem mapM {Item : Type} {run : Item → Compiling Answer} {stated : Item → Answer → Prop}
    (items : List Item) (each : ∀ item, Yields interpreter final (run item) (stated item)) :
    Yields interpreter final (items.mapM run) (List.Forall₂ stated items) := by
  induction items with
  | nil => exact .pure .nil
  | cons item rest ih =>
      rw [List.mapM_cons]
      refine (each item).bind fun answer => ?_
      exact ih.map fun answers others own => .cons own others

end Yields

end Compiler

end JsonSchema
