import JsonSchema.Proofs.Interpreting.Asking
import JsonSchema.Proofs.Reordering.Keywords

set_option autoImplicit false

/-! The demands of a node whose keys are in another order. The keywords of the node stand in another
order, and of those about members another one may come first; grouped by kinds they make the same
demands on a value, which has one kind. -/

namespace JsonSchema

theorem Json.Reordered.kind?_eq {value other : Json} (reordered : value.Reordered other) :
    value.kind? = other.kind? := by
  cases reordered <;> rfl

namespace Interpreter

/-! ### Groups -/

section Groups

variable {asks others : List (Keyword × (Json → List (Demand SchemaNode)))} {value other : Json}

def SameKindOfAsk (ask other : Keyword × (Json → List (Demand SchemaNode))) : Prop :=
  ask.1.kind? = other.1.kind? ∧ SameAsk ask.2 other.2

private theorem reordered_grouped (each : Shuffled SameKindOfAsk asks others)
    (values : value.Reordered other) :
    Demand.AllReordered SchemaNode.Reordered (grouped asks value) (grouped others other) := by
  have byKind (kind : Option Kind) : Demand.AllReordered SchemaNode.Reordered
      (askedByKind asks value kind) (askedByKind others other kind) := by
    have kept : Shuffled SameKindOfAsk (asks.filter fun ask => decide (ask.1.kind? = kind))
        (others.filter fun ask => decide (ask.1.kind? = kind)) :=
      each.filter fun _ _ same => congrArg (fun own => decide (own = kind)) same.1
    exact kept.flatMap fun _ _ same => same.2 _ _ values
  rw [grouped_eq, grouped_eq, values.kind?_eq]
  refine (byKind none).append ?_
  cases other.kind? with
  | none => exact .nil
  | some kind =>
      simp only [Option.toList_some, List.flatMap_singleton]
      exact byKind (some kind)

end Groups

/-! ### The order of keywords -/

section Node

variable {members others : List (String × Json)}

def Stands (members others : List (String × Json)) (left right : Keyword) : Prop :=
  left = right ∨
    ((left.isAboutMembers = true ∧ Entries.hasKey members left.name = true) ∧
      right.isAboutMembers = true ∧ Entries.hasKey others right.name = true)

theorem keywords_shuffled (names : (Entries.names members).Perm (Entries.names others)) :
    Shuffled (Stands members others) (keywords members) (keywords others) := by
  rw [← Compiler.keywordsOf_eq, ← Compiler.keywordsOf_eq]
  have perm := Compiler.written_perm names
  have first : Shuffled (Stands members others) (((Compiler.written members).filter Keyword.isAboutMembers).take 1)
      (((Compiler.written others).filter Keyword.isAboutMembers).take 1) := by
    refine Shuffled.take_one (perm.filter _) fun left isLeft right isRight => .inr ?_
    obtain ⟨leftWritten, leftAbout⟩ := List.mem_filter.mp isLeft
    obtain ⟨rightWritten, rightAbout⟩ := List.mem_filter.mp isRight
    exact ⟨⟨leftAbout, Compiler.hasKey_of_written leftWritten⟩, rightAbout,
      Compiler.hasKey_of_written rightWritten⟩
  have rest : Shuffled (Stands members others)
      ((Compiler.written members).filter fun keyword => !keyword.isAboutMembers)
      ((Compiler.written others).filter fun keyword => !keyword.isAboutMembers) :=
    Shuffled.perm_right (.of_forall₂ (List.forall₂_same.mpr fun _ _ => .inl rfl)) (perm.filter _)
  exact ((first.append rest).perm_left (Compiler.leadingKeywords_perm _)).perm_right
    (Compiler.leadingKeywords_perm _).symm

variable {interpreter changed : Interpreter} (same : interpreter.Reordered changed)
  (free : interpreter.OrderFree) (reordered : Entries.Reordered Json.Reordered members others)
  (scope : Scope)

include same free reordered

private theorem shuffled_asks :
    Shuffled SameKindOfAsk (interpreter.asks members scope (keywords members))
      (changed.asks others scope (keywords others)) := by
  refine (keywords_shuffled reordered.names_perm).filterMap fun left right stands => ?_
  rcases stands with rfl | ⟨⟨leftAbout, inLeft⟩, rightAbout, inRight⟩
  · have asked := Optional.rel_bind (reordered.lookup left.name) fun _ _ arguments =>
      rel_ask? reordered arguments same free scope left
    exact Optional.rel_map asked fun _ _ asks => ⟨rfl, asks⟩
  · rw [asked_about leftAbout inLeft, asked_about rightAbout inRight]
    have kinds := (Keyword.kind?_of_about leftAbout).trans (Keyword.kind?_of_about rightAbout).symm
    exact Optional.rel_map (rel_askMembers? reordered) fun _ _ asks => ⟨kinds, asks⟩

private theorem reordered_askFormat {value other : Json} (values : value.Reordered other) :
    Demand.AllReordered SchemaNode.Reordered (interpreter.askFormat members value)
      (changed.askFormat others other) := by
  unfold askFormat
  rw [reordered.string?_eq, same.formats]
  cases (others.lookup "format").bind Json.string? with
  | none => exact .nil
  | some name =>
      dsimp only
      cases found : changed.formats.lookup name with
      | none => exact .nil
      | some format =>
          rw [← same.formats] at found
          have ignores := free.formats _ (Entries.mem_of_lookup found)
          have equal : format.accepts value (.object members) = format.accepts other (.object others) :=
            ignores value other _ _ values reordered.toJson
          simp only [Option.toList_some, List.flatMap_singleton]
          rw [equal, message_eq reordered]
          exact .of_forall₂ Demand.corresponds_failIf

/-- A node makes the same demands on a value, whatever the order of keys. -/
theorem reordered_demands {value other : Json} (values : value.Reordered other) :
    Demand.AllReordered SchemaNode.Reordered (interpreter.demands members scope value)
      (changed.demands others scope other) :=
  (reordered_grouped (shuffled_asks same free reordered scope) values).append
    (reordered_askFormat same free reordered values)

end Node

end Interpreter

end JsonSchema
