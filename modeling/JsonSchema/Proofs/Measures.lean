import Mathlib.Data.Finset.Card

set_option autoImplicit false

/-! What bounds a recursion: totals over lists that are no less than what an item adds to them, how many
items of a finite set are left to be opened when each is opened at most once, and measures that put one
count above another. -/

namespace JsonSchema

/-- A total that is joined from what the items measure, by a sum or a maximum, is no less than any of them. -/
theorem measure_le_total {Item : Type} {join : Nat → Nat → Nat} (left : ∀ one other, one ≤ join one other)
    (right : ∀ one other, other ≤ join one other) (measure : Item → Nat) {total : List Item → Nat}
    (joins : ∀ first rest, total (first :: rest) = join (measure first) (total rest))
    {item : Item} {items : List Item} (member : item ∈ items) : measure item ≤ total items := by
  induction items with
  | nil => cases member
  | cons first rest ih =>
      rw [joins]
      rcases List.mem_cons.mp member with rfl | later
      · exact left _ _
      · exact Nat.le_trans (ih later) (right _ _)

section Left

variable {Item : Type} [DecidableEq Item] {all : Finset Item} {opened : List Item} {item : Item}

def leftOf (all : Finset Item) (opened : List Item) : Nat :=
  (all.filter fun item => item ∉ opened).card

theorem leftOf_le (all : Finset Item) (opened : List Item) : leftOf all opened ≤ all.card :=
  Finset.card_filter_le all _

theorem leftOf_cons_lt (member : item ∈ all) (notOpen : item ∉ opened) :
    leftOf all (item :: opened) < leftOf all opened := by
  apply Finset.card_lt_card
  rw [Finset.ssubset_iff_of_subset]
  · refine ⟨item, Finset.mem_filter.mpr ⟨member, notOpen⟩, ?_⟩
    simp
  · intro other inFilter
    obtain ⟨isItem, closed⟩ := Finset.mem_filter.mp inFilter
    exact Finset.mem_filter.mpr ⟨isItem, fun isOpen => closed (List.mem_cons_of_mem item isOpen)⟩

theorem leftOf_le_of_subset {more : List Item} (subset : opened ⊆ more) :
    leftOf all more ≤ leftOf all opened := by
  apply Finset.card_le_card
  intro other inFilter
  obtain ⟨isItem, closed⟩ := Finset.mem_filter.mp inFilter
  exact Finset.mem_filter.mpr ⟨isItem, fun isOpen => closed (subset isOpen)⟩

end Left

theorem digits_lt {high low base greater other : Nat} (higher : high < greater)
    (inBase : low < base) : high * base + low < greater * base + other := by
  have next : (high + 1) * base ≤ greater * base := Nat.mul_le_mul_right base higher
  rw [Nat.succ_mul] at next
  omega

end JsonSchema
