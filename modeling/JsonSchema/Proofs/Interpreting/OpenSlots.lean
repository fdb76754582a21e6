import JsonSchema.Proofs.Compiling.Traversal

set_option autoImplicit false

/-! Two tables of slots side by side. The references that have slots in both are numbered differently; at
the same place of a value the slots of the same references are open. -/

namespace JsonSchema

def Slot.key (slot : Slot) : Scope × String := (slot.scope, slot.reference)

/-- The slots that are open in two tables are those of the same references. -/
def OpenAlike (slots others : Array Slot) (here there : List Nat) : Prop :=
  ∀ (index otherIndex : Nat) (slot other : Slot), slots[index]? = some slot →
    others[otherIndex]? = some other → slot.key = other.key → (index ∈ here ↔ otherIndex ∈ there)

theorem OpenAlike.nil (slots others : Array Slot) : OpenAlike slots others [] [] := by
  intro index otherIndex slot other _ _ _
  simp

theorem Slot.index_eq_of_key {slots : Array Slot} (distinct : (Compiler.keys slots).Nodup)
    {index other : Nat} {slot otherSlot : Slot} (atIndex : slots[index]? = some slot)
    (atOther : slots[other]? = some otherSlot) (same : slot.key = otherSlot.key) : index = other := by
  have keyAt {place : Nat} {slot : Slot} (atPlace : slots[place]? = some slot) :
      (Compiler.keys slots)[place]? = some slot.key := by
    rw [Compiler.keys, List.getElem?_map, Array.getElem?_toList, atPlace]
    rfl
  have inRange : index < (Compiler.keys slots).length :=
    (List.getElem?_eq_some_iff.mp (keyAt atIndex)).choose
  apply (List.getElem?_inj inRange distinct).mp
  rw [keyAt atIndex, keyAt atOther, same]

theorem OpenAlike.enter {slots others : Array Slot} {here there : List Nat} {index otherIndex : Nat}
    {slot other : Slot} (openAlike : OpenAlike slots others here there)
    (distinct : (Compiler.keys slots).Nodup) (otherDistinct : (Compiler.keys others).Nodup)
    (atIndex : slots[index]? = some slot) (atOther : others[otherIndex]? = some other)
    (same : slot.key = other.key) :
    OpenAlike slots others (index :: here) (otherIndex :: there) := by
  intro place otherPlace slotThere otherThere atPlace atOtherPlace sameThere
  have entered : place = index ↔ otherPlace = otherIndex := by
    constructor
    · rintro rfl
      obtain rfl := Option.some.inj (atIndex.symm.trans atPlace)
      exact Slot.index_eq_of_key otherDistinct atOtherPlace atOther (sameThere.symm.trans same)
    · rintro rfl
      obtain rfl := Option.some.inj (atOther.symm.trans atOtherPlace)
      exact Slot.index_eq_of_key distinct atPlace atIndex (sameThere.trans same.symm)
  rw [List.mem_cons, List.mem_cons, entered,
    openAlike place otherPlace slotThere otherThere atPlace atOtherPlace sameThere]

/-- Slots of the same reference find what corresponds: nothing where they are open, and elsewhere what their
bodies find. -/
theorem OpenAlike.findings_slot {Match : Findings → Findings → Prop} {slots others : Array Slot}
    {table otherTable : Array Rule} {here there : List Nat} {index otherIndex : Nat}
    {slot other : Slot} {body otherBody : Rule} {budget otherBudget : Nat} {tokens : List String}
    {value otherValue : Json} (openAlike : OpenAlike slots others here there)
    (nothing : Match (some []) (some [])) (atIndex : slots[index]? = some slot)
    (atOther : others[otherIndex]? = some other) (same : slot.key = other.key)
    (atBody : table[index]? = some body) (atOtherBody : otherTable[otherIndex]? = some otherBody)
    (entered : Match (Findings.ofRule table budget tokens (index :: here) body value)
      (Findings.ofRule otherTable otherBudget tokens (otherIndex :: there) otherBody otherValue)) :
    Match (Findings.ofRule table (budget + 1) tokens here (.slot index) value)
      (Findings.ofRule otherTable (otherBudget + 1) tokens there (.slot otherIndex)
        otherValue) := by
  have openBoth := openAlike index otherIndex slot other atIndex atOther same
  rw [Findings.ofRule, Findings.ofRule]
  by_cases isOpen : index ∈ here
  · rw [if_pos isOpen, if_pos (openBoth.mp isOpen)]
    exact nothing
  · rw [if_neg isOpen, if_neg (mt openBoth.mpr isOpen), atBody, atOtherBody]
    exact entered

end JsonSchema
