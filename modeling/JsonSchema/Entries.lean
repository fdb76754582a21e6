set_option autoImplicit false

/-! Tables from names to values, as lists of entries in the order in which names were first given. A
table is meant to hold each name once, and giving a name a value keeps it so. The main statement is
`lookup_insert`: a name has the value that it was last given. -/

namespace JsonSchema.Entries

variable {Value : Type}

def names (entries : List (String × Value)) : List String := entries.map (·.1)

@[simp] theorem names_nil : names ([] : List (String × Value)) = [] := rfl

@[simp] theorem names_cons (entry : String × Value) (rest : List (String × Value)) :
    names (entry :: rest) = entry.1 :: names rest := rfl

def hasKey (entries : List (String × Value)) (name : String) : Bool := (entries.lookup name).isSome

/-- Gives a name its value: in place when the table has the name, at the end otherwise. -/
def insert (entries : List (String × Value)) (name : String) (value : Value) :
    List (String × Value) :=
  if (entries.lookup name).isSome then
    entries.map fun entry => if entry.1 = name then (entry.1, value) else entry
  else entries ++ [(name, value)]

theorem hasKey_iff_mem_names (entries : List (String × Value)) (name : String) :
    hasKey entries name = true ↔ name ∈ names entries := by
  induction entries with
  | nil => simp [hasKey, names]
  | cons entry rest ih =>
      obtain ⟨first, value⟩ := entry
      by_cases equal : name = first
      · simp [hasKey, names, equal]
      · simp only [hasKey, names] at ih
        simp [hasKey, names, List.lookup_cons, equal, beq_false_of_ne equal, ih]

@[simp] theorem names_insert (entries : List (String × Value)) (name : String) (value : Value) :
    names (insert entries name value) =
      if hasKey entries name then names entries else names entries ++ [name] := by
  by_cases present : hasKey entries name
  · rw [if_pos present]
    unfold hasKey at present
    simp only [insert, present, if_true, names, List.map_map]
    apply List.map_congr_left
    intro entry _
    simp only [Function.comp_apply]
    split <;> rfl
  · rw [if_neg present]
    unfold hasKey at present
    simp [insert, present, names]

theorem nodup_names_insert {entries : List (String × Value)} (distinct : (names entries).Nodup)
    (name : String) (value : Value) : (names (insert entries name value)).Nodup := by
  rw [names_insert]
  split
  next => exact distinct
  next absent =>
    rw [hasKey_iff_mem_names] at absent
    rw [List.nodup_append]
    refine ⟨distinct, by simp, ?_⟩
    intro present member other last equal
    rw [List.mem_singleton] at last
    exact absent (last ▸ equal ▸ member)

private theorem lookup_replaced (entries : List (String × Value)) (name other : String)
    (value : Value) :
    (entries.map fun entry => if entry.1 = name then (entry.1, value) else entry).lookup other =
      if other = name then (entries.lookup name).map fun _ => value else entries.lookup other := by
  induction entries with
  | nil => simp
  | cons entry rest ih =>
      obtain ⟨first, old⟩ := entry
      by_cases isName : first = name <;> by_cases isFirst : other = first
      · simp [isName, isFirst]
      · have different : other ≠ name := isName ▸ isFirst
        rw [if_neg different] at ih
        simp [List.lookup_cons, isName, different, beq_false_of_ne different, ih]
      · subst isFirst
        simp [isName]
      · by_cases equal : other = name
        · subst equal
          rw [if_pos rfl] at ih
          simp [List.lookup_cons, isName, beq_false_of_ne isFirst, ih]
        · rw [if_neg equal] at ih
          simp [List.lookup_cons, isName, equal, beq_false_of_ne isFirst, ih]

private theorem lookup_append_absent (entries : List (String × Value)) (name other : String)
    (value : Value) (absent : entries.lookup name = none) :
    (entries ++ [(name, value)]).lookup other =
      if other = name then some value else entries.lookup other := by
  induction entries with
  | nil => by_cases equal : other = name <;> simp [List.lookup_cons, equal, beq_false_of_ne]
  | cons entry rest ih =>
      obtain ⟨first, old⟩ := entry
      have differs : name ≠ first := by
        intro equal
        simp [equal] at absent
      simp only [List.lookup_cons, beq_false_of_ne differs] at absent
      by_cases isFirst : other = first
      · subst isFirst
        simp [differs.symm]
      · simp [List.lookup_cons, beq_false_of_ne isFirst, ih absent]

@[simp] theorem lookup_insert (entries : List (String × Value)) (name other : String) (value : Value) :
    (insert entries name value).lookup other =
      if other = name then some value else entries.lookup other := by
  unfold insert
  cases found : entries.lookup name with
  | some old =>
      rw [Option.isSome_some, if_pos rfl, lookup_replaced, found]
      rfl
  | none =>
      rw [Option.isSome_none, if_neg Bool.false_ne_true,
        lookup_append_absent entries name other value found]

theorem mem_insert {entries : List (String × Value)} {name : String} {value : Value}
    {entry : String × Value} (member : entry ∈ insert entries name value) :
    entry = (name, value) ∨ entry.1 ≠ name ∧ entry ∈ entries := by
  unfold insert at member
  split at member
  next =>
    obtain ⟨old, isOld, rfl⟩ := List.mem_map.mp member
    split
    next same => exact .inl (by rw [← same])
    next other => exact .inr ⟨other, isOld⟩
  next absent =>
    rcases List.mem_append.mp member with isOld | isNew
    · refine .inr ⟨?_, isOld⟩
      rintro rfl
      have present := (hasKey_iff_mem_names entries entry.1).mpr (List.mem_map.mpr ⟨entry, isOld, rfl⟩)
      exact absent present
    · exact .inl (List.mem_singleton.mp isNew)

/-- Giving a name the value that it has wherever it stands changes nothing. -/
theorem insert_eq_self {entries : List (String × Value)} {name : String} {value : Value}
    (found : entries.lookup name = some value)
    (everywhere : ∀ entry ∈ entries, entry.1 = name → entry.2 = value) :
    insert entries name value = entries := by
  unfold insert
  rw [found, Option.isSome_some, if_pos rfl]
  conv => rhs; rw [← List.map_id entries]
  apply List.map_congr_left
  intro entry member
  split
  next same => rw [← everywhere entry member same]; rfl
  next => rfl

theorem lookup_filter {entries : List (String × Value)} {name : String} (kept : String → Bool)
    (isKept : kept name = true) :
    (entries.filter fun entry => kept entry.1).lookup name = entries.lookup name := by
  induction entries with
  | nil => rfl
  | cons entry rest ih =>
      obtain ⟨first, value⟩ := entry
      rw [List.filter_cons]
      dsimp only
      by_cases same : name = first
      · subst same
        rw [if_pos isKept, List.lookup_cons_self, List.lookup_cons_self]
      · rw [List.lookup_cons, beq_false_of_ne same, ← ih]
        split
        next => rw [List.lookup_cons, beq_false_of_ne same]
        next => rfl

section Lookup

variable {entries : List (String × Value)} {name : String} {value : Value}

theorem lookup_eq_none_iff : entries.lookup name = none ↔ name ∉ names entries := by
  rw [← hasKey_iff_mem_names, hasKey, Option.not_isSome_iff_eq_none]

theorem lookup_of_mem (distinct : (names entries).Nodup) (member : (name, value) ∈ entries) :
    entries.lookup name = some value := by
  obtain ⟨before, after, rfl⟩ := List.append_of_mem member
  rw [List.lookup_eq_some_iff]
  refine ⟨before, after, rfl, ?_⟩
  intro entry earlier
  simp only [names, List.map_append, List.map_cons] at distinct
  have different := (List.nodup_append.mp distinct).2.2 entry.1 (List.mem_map_of_mem earlier) name
    List.mem_cons_self
  exact bne_iff_ne.mpr different.symm

@[simp] theorem lookup_map {Other : Type} (change : Value → Other) :
    (entries.map fun entry => (entry.1, change entry.2)).lookup name =
      (entries.lookup name).map change := by
  induction entries with
  | nil => rfl
  | cons entry rest ih =>
      obtain ⟨first, value⟩ := entry
      by_cases same : name = first
      · simp [same]
      · simp [List.lookup_cons, beq_false_of_ne same, ih]

theorem lookup_filterMap {Other : Type} (distinct : (names entries).Nodup)
    (change : Value → Option Other) :
    (entries.filterMap fun entry => (change entry.2).map fun value => (entry.1, value)).lookup name =
      (entries.lookup name).bind change := by
  induction entries with
  | nil => rfl
  | cons entry rest ih =>
      obtain ⟨first, value⟩ := entry
      obtain ⟨notInRest, distinctRest⟩ := List.nodup_cons.mp distinct
      rw [List.filterMap_cons]
      by_cases same : name = first
      · subst same
        cases changed : change value with
        | none =>
            have absent : rest.lookup name = none := lookup_eq_none_iff.mpr notInRest
            simp [changed, ih distinctRest, absent]
        | some other => simp [changed]
      · cases changed : change value with
        | none => simp [List.lookup_cons, beq_false_of_ne same, ih distinctRest]
        | some other => simp [List.lookup_cons, beq_false_of_ne same, ih distinctRest]

end Lookup

end JsonSchema.Entries
