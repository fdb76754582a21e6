import Mathlib.Data.List.TakeWhile
import JsonSchema.Proofs.Pointers.Outcomes
import JsonSchema.Proofs.Reordering.Documents

set_option autoImplicit false

/-! What a reference finds. Its own document comes first, as a pointer tells or by the name of a member,
then the external documents, then the objects that have the reference as their identifier, in their
order. A pointer that finds nothing falls back to an external document as well, by what is left of its
text without the signs that lead it. -/

namespace JsonSchema

namespace Json

private theorem findById?_eq_some_iff {value target : Json} {id : String} :
    value.findById? id = some target ↔
      ∃ before after, value.objects = before ++ target :: after ∧ target.identifier? = some id ∧
        ∀ object ∈ before, object.identifier? ≠ some id := by
  simp only [findById?_eq, List.find?_eq_some_iff_append, decide_eq_true_eq, Bool.not_eq_true',
    decide_eq_false_iff_not]
  constructor
  · rintro ⟨isIdentified, before, after, inOrder, first⟩
    exact ⟨before, after, inOrder, isIdentified, first⟩
  · rintro ⟨before, after, inOrder, isIdentified, first⟩
    exact ⟨isIdentified, before, after, inOrder, first⟩

private theorem findById?_eq_none_iff {value : Json} {id : String} :
    value.findById? id = none ↔ ∀ object ∈ value.objects, object.identifier? ≠ some id := by
  simp only [findById?_eq, List.find?_eq_none, decide_eq_true_eq]

end Json

namespace Documents

/-- What a reference finds, source by source. A source counts where those before it have nothing. -/
inductive Finds (documents : Documents) (scope : Scope) (reference : String) :
    Option (Json × Scope) → Prop where
  | pointed {target : Json} (isPointer : reference.toList.head? = some '#')
      (resolved : Pointer.resolve (documents.root scope) reference = .ok target) :
      Finds documents scope reference (some (target, scope))
  | fallenBack {schema : Json} (isPointer : reference.toList.head? = some '#')
      (absent : Pointer.resolve (documents.root scope) reference = .error (.absent reference))
      (registered : documents.externals.lookup (externalName reference) = some schema) :
      Finds documents scope reference (some (schema, .external (externalName reference)))
  | unregistered (isPointer : reference.toList.head? = some '#')
      (absent : Pointer.resolve (documents.root scope) reference = .error (.absent reference))
      (notRegistered : documents.externals.lookup (externalName reference) = none) :
      Finds documents scope reference none
  | own {target : Json} (isName : reference.toList.head? ≠ some '#')
      (isOwn : (documents.root scope).field? reference = some target) :
      Finds documents scope reference (some (target, scope))
  | external {schema : Json} (isName : reference.toList.head? ≠ some '#')
      (notOwn : (documents.root scope).field? reference = none)
      (registered : documents.externals.lookup reference = some schema) :
      Finds documents scope reference (some (schema, .external reference))
  | identified {before after : List Json} {target : Json}
      (isName : reference.toList.head? ≠ some '#')
      (notOwn : (documents.root scope).field? reference = none)
      (notRegistered : documents.externals.lookup reference = none)
      (inOrder : (documents.root scope).objects = before ++ target :: after)
      (isIdentified : target.identifier? = some reference)
      (first : ∀ object ∈ before, object.identifier? ≠ some reference) :
      Finds documents scope reference (some (target, scope))
  | nowhere (isName : reference.toList.head? ≠ some '#')
      (notOwn : (documents.root scope).field? reference = none)
      (notRegistered : documents.externals.lookup reference = none)
      (unidentified : ∀ object ∈ (documents.root scope).objects,
        object.identifier? ≠ some reference) :
      Finds documents scope reference none

variable {documents : Documents} {scope : Scope} {reference : String} {expression : List Char}

/-! ### Pointers -/

private theorem lookup_pointer (isPointer : reference.toList.head? = some '#') :
    documents.lookup scope reference =
      match Pointer.resolve (documents.root scope) reference with
      | .ok target => .ok (some (target, scope))
      | .error (.malformed _) => .error (.malformed reference)
      | .error (.absent _) => .ok (documents.external? (externalName reference)) := by
  obtain ⟨rest, text⟩ := List.head?_eq_some_iff.mp isPointer
  cases resolved : Pointer.resolve (documents.root scope) reference with
  | ok target => simp only [lookup, text, resolved]
  | error failure => cases failure <;> simp only [lookup, text, resolved]

private theorem lookup_name (something : reference ≠ "") (isName : reference.toList.head? ≠ some '#') :
    documents.lookup scope reference =
      match (documents.root scope).field? reference with
      | some target => .ok (some (target, scope))
      | none =>
          match documents.external? reference with
          | some target => .ok (some target)
          | none =>
              .ok (((documents.root scope).findById? reference).map fun target => (target, scope)) := by
  have nonempty : reference.toList ≠ [] := mt String.toList_eq_nil_iff.mp something
  obtain ⟨char, chars, text⟩ := List.exists_cons_of_ne_nil nonempty
  rw [text, List.head?_cons, ne_eq, Option.some.injEq] at isName
  simp only [lookup, text]
  split
  next impossible => cases impossible
  next same => exact absurd (List.cons.inj same).1 isName
  next => rfl

private theorem finds_of_lookup {found : Option (Json × Scope)} (something : reference ≠ "")
    (looked : documents.lookup scope reference = .ok found) : documents.Finds scope reference found := by
  by_cases isPointer : reference.toList.head? = some '#'
  · rw [lookup_pointer isPointer] at looked
    split at looked
    next target resolved =>
      obtain rfl := Except.ok.inj looked
      exact .pointed isPointer resolved
    next => cases looked
    next pointer absent =>
      obtain rfl : pointer = reference := by
        rcases Pointer.resolve_error absent with same | impossible
        · exact PointerError.absent.inj same
        · cases impossible
      obtain rfl := Except.ok.inj looked
      rw [external?]
      cases registered : documents.externals.lookup (externalName pointer) with
      | some schema => exact .fallenBack isPointer absent registered
      | none => exact .unregistered isPointer absent registered
  · rw [lookup_name something isPointer, external?] at looked
    cases isOwn : (documents.root scope).field? reference with
    | some target =>
        rw [isOwn] at looked
        obtain rfl := Except.ok.inj looked
        exact .own isPointer isOwn
    | none =>
        rw [isOwn] at looked
        cases registered : documents.externals.lookup reference with
        | some schema =>
            rw [registered] at looked
            obtain rfl := Except.ok.inj looked
            exact .external isPointer isOwn registered
        | none =>
            rw [registered] at looked
            obtain rfl := Except.ok.inj looked
            cases search : (documents.root scope).findById? reference with
            | some target =>
                obtain ⟨before, after, inOrder, isIdentified, first⟩ :=
                  Json.findById?_eq_some_iff.mp search
                exact .identified isPointer isOwn registered inOrder isIdentified first
            | none => exact .nowhere isPointer isOwn registered (Json.findById?_eq_none_iff.mp search)

private theorem lookup_of_finds {found : Option (Json × Scope)} (something : reference ≠ "")
    (finds : documents.Finds scope reference found) : documents.lookup scope reference = .ok found := by
  cases finds with
  | pointed isPointer resolved => rw [lookup_pointer isPointer, resolved]
  | fallenBack isPointer absent registered =>
      rw [lookup_pointer isPointer, absent, external?, registered]
      rfl
  | unregistered isPointer absent notRegistered =>
      rw [lookup_pointer isPointer, absent, external?, notRegistered]
      rfl
  | own isName isOwn => rw [lookup_name something isName, isOwn]
  | external isName notOwn registered =>
      rw [lookup_name something isName, notOwn, external?, registered]
      rfl
  | identified isName notOwn notRegistered inOrder isIdentified first =>
      have search := Json.findById?_eq_some_iff.mpr ⟨_, _, inOrder, isIdentified, first⟩
      rw [lookup_name something isName, notOwn, external?, notRegistered, search]
      rfl
  | nowhere isName notOwn notRegistered unidentified =>
      rw [lookup_name something isName, notOwn, external?, notRegistered,
        Json.findById?_eq_none_iff.mpr unidentified]
      rfl

theorem lookup_eq_error_iff {error : ResolveError} :
    documents.lookup scope reference = .error error ↔
      error = .malformed reference ∧ (reference = "" ∨
        Pointer.resolve (documents.root scope) reference = .error (.malformed reference)) := by
  by_cases nothing : reference = ""
  · subst nothing
    have refused : documents.lookup scope "" = .error (.malformed "") := rfl
    rw [refused, Except.error.injEq, eq_comm, and_iff_left (Or.inl rfl)]
  · rw [or_iff_right nothing]
    by_cases isPointer : reference.toList.head? = some '#'
    · rw [lookup_pointer isPointer]
      cases resolved : Pointer.resolve (documents.root scope) reference with
      | ok target => exact iff_of_false nofun (by rintro ⟨_, impossible⟩; cases impossible)
      | error failure =>
          rcases Pointer.resolve_error resolved with rfl | rfl
          · exact iff_of_false nofun (by rintro ⟨_, impossible⟩; cases impossible)
          · simp [eq_comm]
    · refine iff_of_false ?_ fun both => isPointer (Pointer.begins_of_malformed both.2)
      rw [lookup_name nothing isPointer]
      split
      next => nofun
      next => split <;> nofun

/-! ### The name behind a pointer -/

inductive FallbackName (name : String) : List (List Char) → Prop where
  | single (signs : Nat) : FallbackName name [List.replicate signs '#' ++ name.toList]
  | slashed {first second : List Char} {rest : List (List Char)} (slash : '/' ∈ name.toList) :
      FallbackName name (first :: second :: rest)
  | behindSigns {first second : List Char} {rest : List (List Char)}
      (signs : ∀ char ∈ first, char = '#') : FallbackName name (first :: second :: rest)

/-- What is left of a pointer's text once the signs that lead it are dropped. -/
theorem externalName_cases (expression : List Char) :
    (externalName (String.ofList ('#' :: expression))).toList =
        (Pointer.dropSlash expression).dropWhile (· == '/') ∨
      (externalName (String.ofList ('#' :: expression))).toList =
        ((Pointer.dropSlash expression).dropWhile (· == '#')).dropWhile (· == '/') := by
  rw [externalName, String.toList_ofList, String.toList_ofList]
  unfold Pointer.dropSlash
  split
  next => exact Or.inl rfl
  next => exact Or.inr rfl

private theorem dropWhile_slash {front : List Char} (something : front ≠ []) (plain : '/' ∉ front)
    (rest : List Char) : (front ++ rest).dropWhile (· == '/') = front ++ rest := by
  obtain ⟨char, chars, rfl⟩ := List.exists_cons_of_ne_nil something
  rw [List.mem_cons, not_or] at plain
  exact List.dropWhile_cons_of_neg (mt beq_iff_eq.mp (Ne.symm plain.1))

private theorem dropWhile_slash_of_notMem {text : List Char} (plain : '/' ∉ text) :
    text.dropWhile (· == '/') = text := by
  cases text with
  | nil => rfl
  | cons char chars =>
      have kept := dropWhile_slash (List.cons_ne_nil char chars) plain []
      rwa [List.append_nil] at kept

private theorem exists_signs (text : List Char) :
    ∃ signs, text = List.replicate signs '#' ++ text.dropWhile (· == '#') := by
  have leading : text.takeWhile (· == '#') =
      List.replicate (text.takeWhile (· == '#')).length '#' := by
    refine List.eq_replicate_iff.mpr ⟨rfl, ?_⟩
    intro char member
    have isSign := List.mem_takeWhile_imp member
    exact beq_iff_eq.mp isSign
  refine ⟨(text.takeWhile (· == '#')).length, ?_⟩
  rw [← leading, List.takeWhile_append_dropWhile]

private theorem fallbackName_of_notMem {name : String} {text : List Char} (plain : '/' ∉ text)
    (left : name.toList = text.dropWhile (· == '/') ∨
      name.toList = (text.dropWhile (· == '#')).dropWhile (· == '/')) :
    FallbackName name [text] := by
  rcases left with shown | shown
  · rw [dropWhile_slash_of_notMem plain] at shown
    rw [← shown]
    exact .single 0
  · obtain ⟨signs, split⟩ := exists_signs text
    have plainRest : '/' ∉ text.dropWhile (· == '#') :=
      fun member => plain (List.dropWhile_subset _ member)
    rw [dropWhile_slash_of_notMem plainRest] at shown
    rw [split, ← shown]
    exact .single signs

private theorem fallbackName_of_slash {name : String} {first rest second : List Char}
    {parts : List (List Char)} (something : first ≠ []) (plain : '/' ∉ first)
    (left : name.toList = (first ++ '/' :: rest).dropWhile (· == '/') ∨
      name.toList = ((first ++ '/' :: rest).dropWhile (· == '#')).dropWhile (· == '/')) :
    FallbackName name (first :: second :: parts) := by
  rcases left with shown | shown
  · rw [dropWhile_slash something plain] at shown
    exact .slashed (shown ▸ List.mem_append_right first List.mem_cons_self)
  · by_cases signs : first.dropWhile (· == '#') = []
    · refine .behindSigns fun char member => ?_
      exact beq_iff_eq.mp (List.dropWhile_eq_nil_iff.mp signs char member)
    · have plainRest : '/' ∉ first.dropWhile (· == '#') :=
        fun member => plain (List.dropWhile_subset _ member)
      rw [List.dropWhile_append, if_neg (mt List.isEmpty_iff.mp signs),
        dropWhile_slash signs plainRest] at shown
      exact .slashed (shown ▸ List.mem_append_right _ List.mem_cons_self)

/-- The name that a pointer falls back to, by the parts of the pointer. -/
theorem fallbackName_externalName {expression : List Char}
    (filled : ¬ Pointer.Unreadable ((Pointer.dropSlash expression).splitOn '/')) :
    FallbackName (externalName (String.ofList ('#' :: expression)))
      ((Pointer.dropSlash expression).splitOn '/') := by
  have left := externalName_cases expression
  generalize Pointer.dropSlash expression = text at *
  by_cases slash : '/' ∈ text
  · obtain ⟨first, rest, rfl, plain⟩ := List.eq_append_cons_of_mem slash
    obtain ⟨second, parts, split⟩ := List.exists_cons_of_ne_nil (List.splitOn_ne_nil '/' rest)
    rw [List.splitOn_append_cons_self_of_not_mem plain, split] at filled ⊢
    refine fallbackName_of_slash ?_ plain left
    rintro rfl
    exact filled (Or.inl ⟨by simp, List.mem_cons_self⟩)
  · rw [List.splitOn_eq_singleton slash]
    exact fallbackName_of_notMem slash left

/-- A pointer finds what stands in its own document, or falls back to an external one. -/
theorem lookup_pointer_cases {target : Json} {targetScope : Scope}
    (text : reference = String.ofList ('#' :: expression))
    (looked : documents.lookup scope reference = .ok (some (target, targetScope))) :
    (targetScope = scope ∧ Pointer.resolve (documents.root scope) reference = .ok target) ∨
      ∃ name, targetScope = .external name ∧ documents.externals.lookup name = some target ∧
        Pointer.resolve (documents.root scope) reference = .error (.absent reference) ∧
        FallbackName name ((Pointer.dropSlash expression).splitOn '/') := by
  have isPointer : reference.toList.head? = some '#' := by
    rw [text, String.toList_ofList, List.head?_cons]
  have something : reference ≠ "" := by
    rintro rfl
    cases isPointer
  cases finds_of_lookup something looked with
  | pointed _ resolved => exact Or.inl ⟨rfl, resolved⟩
  | fallenBack _ absent registered =>
      refine Or.inr ⟨_, rfl, registered, absent, ?_⟩
      subst text
      have behind : expression ≠ [] := by
        rintro rfl
        cases absent
      exact fallbackName_externalName ((Pointer.resolve_eq_absent_iff behind).mp absent).1
  | own isName | external isName | identified isName => exact absurd isPointer isName

/-- What one lookup does with a reference. It finds what the sources give in their order, and fails for a
malformed pointer alone. A pointer finds its value in its own document and stays there; where it is absent
it may fall back to an external document, which is named by its only part, leading number signs left out,
or, if it has several parts, by a text with a slash in it unless the first part is all number signs. -/
theorem lookup_precedence (documents : Documents) (scope : Scope) {reference : String}
    (something : reference ≠ "") :
    (∀ found, documents.lookup scope reference = .ok found ↔
      documents.Finds scope reference found) ∧
    (∀ error, documents.lookup scope reference = .error error ↔
      error = .malformed reference ∧
        Pointer.resolve (documents.root scope) reference = .error (.malformed reference)) ∧
    ∀ expression, reference = String.ofList ('#' :: expression) →
      ∀ target targetScope, documents.lookup scope reference = .ok (some (target, targetScope)) →
        (targetScope = scope ∧ Pointer.resolve (documents.root scope) reference = .ok target) ∨
        ∃ name, targetScope = .external name ∧ documents.externals.lookup name = some target ∧
          Pointer.resolve (documents.root scope) reference = .error (.absent reference) ∧
          FallbackName name ((Pointer.dropSlash expression).splitOn '/') := by
  refine ⟨?_, ?_, fun expression text target targetScope => lookup_pointer_cases text⟩
  · exact fun found => ⟨finds_of_lookup something, lookup_of_finds something⟩
  · intro error
    rw [lookup_eq_error_iff, or_iff_right something]

def slashedName : Documents :=
  ⟨.object [("a", .object [])], [("a/b", .object [("type", .string "string")])], false⟩

theorem lookup_precedence_slashedName :
    "#/a/b" ≠ "" ∧
      slashedName.Finds .main "#/a/b"
        (some (.object [("type", .string "string")], .external "a/b")) ∧
      Pointer.resolve slashedName.main "#/a/b" = .error (.absent "#/a/b") := by
  have something : "#/a/b" ≠ "" := by decide
  have looked : slashedName.lookup .main "#/a/b" =
      .ok (some (.object [("type", .string "string")], .external "a/b")) := by rfl
  obtain ⟨finds, -, pointers⟩ := lookup_precedence slashedName .main something
  rcases pointers "/a/b".toList rfl _ _ looked with ⟨impossible, _⟩ | ⟨_, _, _, absent, _⟩
  · cases impossible
  · exact ⟨something, (finds _).mp looked, absent⟩

/-- A pointer of two parts that finds nothing falls back to the external document of its whole text. -/
theorem lookup_of_several_parts :
    ((Pointer.dropSlash "/a/b".toList).splitOn '/').length = 2 ∧
      Pointer.resolve (slashedName.root .main) "#/a/b" = .error (.absent "#/a/b") ∧
      slashedName.lookup .main "#/a/b" =
        .ok (some (.object [("type", .string "string")], .external "a/b")) := by
  decide +kernel

end Documents

end JsonSchema
