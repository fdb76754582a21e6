import Mathlib.Data.List.Nodup
import JsonSchema.Proofs.Interpreting.Interpreter

set_option autoImplicit false

/-! The keywords of a node in the order in which they are compiled. The three about members count as one,
at the place of the first of them; every other keyword that is written is compiled in its own place. -/

namespace JsonSchema.Compiler

/-! ### Keywords in a row -/

private theorem leadingKeywords_true (written : List Keyword) :
    leadingKeywords true written = written.filter fun keyword => !keyword.isAboutMembers := by
  induction written with
  | nil => rfl
  | cons keyword rest ih =>
      rw [leadingKeywords, List.filter_cons, ih]
      cases keyword.isAboutMembers <;> rfl

theorem leadingKeywords_perm (written : List Keyword) :
    (leadingKeywords false written).Perm
      ((written.filter Keyword.isAboutMembers).take 1 ++
        written.filter fun keyword => !keyword.isAboutMembers) := by
  induction written with
  | nil => exact .refl _
  | cons keyword rest ih =>
      rw [leadingKeywords, List.filter_cons, List.filter_cons]
      cases about : keyword.isAboutMembers with
      | true =>
          rw [if_pos rfl, if_pos rfl, if_neg Bool.false_ne_true, leadingKeywords_true]
          exact .refl _
      | false =>
          rw [if_neg Bool.false_ne_true, if_neg Bool.false_ne_true]
          exact (ih.cons keyword).trans List.perm_middle.symm

private theorem leadingKeywords_sublist (membersDone : Bool) (written : List Keyword) :
    (leadingKeywords membersDone written).Sublist written := by
  induction written generalizing membersDone with
  | nil => exact .slnil
  | cons keyword rest ih =>
      rw [leadingKeywords]
      split
      next =>
        split
        next => exact (ih true).cons keyword
        next => exact (ih true).cons_cons keyword
      next => exact (ih membersDone).cons_cons keyword

private theorem exists_leading_of_mem {written : List Keyword} {keyword : Keyword}
    (isWritten : keyword ∈ written) :
    keyword ∈ leadingKeywords false written ∨ keyword.isAboutMembers = true ∧
      ∃ leading ∈ leadingKeywords false written, leading.isAboutMembers = true := by
  simp only [(leadingKeywords_perm written).mem_iff]
  cases about : keyword.isAboutMembers with
  | false =>
      refine .inl (List.mem_append_right _ (List.mem_filter.mpr ⟨isWritten, ?_⟩))
      rw [about]
      rfl
  | true =>
      have inFilter : keyword ∈ written.filter Keyword.isAboutMembers :=
        List.mem_filter.mpr ⟨isWritten, about⟩
      cases aboutMembers : written.filter Keyword.isAboutMembers with
      | nil =>
          rw [aboutMembers] at inFilter
          cases inFilter
      | cons leading rest =>
          have isLeading : leading ∈ written.filter Keyword.isAboutMembers := by
            rw [aboutMembers]
            exact List.mem_cons_self
          exact .inr ⟨rfl, leading, List.mem_append_left _ List.mem_cons_self,
            (List.mem_filter.mp isLeading).2⟩

private theorem eraseDupsBy_eq_self {Item : Type} {same : Item → Item → Bool} {items : List Item}
    (different : ∀ first second, second ∈ items → same first second = false) :
    items.eraseDupsBy same = items := by
  induction items with
  | nil => rfl
  | cons first rest ih =>
      rw [List.eraseDupsBy_cons]
      have kept : (rest.filter fun later => same later first = false) = rest := by
        apply List.filter_eq_self.mpr
        intro later _
        rw [different later first List.mem_cons_self]
        rfl
      rw [kept, ih fun earlier later member =>
        different earlier later (List.mem_cons_of_mem first member)]

private theorem leadingKeywords_false (written : List Keyword) :
    leadingKeywords false written = written.eraseDupsBy fun later first =>
      later.isAboutMembers && first.isAboutMembers := by
  induction written with
  | nil => rfl
  | cons keyword rest ih =>
      rw [leadingKeywords, List.eraseDupsBy_cons]
      cases about : keyword.isAboutMembers with
      | true =>
          rw [if_pos rfl, if_neg Bool.false_ne_true, leadingKeywords_true]
          have others : (rest.filter fun later => (later.isAboutMembers && true) = false) =
              rest.filter fun later => !later.isAboutMembers := by
            apply List.filter_congr
            intro later _
            cases later.isAboutMembers <;> rfl
          rw [others, eraseDupsBy_eq_self]
          intro first second member
          have plain := (List.mem_filter.mp member).2
          rw [Bool.not_eq_true'] at plain
          rw [plain, Bool.and_false]
      | false =>
          rw [if_neg Bool.false_ne_true, ih]
          simp

/-! ### The keywords of a node -/

section Members

variable {members others : List (String × Json)} {keyword : Keyword}

/-- The keywords as they are written, those about members each for itself. -/
def written (members : List (String × Json)) : List Keyword :=
  members.filterMap fun member => Keyword.ofName? member.1

theorem hasKey_of_written (isWritten : keyword ∈ written members) :
    Entries.hasKey members keyword.name = true := by
  obtain ⟨⟨key, value⟩, member, named⟩ := List.mem_filterMap.mp isWritten
  rw [Entries.hasKey_iff_mem_names, ← Keyword.ofName?_eq_some_iff.mp named]
  exact List.mem_map_of_mem member

theorem written_perm (names : (Entries.names members).Perm (Entries.names others)) :
    (written members).Perm (written others) := by
  have moved := names.filterMap Keyword.ofName?
  rw [Entries.names, Entries.names, List.filterMap_map, List.filterMap_map] at moved
  exact moved

theorem keywordsOf_eq (members : List (String × Json)) :
    keywordsOf members = Interpreter.keywords members := leadingKeywords_false _

theorem hasKey_of_mem_keywordsOf (isKeyword : keyword ∈ keywordsOf members) :
    Entries.hasKey members keyword.name = true :=
  hasKey_of_written ((leadingKeywords_sublist _ _).subset isKeyword)

theorem nodup_keywordsOf (distinct : (Entries.names members).Nodup) : (keywordsOf members).Nodup := by
  refine (leadingKeywords_sublist _ _).nodup ?_
  have named : ((Entries.names members).filterMap Keyword.ofName?).Nodup :=
    distinct.filterMap fun left right keyword isLeft isRight =>
      (Keyword.ofName?_eq_some_iff.mp isLeft).trans (Keyword.ofName?_eq_some_iff.mp isRight).symm
  rwa [Entries.names, List.filterMap_map] at named

theorem length_about_le (members : List (String × Json)) :
    ((keywordsOf members).filter Keyword.isAboutMembers).length ≤ 1 := by
  unfold keywordsOf
  rw [((leadingKeywords_perm _).filter _).length_eq, List.filter_append, List.filter_filter]
  simp only [Bool.and_not_self, List.filter_false, List.append_nil]
  exact Nat.le_trans (List.length_filter_le _ _) (List.length_take_le 1 _)

/-- A keyword that is written is compiled, or the first of those about members is in its place. -/
theorem exists_leading {argument : Json} (found : members.lookup keyword.name = some argument) :
    keyword ∈ keywordsOf members ∨
      keyword.isAboutMembers = true ∧ ∃ leading ∈ keywordsOf members, leading.isAboutMembers = true :=
  exists_leading_of_mem
    (List.mem_filterMap.mpr ⟨_, Entries.mem_of_lookup found, Keyword.ofName?_name keyword⟩)

theorem mem_keywordsOf {argument : Json} (found : members.lookup keyword.name = some argument)
    (alone : keyword.isAboutMembers = false) : keyword ∈ keywordsOf members := by
  rcases exists_leading found with isKeyword | ⟨about, _⟩
  · exact isKeyword
  · exact absurd (about.symm.trans alone) Bool.false_ne_true.symm

end Members

end JsonSchema.Compiler
