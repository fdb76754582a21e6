import JsonSchema.Proofs.Locations

set_option autoImplicit false

/-! Values that grow but for some losses. A later value keeps what an earlier one holds, in its order, and
may have more behind it; of the members of objects it may have lost some, and `Losses` tells which. -/

namespace JsonSchema

theorem Entries.names_filter {Value : Type} (entries : List (String × Value))
    (kept : String → Bool) :
    names (entries.filter fun entry => kept entry.1) = (names entries).filter kept :=
  List.filter_map.symm

/-- Which members are lost: those of a name in the object at a location. -/
def Losses : Type := List Step → String → Prop

namespace Losses

def below (losses : Losses) (step : Step) : Losses := fun location name => losses (step :: location) name

def Reach (losses : Losses) (location : List Step) : Prop :=
  ∃ before name after, location = before ++ .member name :: after ∧ losses before name

/-- Losses inside a part are losses of the whole, at the locations that lead there. -/
theorem Reach.inside {losses outer : Losses} {front location : List Step}
    (reach : losses.Reach location)
    (included : ∀ location name, losses location name → outer (front ++ location) name) :
    outer.Reach (front ++ location) := by
  obtain ⟨before, name, after, rfl, lost⟩ := reach
  exact ⟨front ++ before, name, after, (List.append_assoc _ _ _).symm, included before name lost⟩

theorem Reach.of_below {losses : Losses} {step : Step} {location : List Step}
    (reach : (losses.below step).Reach location) : losses.Reach ([step] ++ location) :=
  reach.inside fun _ _ lost => lost

end Losses

/-- A later value keeps an earlier one but for losses. What has no parts stays as it is. An object keeps
its members in their order, and an array all its elements; whatever is new comes behind. -/
inductive Json.KeptIn : Losses → Json → Json → Prop where
  | plain {losses : Losses} {value : Json} (noMembers : value.members? = none)
      (noElements : value.elements? = none) : KeptIn losses value value
  | object {losses : Losses} {members final : List (String × Json)} {keep : String → Bool}
      {more : List String}
      (names : Entries.names final = (Entries.names members).filter keep ++ more)
      (lost : ∀ name ∈ Entries.names members, keep name = false → losses [] name)
      (new : ∀ name ∈ more, name ∈ Entries.names members → keep name = false)
      (parts : ∀ name value later, keep name = true → members.lookup name = some value →
        final.lookup name = some later → KeptIn (losses.below (.member name)) value later) :
      KeptIn losses (.object members) (.object final)
  | array {losses : Losses} {elements final : List Json} (length : elements.length ≤ final.length)
      (parts : ∀ (index : Nat) (value later : Json), elements[index]? = some value →
        final[index]? = some later → KeptIn (losses.below (.element index)) value later) :
      KeptIn losses (.array elements) (.array final)

namespace Json.KeptIn

private theorem grow {losses : Losses} {members final : List (String × Json)} {more : List String}
    (names : Entries.names final = Entries.names members ++ more)
    (new : ∀ name ∈ more, name ∉ Entries.names members)
    (parts : ∀ name value later, members.lookup name = some value →
      final.lookup name = some later → KeptIn (losses.below (.member name)) value later) :
    KeptIn losses (.object members) (.object final) := by
  have all : Entries.names final = (Entries.names members).filter (fun _ => true) ++ more := by
    rw [List.filter_true, names]
  refine .object all nofun ?_ ?_
  · intro name isMore member
    exact absurd member (new name isMore)
  · intro name value later _ found atLater
    exact parts name value later found atLater

theorem refl (losses : Losses) (value : Json) : KeptIn losses value value := by
  induction size : value.weight using Nat.strongRecOn generalizing losses value with
  | _ weight ih =>
      subst size
      cases value with
      | object members =>
          refine .grow (List.append_nil _).symm nofun ?_
          intro name value later found same
          obtain rfl := Option.some.inj (found.symm.trans same)
          have isPart : (Json.object members).Part name value :=
            .member rfl (Entries.mem_of_lookup found)
          exact ih value.weight isPart.weight_lt _ value rfl
      | array elements =>
          refine .array (Nat.le_refl _) ?_
          intro index value later found same
          obtain rfl := Option.some.inj (found.symm.trans same)
          have isPart : (Json.array elements).Part (toString index) value := .element rfl found
          exact ih value.weight isPart.weight_lt _ value rfl
      | _ => exact .plain rfl rfl

theorem mono {losses more : Losses} {value later : Json} (kept : KeptIn losses value later)
    (fewer : ∀ location name, losses location name → more location name) :
    KeptIn more value later := by
  induction kept generalizing more with
  | plain noMembers noElements => exact .plain noMembers noElements
  | object names lost new parts ih =>
      refine .object names ?_ new ?_
      · intro name member dropped
        exact fewer [] name (lost name member dropped)
      · intro name value later keeps found atLater
        exact ih name value later keeps found atLater fun location => fewer (.member name :: location)
  | array length parts ih =>
      refine .array length ?_
      intro index value later found atLater
      exact ih index value later found atLater fun location => fewer (.element index :: location)

theorem trans {losses : Losses} {first second third : Json} (left : KeptIn losses first second)
    (right : KeptIn losses second third) : KeptIn losses first third := by
  induction left generalizing third with
  | plain => exact right
  | @object losses members middle keep more names lost new parts ih =>
      cases right with
      | plain noMembers => cases noMembers
      | @object _ _ final keepAfter moreAfter namesAfter lostAfter newAfter partsAfter =>
          have inMiddle : ∀ name ∈ Entries.names members, keep name = true →
              name ∈ Entries.names middle := by
            intro name member keeps
            rw [names]
            exact List.mem_append_left _ (List.mem_filter.mpr ⟨member, keeps⟩)
          have namesBoth : Entries.names final =
              (Entries.names members).filter (fun name => keepAfter name && keep name) ++
                (more.filter keepAfter ++ moreAfter) := by
            rw [namesAfter, names, List.filter_append, List.filter_filter, List.append_assoc]
          refine .object namesBoth ?_ ?_ ?_
          · intro name member dropped
            cases keeps : keep name with
            | false => exact lost name member keeps
            | true =>
                rw [keeps, Bool.and_true] at dropped
                exact lostAfter name (inMiddle name member keeps) dropped
          · intro name isMore member
            rcases List.mem_append.mp isMore with earlier | isAfter
            · rw [new name (List.mem_filter.mp earlier).1 member, Bool.and_false]
            · cases keeps : keep name with
              | false => exact Bool.and_false _
              | true => rw [newAfter name isAfter (inMiddle name member keeps), Bool.false_and]
          · intro name value later keeps found atLater
            obtain ⟨keepsAfter, keepsBefore⟩ := Bool.and_eq_true_iff.mp keeps
            have member := inMiddle name (Entries.mem_names_of_lookup found) keepsBefore
            obtain ⟨between, atMiddle⟩ := Entries.exists_lookup member
            exact ih name value between keepsBefore found atMiddle
              (partsAfter name between later keepsAfter atMiddle atLater)
  | @array losses elements middle length parts ih =>
      cases right with
      | plain _ noElements => cases noElements
      | array lengthAfter partsAfter =>
          refine .array (Nat.le_trans length lengthAfter) ?_
          intro index value later found atLater
          obtain ⟨inRange, _⟩ := List.getElem?_eq_some_iff.mp found
          have atMiddle := List.getElem?_eq_getElem (Nat.lt_of_lt_of_le inRange length)
          exact ih index value _ found atMiddle (partsAfter index _ later atMiddle atLater)

theorem filter {losses : Losses} {members : List (String × Json)} {keep : String → Bool}
    (lost : ∀ name ∈ Entries.names members, keep name = false → losses [] name) :
    KeptIn losses (.object members) (.object (members.filter fun member => keep member.1)) := by
  have names : Entries.names (members.filter fun member => keep member.1) =
      (Entries.names members).filter keep ++ [] := by
    rw [Entries.names_filter, List.append_nil]
  refine .object names lost nofun ?_
  intro name value later keeps found atLater
  rw [Entries.lookup_filter keep keeps] at atLater
  obtain rfl := Option.some.inj (found.symm.trans atLater)
  exact refl _ value

/-! ### Putting parts -/

theorem put {losses : Losses} {step : Step} {value part later : Json}
    (found : value.part? step = some part) (kept : KeptIn (losses.below step) part later) :
    KeptIn losses value (value.put step later) := by
  unfold part? at found
  split at found
  next name members =>
    have present : Entries.hasKey members name = true :=
      Option.isSome_iff_exists.mpr ⟨part, found⟩
    have names : Entries.names (Entries.insert members name later) = Entries.names members ++ [] := by
      simp [present]
    refine .grow names nofun ?_
    intro other value changed atOther atChanged
    rw [Entries.lookup_insert] at atChanged
    split at atChanged
    next same =>
      subst same
      obtain rfl := Option.some.inj (found.symm.trans atOther)
      obtain rfl := Option.some.inj atChanged
      exact kept
    next =>
      obtain rfl := Option.some.inj (atOther.symm.trans atChanged)
      exact refl _ value
  next index elements =>
    obtain ⟨inRange, _⟩ := List.getElem?_eq_some_iff.mp found
    unfold Json.put
    dsimp only
    rw [if_pos inRange]
    refine .array (by rw [List.length_set]) ?_
    intro other value changed atOther atChanged
    by_cases same : index = other
    · subst same
      rw [List.getElem?_set_self inRange] at atChanged
      obtain rfl := Option.some.inj (found.symm.trans atOther)
      obtain rfl := Option.some.inj atChanged
      exact kept
    · rw [List.getElem?_set_ne same] at atChanged
      obtain rfl := Option.some.inj (atOther.symm.trans atChanged)
      exact refl _ value
  next => cases found

theorem put_new {losses : Losses} {step : Step} {value : Json} (absent : value.part? step = none)
    (part : Json) : KeptIn losses value (value.put step part) := by
  unfold Json.put
  split
  next name members =>
    have notThere : members.lookup name = none := absent
    have missing : ¬Entries.hasKey members name = true := by
      rw [Entries.hasKey, notThere]
      exact Bool.false_ne_true
    have names : Entries.names (Entries.insert members name part) =
        Entries.names members ++ [name] := by
      simp [missing]
    refine .grow names ?_ ?_
    · intro other isName member
      rw [List.mem_singleton.mp isName] at member
      exact absurd ((Entries.hasKey_iff_mem_names members name).mpr member) missing
    · intro other value later found atLater
      have different : other ≠ name := by
        rintro rfl
        rw [notThere] at found
        cases found
      simp only [Entries.lookup_insert, different, if_false] at atLater
      obtain rfl := Option.some.inj (found.symm.trans atLater)
      exact refl _ value
  next index elements =>
    have notThere : elements[index]? = none := absent
    have beyond : ¬index < elements.length := Nat.not_lt.mpr (List.getElem?_eq_none_iff.mp notThere)
    rw [if_neg beyond]
    refine .array (by rw [List.append_assoc, List.length_append]; omega) ?_
    intro other value later found atLater
    obtain ⟨inRange, _⟩ := List.getElem?_eq_some_iff.mp found
    rw [List.append_assoc, List.getElem?_append_left inRange] at atLater
    obtain rfl := Option.some.inj (found.symm.trans atLater)
    exact refl _ value
  next => exact refl _ value

/-! ### Locations in a value that is kept -/

theorem takes_eq {losses : Losses} {value final : Json} (kept : KeptIn losses value final)
    (step : Step) : final.takes step = value.takes step := by
  cases kept <;> cases step <;> rfl

theorem at? {losses : Losses} {value final : Json} (kept : KeptIn losses value final)
    {location : List Step} {part : Json} (found : value.at? location = some part) :
    (∃ later, final.at? location = some later) ∨ losses.Reach location := by
  induction location generalizing losses value final with
  | nil => exact .inl ⟨final, rfl⟩
  | cons step rest ih =>
      obtain ⟨inner, atStep, atRest⟩ := Option.bind_eq_some_iff.mp found
      have onward {later : Json} (atLater : final.part? step = some later)
          (keptInner : KeptIn (losses.below step) inner later) :
          (∃ later, final.at? (step :: rest) = some later) ∨ losses.Reach (step :: rest) := by
        rcases ih keptInner atRest with ⟨last, there⟩ | lost
        · exact .inl ⟨last, Option.bind_eq_some_iff.mpr ⟨later, atLater, there⟩⟩
        · exact .inr lost.of_below
      cases kept with
      | plain => exact onward atStep (refl _ inner)
      | @object _ members later keep more names lost new parts =>
          cases step with
          | element index => cases atStep
          | member name =>
              have member := Entries.mem_names_of_lookup atStep
              cases keeps : keep name with
              | false => exact .inr ⟨[], name, rest, rfl, lost name member keeps⟩
              | true =>
                  have memberLater : name ∈ Entries.names later := by
                    rw [names]
                    exact List.mem_append_left _ (List.mem_filter.mpr ⟨member, keeps⟩)
                  obtain ⟨last, atLater⟩ := Entries.exists_lookup memberLater
                  exact onward atLater (parts name inner last keeps atStep atLater)
      | @array _ elements later length parts =>
          cases step with
          | member name => cases atStep
          | element index =>
              obtain ⟨inRange, _⟩ := List.getElem?_eq_some_iff.mp atStep
              have atLater : (Json.array later).part? (.element index) = some _ :=
                List.getElem?_eq_getElem (Nat.lt_of_lt_of_le inRange length)
              exact onward atLater (parts index inner _ atStep atLater)

end Json.KeptIn

end JsonSchema
