import JsonSchema.Proofs.Following
import JsonSchema.Proofs.Following.Precedence

set_option autoImplicit false

/-! Chains of references. A lookup leads from a node to one other node at most. So the lookups that start at
a node either end, at a node without a reference or at a reference that leads nowhere, or come to a
reference again and then go round for ever; and what a node stands for is told by that end alone,
wherever on the chain one starts. -/

namespace JsonSchema

namespace Documents

def HasReference (node : Json × Scope) (reference : Scope × String) : Prop :=
  node.1.field? "$ref" = some (.string reference.2) ∧ node.2 = reference.1

def Refers (documents : Documents) (node target : Json × Scope) : Prop :=
  ∃ reference, HasReference node reference ∧
    documents.lookup reference.1 reference.2 = .ok (some target)

def LeadsTo (documents : Documents) : (node target : Json × Scope) → Prop :=
  Relation.ReflTransGen documents.Refers

/-- The lookups from a node come to a reference again. -/
def Circles (documents : Documents) (node : Json × Scope) : Prop :=
  ∃ first again reference, documents.LeadsTo node first ∧
    Relation.TransGen documents.Refers first again ∧
    HasReference first reference ∧ HasReference again reference

def Dangles (documents : Documents) (node : Json × Scope) (reference : String) : Prop :=
  node.1.field? "$ref" = some (.string reference) ∧ documents.lookup node.2 reference = .ok none

/-- What a node has under `$ref` is no reference: it is no text, it is empty, or it is a malformed pointer
in the document of the node. -/
inductive Misrefers (documents : Documents) (node : Json × Scope) : String → Prop where
  | noText {value : Json} (named : node.1.field? "$ref" = some value)
      (isNoText : value.string? = none) : Misrefers documents node value.render
  | empty (named : node.1.field? "$ref" = some (.string "")) : Misrefers documents node ""
  | malformed {reference : String} (named : node.1.field? "$ref" = some (.string reference))
      (isMalformed : Pointer.resolve (documents.root node.2) reference =
        .error (.malformed reference)) : Misrefers documents node reference

/-- Following references without a limit: what comes of a node when the references in `seen` have been
followed before. -/
inductive Follows (documents : Documents) : List (Scope × String) → Json × Scope →
    Except ResolveError (Option (Json × Scope)) → Prop where
  | plain {seen : List (Scope × String)} {node : Json × Scope}
      (noReference : node.1.field? "$ref" = none) : Follows documents seen node (.ok (some node))
  | noText {seen : List (Scope × String)} {node : Json × Scope} {value : Json}
      (named : node.1.field? "$ref" = some value) (isNoText : value.string? = none) :
      Follows documents seen node (.error (.malformed value.render))
  | again {seen : List (Scope × String)} {node : Json × Scope} {reference : Scope × String}
      (named : HasReference node reference) (isSeen : reference ∈ seen) :
      Follows documents seen node (.ok none)
  | fails {seen : List (Scope × String)} {node : Json × Scope} {reference : Scope × String}
      {error : ResolveError} (named : HasReference node reference) (isNew : reference ∉ seen)
      (failed : documents.lookup reference.1 reference.2 = .error error) :
      Follows documents seen node (.error error)
  | misses {seen : List (Scope × String)} {node : Json × Scope} {reference : Scope × String}
      (named : HasReference node reference) (isNew : reference ∉ seen)
      (missed : documents.lookup reference.1 reference.2 = .ok none) :
      Follows documents seen node
        (if documents.missingAllowed then .ok none else .error (.missing reference.2))
  | goesOn {seen : List (Scope × String)} {node target : Json × Scope}
      {reference : Scope × String} {outcome : Except ResolveError (Option (Json × Scope))}
      (named : HasReference node reference) (isNew : reference ∉ seen)
      (found : documents.lookup reference.1 reference.2 = .ok (some target))
      (rest : Follows documents (reference :: seen) target outcome) :
      Follows documents seen node outcome

variable {documents : Documents} {node target : Json × Scope}
  {outcome : Except ResolveError (Option (Json × Scope))}

/-! ### The end of a chain -/

private theorem follows_of_rest {budget : Nat} {seen : List (Scope × String)} {node : Json}
    {scope : Scope} (rest : ∀ reference target targetScope,
      node.field? "$ref" = some (.string reference) → (scope, reference) ∉ seen →
      documents.lookup scope reference = .ok (some (target, targetScope)) →
        documents.Follows ((scope, reference) :: seen) (target, targetScope)
          (documents.followRest budget ((scope, reference) :: seen) target targetScope)) :
    documents.Follows seen (node, scope) (documents.follow budget seen node scope) := by
  unfold follow
  cases named : node.field? "$ref" with
  | none => exact .plain named
  | some value =>
      cases value with
      | string reference =>
          have hasReference : HasReference (node, scope) (scope, reference) := ⟨named, rfl⟩
          dsimp only
          split
          next isSeen => exact .again hasReference isSeen
          next isNew =>
            cases found : documents.lookup scope reference with
            | error error => exact .fails hasReference isNew found
            | ok target =>
                cases target with
                | none => exact .misses hasReference isNew found
                | some target =>
                    obtain ⟨target, targetScope⟩ := target
                    have goesOn := rest reference target targetScope named isNew found
                    cases budget <;> exact .goesOn hasReference isNew found goesOn
      | _ => exact .noText named rfl

/-- Within a limit that is no less than the references left to be followed, following goes as without. -/
theorem follows_follow {budget : Nat} {seen : List (Scope × String)} {node : Json} {scope : Scope}
    (holds : documents.Holds node scope)
    (enough : leftOf documents.references.toFinset seen ≤ budget) :
    documents.Follows seen (node, scope) (documents.follow budget seen node scope) := by
  induction budget using Nat.strongRecOn generalizing seen node scope with
  | _ budget ih =>
      apply follows_of_rest
      intro reference target targetScope named isNew found
      obtain ⟨less, rfl, enoughLess⟩ := exists_budget_of_new holds named isNew enough
      exact ih less (Nat.lt_succ_self less) (holds_of_lookup found) enoughLess

/-- What a node stands for is what following comes to: the limit is never met. -/
theorem follows_resolve (documents : Documents) (node : Json) (scope : Scope) :
    documents.Follows [] (node, scope) (documents.resolve node scope) := by
  apply follows_of_rest
  intro reference target targetScope _ _ found
  -- The node may stand outside the documents, but what it refers to is inside.
  have enough := Nat.le_trans (leftOf_le _ [(scope, reference)]) documents.references_card_le
  exact follows_follow (holds_of_lookup found) enough

/-- What a node comes to where no lookup leads on from it. -/
inductive Settles (documents : Documents) (node : Json × Scope) :
    Except ResolveError (Option (Json × Scope)) → Prop where
  | plain (noReference : node.1.field? "$ref" = none) : Settles documents node (.ok (some node))
  | tolerated {reference : String} (dangles : documents.Dangles node reference)
      (allowed : documents.missingAllowed = true) : Settles documents node (.ok none)
  | missing {reference : String} (dangles : documents.Dangles node reference)
      (forbidden : documents.missingAllowed = false) :
      Settles documents node (.error (.missing reference))
  | misreferring {text : String} (misrefers : documents.Misrefers node text) :
      Settles documents node (.error (.malformed text))

def Comes (documents : Documents) (node : Json × Scope)
    (outcome : Except ResolveError (Option (Json × Scope))) : Prop :=
  (∃ last, documents.LeadsTo node last ∧ documents.Settles last outcome) ∨
    (outcome = .ok none ∧ documents.Circles node)

theorem Circles.of_refers (refers : documents.Refers node target)
    (circles : documents.Circles target) : documents.Circles node := by
  obtain ⟨first, again, reference, leads, round, atFirst, atAgain⟩ := circles
  exact ⟨first, again, reference, .head refers leads, round, atFirst, atAgain⟩

theorem Comes.of_refers (refers : documents.Refers node target)
    (comes : documents.Comes target outcome) : documents.Comes node outcome := by
  rcases comes with ⟨last, leads, settles⟩ | ⟨same, circles⟩
  · exact Or.inl ⟨last, .head refers leads, settles⟩
  · exact Or.inr ⟨same, circles.of_refers refers⟩

private theorem misrefers_of_lookup {reference : Scope × String} {error : ResolveError}
    (named : HasReference node reference)
    (failed : documents.lookup reference.1 reference.2 = .error error) :
    documents.Settles node (.error error) := by
  obtain ⟨named, atNode⟩ := named
  obtain ⟨rfl, empty | isMalformed⟩ := lookup_eq_error_iff.mp failed
  · rw [empty] at named ⊢
    exact .misreferring (.empty named)
  · exact .misreferring (.malformed named (atNode ▸ isMalformed))

/-- Following ends where the chain does, or at a reference that has been followed before: one of the
chain, or one of those that were given as seen. -/
theorem comes_of_follows {seen : List (Scope × String)}
    (follows : documents.Follows seen node outcome) :
    documents.Comes node outcome ∨
      (outcome = .ok none ∧ ∃ back reference,
        documents.LeadsTo node back ∧ HasReference back reference ∧ reference ∈ seen) := by
  induction follows with
  | plain noReference => exact Or.inl (Or.inl ⟨_, .refl, .plain noReference⟩)
  | noText named isNoText =>
      exact Or.inl (Or.inl ⟨_, .refl, .misreferring (.noText named isNoText)⟩)
  | again named isSeen => exact Or.inr ⟨rfl, _, _, .refl, named, isSeen⟩
  | fails named _ failed => exact Or.inl (Or.inl ⟨_, .refl, misrefers_of_lookup named failed⟩)
  | misses named _ missed =>
      have dangles : documents.Dangles _ _ := ⟨named.1, named.2 ▸ missed⟩
      refine Or.inl (Or.inl ⟨_, .refl, ?_⟩)
      cases allowed : documents.missingAllowed with
      | true => exact .tolerated dangles allowed
      | false => exact .missing dangles allowed
  | @goesOn seen node target reference outcome named isNew found _ ih =>
      have refers : documents.Refers node target := ⟨reference, named, found⟩
      rcases ih with comes | ⟨rfl, back, other, leads, atBack, isSeen⟩
      · exact Or.inl (comes.of_refers refers)
      · rcases List.mem_cons.mp isSeen with rfl | before
        · have round : Relation.TransGen documents.Refers node back := .head' refers leads
          exact Or.inl (Or.inr ⟨rfl, node, back, other, .refl, round, named, atBack⟩)
        · exact Or.inr ⟨rfl, back, other, .head refers leads, atBack, before⟩

theorem Follows.comes (follows : documents.Follows [] node outcome) :
    documents.Comes node outcome := by
  rcases comes_of_follows follows with comes | ⟨_, _, _, _, _, isSeen⟩
  · exact comes
  · cases isSeen

private theorem comes_resolve (documents : Documents) (node : Json) (scope : Scope) :
    documents.Comes (node, scope) (documents.resolve node scope) :=
  (documents.follows_resolve node scope).comes

/-! ### One end only -/

theorem HasReference.text_eq {reference : Scope × String} {text : String}
    (named : HasReference node reference) (again : node.1.field? "$ref" = some (.string text)) :
    reference.2 = text :=
  Json.string.inj (Option.some.inj (named.1.symm.trans again))

theorem HasReference.unique {reference other : Scope × String} (named : HasReference node reference)
    (again : HasReference node other) : reference = other :=
  Prod.ext (named.2.symm.trans again.2) (named.text_eq again.1)

theorem Refers.unique : Relator.RightUnique documents.Refers := by
  rintro node target other ⟨reference, named, found⟩ ⟨again, namedAgain, foundAgain⟩
  obtain rfl := named.unique namedAgain
  exact Option.some.inj (Except.ok.inj (found.symm.trans foundAgain))

theorem Settles.not_refers (settles : documents.Settles node outcome) :
    ¬ documents.Refers node target := by
  rintro ⟨reference, named, found⟩
  cases settles with
  | plain noReference => cases noReference.symm.trans named.1
  | tolerated dangles | missing dangles =>
      have missed := dangles.2
      rw [named.2, ← named.text_eq dangles.1] at missed
      cases missed.symm.trans found
  | misreferring misrefers =>
      have fails : ∃ error, documents.lookup reference.1 reference.2 = .error error := by
        cases misrefers with
        | noText other isNoText =>
            obtain rfl := Option.some.inj (named.1.symm.trans other)
            cases isNoText
        | empty other => exact ⟨_, lookup_eq_error_iff.mpr ⟨rfl, Or.inl (named.text_eq other)⟩⟩
        | malformed other isMalformed =>
            rw [named.2, ← named.text_eq other] at isMalformed
            exact ⟨_, lookup_eq_error_iff.mpr ⟨rfl, Or.inr isMalformed⟩⟩
      obtain ⟨error, failed⟩ := fails
      cases failed.symm.trans found

private theorem resolve_of_settles {node : Json} {scope : Scope}
    (settles : documents.Settles (node, scope) outcome) : documents.resolve node scope = outcome := by
  unfold resolve follow
  cases settles with
  | plain noReference => rw [noReference]
  | tolerated dangles allowed =>
      rw [dangles.1]
      simp only [List.not_mem_nil, if_false, dangles.2, if_pos allowed]
  | missing dangles forbidden =>
      rw [dangles.1]
      simp only [List.not_mem_nil, if_false, dangles.2, forbidden, Bool.false_eq_true]
  | misreferring misrefers =>
      cases misrefers with
      | @noText value named isNoText =>
          rw [named]
          cases value with
          | string text => cases isNoText
          | _ => rfl
      | empty named =>
          rw [named]
          rfl
      | malformed named isMalformed =>
          have failed := lookup_eq_error_iff.mpr ⟨rfl, Or.inr isMalformed⟩
          rw [named]
          simp only [List.not_mem_nil, if_false, failed]

theorem LeadsTo.eq_of_settles {last : Json × Scope} (settles : documents.Settles node outcome)
    (leads : documents.LeadsTo node last) : node = last := by
  rcases leads.cases_head with same | ⟨next, refers, _⟩
  · exact same
  · exact absurd refers settles.not_refers

/-- Nothing on a round settles: it is left only for the next node of the round. -/
theorem not_settles_of_round {last : Json × Scope}
    (round : Relation.TransGen documents.Refers node node) (leads : documents.LeadsTo node last) :
    ¬ documents.Settles last outcome := by
  have onRound : Relation.TransGen documents.Refers last last := by
    induction leads with
    | refl => exact round
    | @tail before next _ refers ih =>
        obtain ⟨other, refersOther, back⟩ := Relation.TransGen.head'_iff.mp ih
        obtain rfl := Refers.unique refers refersOther
        exact .tail' back refers
  intro settles
  obtain ⟨next, refers, _⟩ := Relation.TransGen.head'_iff.mp onRound
  exact settles.not_refers refers

theorem Circles.not_settles {last : Json × Scope} (circles : documents.Circles node)
    (leads : documents.LeadsTo node last) : ¬ documents.Settles last outcome := by
  obtain ⟨first, again, reference, toFirst, round, atFirst, atAgain⟩ := circles
  obtain ⟨next, ⟨other, named, found⟩, toAgain⟩ := Relation.TransGen.head'_iff.mp round
  -- The same reference leads on to the same node, so this node is on a round.
  obtain rfl := named.unique atFirst
  have onRound : Relation.TransGen documents.Refers next next := .tail' toAgain ⟨other, atAgain, found⟩
  have toNext : documents.LeadsTo node next := toFirst.tail ⟨other, named, found⟩
  rcases Relation.ReflTransGen.total_of_right_unique Refers.unique toNext leads with ahead | behind
  · exact not_settles_of_round onRound ahead
  · intro settles
    obtain rfl := LeadsTo.eq_of_settles settles behind
    exact not_settles_of_round onRound .refl settles

theorem Comes.unique {other : Except ResolveError (Option (Json × Scope))}
    (comes : documents.Comes node outcome) (again : documents.Comes node other) : outcome = other := by
  rcases comes with ⟨last, leads, settles⟩ | ⟨rfl, circles⟩
  · rcases again with ⟨stop, leadsAgain, settlesAgain⟩ | ⟨_, circles⟩
    · obtain rfl : last = stop := by
        rcases Relation.ReflTransGen.total_of_right_unique Refers.unique leads leadsAgain with
          ahead | behind
        · exact LeadsTo.eq_of_settles settles ahead
        · exact (LeadsTo.eq_of_settles settlesAgain behind).symm
      exact (resolve_of_settles settles).symm.trans (resolve_of_settles settlesAgain)
    · exact absurd settles (circles.not_settles leads)
  · rcases again with ⟨last, leads, settles⟩ | ⟨rfl, _⟩
    · exact absurd settles (circles.not_settles leads)
    · rfl

theorem resolve_eq_iff {node : Json} {scope : Scope} :
    documents.resolve node scope = outcome ↔ documents.Comes (node, scope) outcome := by
  constructor
  · rintro rfl
    exact documents.comes_resolve node scope
  · exact fun comes => (documents.comes_resolve node scope).unique comes

/-! ### What a node stands for -/

section Resolving

variable {node : Json} {scope : Scope}

theorem follows_iff :
    documents.Follows [] (node, scope) outcome ↔ documents.resolve node scope = outcome := by
  constructor
  · intro follows
    exact resolve_eq_iff.mpr follows.comes
  · rintro rfl
    exact documents.follows_resolve node scope

theorem resolve_eq_some_iff {target : Json × Scope} :
    documents.resolve node scope = .ok (some target) ↔
      documents.LeadsTo (node, scope) target ∧ target.1.field? "$ref" = none := by
  rw [resolve_eq_iff]
  constructor
  · rintro (⟨last, leads, settles⟩ | ⟨impossible, _⟩)
    · cases settles with
      | plain noReference => exact ⟨leads, noReference⟩
    · cases impossible
  · rintro ⟨leads, noReference⟩
    exact Or.inl ⟨target, leads, .plain noReference⟩

private theorem resolve_eq_of_lookup {reference : String} {target : Json} {targetScope : Scope}
    (named : node.field? "$ref" = some (.string reference))
    (found : documents.lookup scope reference = .ok (some (target, targetScope))) :
    documents.resolve node scope = documents.resolve target targetScope := by
  have refers : documents.Refers (node, scope) (target, targetScope) :=
    ⟨(scope, reference), ⟨named, rfl⟩, found⟩
  exact resolve_eq_iff.mpr ((documents.comes_resolve target targetScope).of_refers refers)

theorem resolve_eq_none_iff :
    documents.resolve node scope = .ok none ↔
      documents.Circles (node, scope) ∨
        documents.missingAllowed = true ∧ ∃ last reference,
          documents.LeadsTo (node, scope) last ∧ documents.Dangles last reference := by
  rw [resolve_eq_iff]
  constructor
  · rintro (⟨last, leads, settles⟩ | ⟨_, circles⟩)
    · cases settles with
      | tolerated dangles allowed => exact Or.inr ⟨allowed, last, _, leads, dangles⟩
    · exact Or.inl circles
  · rintro (circles | ⟨allowed, last, reference, leads, dangles⟩)
    · exact Or.inr ⟨rfl, circles⟩
    · exact Or.inl ⟨last, leads, .tolerated dangles allowed⟩

theorem resolve_eq_missing_iff {reference : String} :
    documents.resolve node scope = .error (.missing reference) ↔
      documents.missingAllowed = false ∧ ∃ last,
        documents.LeadsTo (node, scope) last ∧ documents.Dangles last reference := by
  rw [resolve_eq_iff]
  constructor
  · rintro (⟨last, leads, settles⟩ | ⟨impossible, _⟩)
    · cases settles with
      | missing dangles forbidden => exact ⟨forbidden, last, leads, dangles⟩
    · cases impossible
  · rintro ⟨forbidden, last, leads, dangles⟩
    exact Or.inl ⟨last, leads, .missing dangles forbidden⟩

theorem resolve_eq_malformed_iff {text : String} :
    documents.resolve node scope = .error (.malformed text) ↔
      ∃ last, documents.LeadsTo (node, scope) last ∧ documents.Misrefers last text := by
  rw [resolve_eq_iff]
  constructor
  · rintro (⟨last, leads, settles⟩ | ⟨impossible, _⟩)
    · cases settles with
      | misreferring misrefers => exact ⟨last, leads, misrefers⟩
    · cases impossible
  · rintro ⟨last, leads, misrefers⟩
    exact Or.inl ⟨last, leads, .misreferring misrefers⟩

end Resolving

def allowing (documents : Documents) (allowed : Bool) : Documents :=
  { documents with missingAllowed := allowed }

theorem Misrefers.allowing {text : String} (misrefers : documents.Misrefers node text)
    (allowed : Bool) : (documents.allowing allowed).Misrefers node text := by
  cases misrefers with
  | noText named isNoText => exact .noText named isNoText
  | empty named => exact .empty named
  | malformed named isMalformed => exact .malformed named isMalformed

/-- What a node stands for, by the lookups that start at it. Following them comes to an end, and only to
one. It gives the node where the chain ends, if that has no reference, and the same from wherever on the
chain it starts, so that this node stands for itself. It gives nothing where the chain comes to a reference
again, or ends at one that is found nowhere while such are allowed. It fails where the chain ends at a
reference that is found nowhere while such are not allowed, or, whether they are or not, at what is no
reference. -/
theorem resolve_chain (documents : Documents) (node : Json) (scope : Scope) :
    (∀ outcome, documents.Follows [] (node, scope) outcome ↔
      documents.resolve node scope = outcome) ∧
    (∀ target, documents.resolve node scope = .ok (some target) ↔
      documents.LeadsTo (node, scope) target ∧ target.1.field? "$ref" = none) ∧
    (∀ target targetScope, documents.resolve node scope = .ok (some (target, targetScope)) →
      documents.resolve target targetScope = .ok (some (target, targetScope))) ∧
    (∀ reference target targetScope, node.field? "$ref" = some (.string reference) →
      documents.lookup scope reference = .ok (some (target, targetScope)) →
      documents.resolve node scope = documents.resolve target targetScope) ∧
    (documents.resolve node scope = .ok none ↔
      documents.Circles (node, scope) ∨
        documents.missingAllowed = true ∧ ∃ last reference,
          documents.LeadsTo (node, scope) last ∧ documents.Dangles last reference) ∧
    (∀ reference, documents.resolve node scope = .error (.missing reference) ↔
      documents.missingAllowed = false ∧ ∃ last,
        documents.LeadsTo (node, scope) last ∧ documents.Dangles last reference) ∧
    ∀ allowed text, (documents.allowing allowed).resolve node scope = .error (.malformed text) ↔
      ∃ last, documents.LeadsTo (node, scope) last ∧ documents.Misrefers last text := by
  refine ⟨fun _ => follows_iff, fun _ => resolve_eq_some_iff, ?_,
    fun _ _ _ => resolve_eq_of_lookup, resolve_eq_none_iff, fun _ => resolve_eq_missing_iff, ?_⟩
  · intro target targetScope resolved
    exact resolve_eq_self (resolve_eq_some_iff.mp resolved).2 targetScope
  · intro allowed text
    rw [resolve_eq_malformed_iff]
    constructor
    · rintro ⟨last, leads, misrefers⟩
      exact ⟨last, leads, misrefers.allowing documents.missingAllowed⟩
    · rintro ⟨last, leads, misrefers⟩
      exact ⟨last, leads, misrefers.allowing allowed⟩

def winding : Documents where
  main := .object [("$ref", .string "#/a"), ("a", .object [("$ref", .string "list")])]
  externals := [("list", .object [("$ref", .string "#/next"),
    ("next", .object [("$ref", .string "#/next")])])]
  missingAllowed := false

theorem resolve_chain_winding :
    winding.Circles (winding.main, .main) ∧
      winding.resolve winding.main .main =
        winding.resolve (.object [("$ref", .string "list")]) .main := by
  have found : winding.lookup .main "#/a" =
      .ok (some (.object [("$ref", .string "list")], .main)) := by rfl
  have nothing : winding.resolve winding.main .main = .ok none := by rfl
  obtain ⟨-, -, -, leadsOn, circles, -⟩ := resolve_chain winding winding.main .main
  refine ⟨(circles.mp nothing).resolve_right ?_, leadsOn "#/a" _ _ rfl found⟩
  rintro ⟨impossible, _⟩
  cases impossible

end Documents

end JsonSchema
