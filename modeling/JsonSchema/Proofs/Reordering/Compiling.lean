import JsonSchema.Proofs.Compiling.Succeeding
import JsonSchema.Proofs.Reordering.Nodes

set_option autoImplicit false

/-! Compiling schemas with their keys in another order. Nodes that correspond need nodes that correspond,
and a fault of one is a fault of the other; so the one schema is compiled if the other one is. -/

namespace JsonSchema

namespace Compiler

/-! ### The nodes inside a node -/

section Node

variable {members others : List (String × Json)} (scope : Scope)
  (reordered : Entries.Reordered Json.Reordered members others)

private theorem objectInside_shuffled {schema other : Option Json}
    (same : Option.Rel Json.Reordered schema other) :
    Shuffled SchemaNode.Reordered (objectInside schema scope) (objectInside other scope) := by
  cases same with
  | none => exact .nil
  | some same =>
      cases same with
      | object distinct names each =>
          exact .single (SchemaNode.reordered_mk (.object distinct names each) scope)
      | _ => exact .nil

include reordered

private theorem membersInside_shuffled :
    Shuffled SchemaNode.Reordered (membersInside members scope) (membersInside others scope) := by
  have node (entry other : String × Json) (same : SameEntry Json.Reordered entry other) :
      SchemaNode.Reordered ⟨entry.2, scope⟩ ⟨other.2, scope⟩ := SchemaNode.reordered_mk same.2 scope
  have declared := (reordered.inside "properties").shuffled.map node
  have patterns := (reordered.inside "patternProperties").shuffled.map node
  have additional := objectInside_shuffled scope (reordered.lookup "additionalProperties")
  exact declared.append (patterns.append additional)

private theorem itemsInside_shuffled {items other : Json} (same : items.Reordered other) :
    Shuffled SchemaNode.Reordered (itemsInside members scope items)
      (itemsInside others scope other) := by
  cases same with
  | object distinct names each =>
      exact .single (SchemaNode.reordered_mk (.object distinct names each) scope)
  | array length each =>
      have nodes := SchemaNode.reordered_map (Json.forall₂_of_getElem? length each) scope
      exact (Shuffled.of_forall₂ nodes).append
        (objectInside_shuffled scope (reordered.lookup "additionalItems"))
  | _ => exact .nil

private theorem keywordInside_shuffled (keyword : Keyword) {value other : Json}
    (same : value.Reordered other) :
    Shuffled SchemaNode.Reordered (keywordInside members scope keyword value)
      (keywordInside others scope keyword other) := by
  cases keyword with
  | items => exact itemsInside_shuffled scope reordered same
  | properties | patternProperties | additionalProperties =>
      exact membersInside_shuffled scope reordered
  | dependencies =>
      exact same.members_getD.shuffled.flatMap fun _ _ entries =>
        objectInside_shuffled scope (.some entries.2)
  | allOf | anyOf | oneOf =>
      exact .of_forall₂ (SchemaNode.reordered_map same.elements_getD scope)
  | not => exact objectInside_shuffled scope (.some same)
  | _ => exact .nil

omit reordered in
theorem keywordInside_of_about {keyword : Keyword} (about : keyword.isAboutMembers = true)
    (present : Entries.hasKey members keyword.name = true) :
    ((members.lookup keyword.name).map (keywordInside members scope keyword)).getD [] =
      membersInside members scope := by
  obtain ⟨value, found⟩ := Option.isSome_iff_exists.mp present
  rw [found]
  cases keyword <;> first | rfl | cases about

private theorem nodesInside_shuffled :
    Shuffled SchemaNode.Reordered (nodesInside members scope) (nodesInside others scope) := by
  unfold nodesInside
  rw [keywordsOf_eq, keywordsOf_eq]
  refine (Interpreter.keywords_shuffled reordered.names_perm).flatMap fun left right stands => ?_
  rcases stands with rfl | ⟨⟨leftAbout, inLeft⟩, rightAbout, inRight⟩
  · have inside := Optional.rel_map (reordered.lookup left.name) fun _ _ same =>
      keywordInside_shuffled scope reordered left same
    exact Optional.rel_getD inside .nil
  · rw [keywordInside_of_about scope leftAbout inLeft, keywordInside_of_about scope rightAbout inRight]
    exact membersInside_shuffled scope reordered

/-! ### Patterns -/

private theorem patterns_read
    (reads : ∀ entry ∈ table members "patternProperties", (Regex.ofString? entry.1).isSome = true) :
    ∀ entry ∈ table others "patternProperties", (Regex.ofString? entry.1).isSome = true := by
  intro entry member
  obtain ⟨other, isOther, same, _⟩ :=
    (reordered.inside "patternProperties").flip.shuffled.exists_right member
  rw [same]
  exact reads other isOther

private theorem keywordReads_reordered {keyword : Keyword} {value other : Json}
    (same : value.Reordered other) (reads : KeywordReads members keyword value) :
    KeywordReads others keyword other := by
  cases keyword with
  | pattern =>
      rintro source rfl
      cases same
      exact reads source rfl
  | properties | patternProperties | additionalProperties => exact patterns_read reordered reads
  | _ => trivial

private theorem reads_reordered (reads : Reads members) : Reads others := by
  intro keyword isKeyword value found
  rw [keywordsOf_eq] at isKeyword
  obtain ⟨other, isOther, stands⟩ :=
    (Interpreter.keywords_shuffled reordered.names_perm.symm).exists_right isKeyword
  rw [← keywordsOf_eq] at isOther
  rcases stands with rfl | ⟨⟨about, _⟩, otherAbout, inMembers⟩
  · obtain ⟨before, atBefore, same⟩ := Optional.exists_left (reordered.lookup keyword.name) found
    exact keywordReads_reordered reordered same (reads keyword isOther before atBefore)
  · obtain ⟨before, atBefore⟩ := Option.isSome_iff_exists.mp inMembers
    rw [keywordReads_of_about about]
    have readable := reads other isOther before atBefore
    rw [keywordReads_of_about otherAbout] at readable
    exact patterns_read reordered readable

end Node

/-! ### Needs and faults -/

variable {compiler changed : Compiler} {node needed other : SchemaNode}

theorem Faulty.reordered (documents : compiler.documents.Reordered changed.documents)
    (identified : compiler.documents.Identified) (same : node.Reordered other)
    (faulty : compiler.Faulty node) : changed.Faulty other := by
  cases faulty with
  | pattern noReference unreadable =>
      obtain ⟨others, rfl, members⟩ := same.of_object
      refine .pattern (Optional.eq_none (members.lookup "$ref") noReference) fun reads => ?_
      exact unreadable (reads_reordered members.toJson.symm.members reads)
  | noText named noText =>
      obtain ⟨others, rfl, members⟩ := same.of_object
      obtain ⟨reference, atReference, sameReference⟩ :=
        Optional.exists_right (members.lookup "$ref") named
      exact .noText atReference (sameReference.string?_eq ▸ noText)
  | @unresolved _ scope _ _ named resolved =>
      obtain ⟨others, rfl, members⟩ := same.of_object
      have answers := documents.resolve identified members.toJson scope
      rw [resolved] at answers
      generalize atOther : changed.documents.resolve _ _ = answer at answers
      cases answers with
      | error => exact .unresolved (members.lookup_string named) atOther

theorem Needs.reordered (documents : compiler.documents.Reordered changed.documents)
    (identified : compiler.documents.Identified) (same : node.Reordered other)
    (needs : compiler.Needs node needed) :
    ∃ otherNeeded, changed.Needs other otherNeeded ∧ needed.Reordered otherNeeded := by
  cases needs with
  | inside noReference isInside =>
      obtain ⟨others, rfl, members⟩ := same.of_object
      obtain ⟨otherNeeded, isOther, sameNeeded⟩ :=
        (nodesInside_shuffled _ members).exists_right isInside
      exact ⟨otherNeeded, .inside (Optional.eq_none (members.lookup "$ref") noReference) isOther,
        sameNeeded⟩
  | @target _ scope _ _ _ named resolved =>
      obtain ⟨others, rfl, members⟩ := same.of_object
      have answers := documents.resolve identified members.toJson scope
      rw [resolved] at answers
      generalize atOther : changed.documents.resolve _ _ = answer at answers
      cases answers with
      | ok targets =>
          cases targets with
          | @some _ target same =>
              obtain ⟨target, targetScope⟩ := target
              obtain ⟨sameTarget, sameScope⟩ := same
              exact ⟨⟨target, targetScope⟩, .target (members.lookup_string named) atOther, sameTarget,
                sameScope⟩

theorem NeedsAtAll.reordered (documents : compiler.documents.Reordered changed.documents)
    (identified : compiler.documents.Identified) (needs : compiler.NeedsAtAll node) :
    ∃ other, changed.NeedsAtAll other ∧ node.Reordered other := by
  induction needs with
  | refl => exact ⟨_, .refl, documents.main, rfl⟩
  | tail _ needs ih =>
      obtain ⟨other, reached, same⟩ := ih
      obtain ⟨otherNeeded, otherNeeds, sameNeeded⟩ := needs.reordered documents identified same
      exact ⟨otherNeeded, .tail reached otherNeeds, sameNeeded⟩

private theorem run_isOk_of_reordered (documents : compiler.documents.Reordered changed.documents)
    (identified : compiler.documents.Identified) (isOk : changed.run.isOk = true) :
    compiler.run.isOk = true := by
  rw [run_isOk_iff] at isOk ⊢
  intro node needs faulty
  obtain ⟨other, otherNeeds, same⟩ := needs.reordered documents identified
  exact isOk other otherNeeds (faulty.reordered documents identified same)

/-- The order of keys does not decide whether a schema is compiled. -/
theorem run_isOk_eq (documents : compiler.documents.Reordered changed.documents)
    (identified : compiler.documents.Identified) : compiler.run.isOk = changed.run.isOk :=
  Bool.eq_iff_iff.mpr
    ⟨run_isOk_of_reordered documents.symm (identified.of_reordered documents),
      run_isOk_of_reordered documents identified⟩

end Compiler

end JsonSchema
