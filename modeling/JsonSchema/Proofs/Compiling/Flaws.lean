import JsonSchema.Proofs.Compiling.Succeeding
import JsonSchema.Proofs.Following.Chains

set_option autoImplicit false

/-! What can go wrong where missing references are allowed. A chain of references fails then only if it ends
at what is no reference, and beside that only a pattern that cannot be read stops the compiler. The main
statement is `Compiler.flaw_of_run`, which finds such a node among those that the run has come to. -/

namespace JsonSchema

namespace Documents

variable {documents : Documents} {node : Json} {scope : Scope}

/-- Where missing references are allowed, a chain fails only at what is no reference. -/
theorem malformed_of_resolve_error {error : ResolveError} (allowed : documents.missingAllowed = true)
    (resolved : documents.resolve node scope = .error error) :
    ∃ last text, error = .malformed text ∧ documents.LeadsTo (node, scope) last ∧
      documents.Misrefers last text := by
  cases error with
  | missing reference =>
      have forbidden := (resolve_eq_missing_iff.mp resolved).1
      rw [allowed] at forbidden
      cases forbidden
  | malformed text =>
      obtain ⟨last, leads, misrefers⟩ := resolve_eq_malformed_iff.mp resolved
      exact ⟨last, text, rfl, leads, misrefers⟩

end Documents

namespace Compiler

def HasMalformedChain (compiler : Compiler) (node : SchemaNode) : Prop :=
  ∃ last text, compiler.documents.LeadsTo (node.schema, node.scope) last ∧
    compiler.documents.Misrefers last text

/-- A node that is no reference has a pattern that cannot be read, under `pattern` or as a key of its
`patternProperties`. -/
def HasUnreadablePattern (node : SchemaNode) : Prop :=
  ∃ members, node.schema = .object members ∧ members.lookup "$ref" = none ∧
    ∃ source, Regex.ofString? source = none ∧
      (members.lookup "pattern" = some (.string source) ∨
        source ∈ Entries.names (table members "patternProperties"))

section Patterns

variable {members : List (String × Json)} {source : String}

/-- The keys of `patternProperties` are read once, at the first keyword about members. -/
theorem isSome_of_reads (reads : Reads members)
    (written : members.lookup "pattern" = some (.string source) ∨
      source ∈ Entries.names (table members "patternProperties")) :
    (Regex.ofString? source).isSome = true := by
  rcases written with found | isKey
  · exact reads .pattern (mem_keywordsOf found rfl) _ found source rfl
  · obtain ⟨entry, isEntry, rfl⟩ := List.mem_map.mp isKey
    have atLeading {leading : Keyword} (isLeading : leading ∈ keywordsOf members)
        (about : leading.isAboutMembers = true) : (Regex.ofString? entry.1).isSome = true := by
      obtain ⟨value, found⟩ := Option.isSome_iff_exists.mp (hasKey_of_mem_keywordsOf isLeading)
      have readsLeading := reads leading isLeading value found
      exact (keywordReads_of_about about value).mp readsLeading entry isEntry
    cases found : members.lookup "patternProperties" with
    | none =>
        rw [table, found] at isEntry
        cases isEntry
    | some patterns =>
        have isWritten : members.lookup Keyword.patternProperties.name = some patterns := found
        rcases exists_leading isWritten with own | ⟨_, leading, isLeading, about⟩
        · exact atLeading own rfl
        · exact atLeading isLeading about

private theorem exists_unreadable (unreadable : ¬Reads members) :
    ∃ source, Regex.ofString? source = none ∧
      (members.lookup "pattern" = some (.string source) ∨
        source ∈ Entries.names (table members "patternProperties")) := by
  by_contra allReadable
  have each (source : String) (written : members.lookup "pattern" = some (.string source) ∨
      source ∈ Entries.names (table members "patternProperties")) :
      (Regex.ofString? source).isSome = true :=
    Option.isSome_iff_ne_none.mpr fun isNone => allReadable ⟨source, isNone, written⟩
  refine unreadable fun keyword _ value found => ?_
  cases keyword with
  | pattern =>
      rintro source rfl
      exact each source (.inl found)
  | properties | patternProperties | additionalProperties =>
      exact fun entry isEntry => each entry.1 (.inr (List.mem_map.mpr ⟨entry, isEntry, rfl⟩))
  | _ => trivial

end Patterns

variable {compiler : Compiler} {node : SchemaNode} {caller callee : Position}

private theorem faulty_of_malformedChain (malformed : compiler.HasMalformedChain node) :
    compiler.Faulty node := by
  obtain ⟨last, text, leads, misrefers⟩ := malformed
  obtain ⟨schema, scope⟩ := node
  have resolved := Documents.resolve_eq_malformed_iff.mpr ⟨last, leads, misrefers⟩
  cases named : schema.field? "$ref" with
  | none => cases (Documents.resolve_eq_self named scope).symm.trans resolved
  | some reference =>
      cases schema with
      | object members =>
          cases reference with
          | string name => exact .unresolved named resolved
          | _ => exact .noText named rfl
      | _ => cases named

private theorem faulty_of_unreadablePattern (unreadable : HasUnreadablePattern node) :
    compiler.Faulty node := by
  obtain ⟨members, isObject, noReference, source, isNone, written⟩ := unreadable
  obtain ⟨schema, scope⟩ := node
  obtain rfl : schema = .object members := isObject
  refine .pattern noReference fun reads => ?_
  have isSome := isSome_of_reads reads written
  rw [isNone] at isSome
  cases isSome

theorem Calls.needs (calls : compiler.Calls caller callee) :
    compiler.Needs caller.node callee.node := by
  cases calls with
  | inside noReference order walks =>
      exact .inside noReference (order ▸ List.mem_append_right _ List.mem_cons_self)
  | target named new resolved => exact .target named resolved

theorem Visits.needsAtAll {position : Position} (visits : compiler.Visits position) :
    compiler.NeedsAtAll position.node := visits.lift Position.node fun _ _ => Calls.needs

def IsFlawed (compiler : Compiler) (node : SchemaNode) : Prop :=
  compiler.HasMalformedChain node ∨ HasUnreadablePattern node

theorem faulty_of_isFlawed (flawed : compiler.IsFlawed node) : compiler.Faulty node := by
  rcases flawed with malformed | unreadable
  · exact faulty_of_malformedChain malformed
  · exact faulty_of_unreadablePattern unreadable

inductive Flaw (compiler : Compiler) (node : SchemaNode) : SetupError → Prop where
  | chain {text : String} (malformed : compiler.HasMalformedChain node) :
      Flaw compiler node (.resolve (.malformed text))
  | pattern {keyword : Keyword} {source : String} (unreadable : HasUnreadablePattern node) :
      Flaw compiler node (.invalidPattern keyword source)

theorem Flaw.isFlawed {error : SetupError} (flaw : compiler.Flaw node error) :
    compiler.IsFlawed node := by
  cases flaw with
  | chain malformed => exact .inl malformed
  | pattern unreadable => exact .inr unreadable

def ReachesFlaw (compiler : Compiler) (position : Position) (error : SetupError) : Prop :=
  ∃ reached, Relation.ReflTransGen compiler.Calls position reached ∧ compiler.Flaw reached.node error

theorem ReachesFlaw.here {position : Position} {error : SetupError}
    (flaw : compiler.Flaw position.node error) : compiler.ReachesFlaw position error :=
  ⟨position, .refl, flaw⟩

theorem ReachesFlaw.below {error : SetupError} (reaches : compiler.ReachesFlaw callee error)
    (calls : compiler.Calls caller callee) : compiler.ReachesFlaw caller error := by
  obtain ⟨reached, later, flaw⟩ := reaches
  exact ⟨reached, .head calls later, flaw⟩

private theorem reachesFlaw_of_setup {budget : Nat} {position : Position} {error : SetupError}
    (allowed : compiler.documents.missingAllowed = true)
    (failed : compiler.compile budget position.node.schema position.node.scope position.slots =
      .error (.setup error)) :
    compiler.ReachesFlaw position error := by
  induction budget generalizing position with
  | zero => cases failed
  | succ budget ih =>
      obtain ⟨node, slots⟩ := position
      have stops : Stops compiler (compiler.compile budget) node slots (.setup error) :=
        stops_of_error failed
      generalize isSetup : CompileStop.setup error = stop at stops
      cases stops with
      | inside noReference fails =>
          generalize order : nodesInside _ _ = nodes at fails
          obtain ⟨walks, failedInside⟩ := fails
          subst isSetup
          have calls := Calls.inside noReference order walks
          have reaches : compiler.ReachesFlaw ⟨_, _⟩ error := ih failedInside
          exact reaches.below calls
      | @pattern members scope slots keyword source noReference unreadable =>
          cases isSetup
          have atNode : HasUnreadablePattern ⟨.object members, scope⟩ :=
            ⟨members, rfl, noReference, exists_unreadable unreadable⟩
          exact .here (.pattern atNode)
      | @noText members scope slots reference named noText =>
          cases isSetup
          have misrefers : compiler.documents.Misrefers (.object members, scope) reference.render :=
            .noText named noText
          have atNode : compiler.HasMalformedChain ⟨.object members, scope⟩ := ⟨_, _, .refl, misrefers⟩
          exact .here (.chain atNode)
      | @unresolved members scope slots name error named new resolved =>
          cases isSetup
          obtain ⟨last, text, rfl, leads, misrefers⟩ :=
            Documents.malformed_of_resolve_error allowed resolved
          have atNode : compiler.HasMalformedChain ⟨.object members, scope⟩ :=
            ⟨last, text, leads, misrefers⟩
          exact .here (.chain atNode)
      | @target members scope targetScope name target slots stop named new resolved failedInside =>
          subst isSetup
          have calls := Calls.target named new resolved
          have reaches : compiler.ReachesFlaw ⟨⟨target, targetScope⟩, _⟩ error := ih failedInside
          exact reaches.below calls

theorem flaw_of_run {stop : CompileStop} (allowed : compiler.documents.missingAllowed = true)
    (failed : compiler.run = .error stop) :
    ∃ error, stop = .setup error ∧
      ∃ position, compiler.Visits position ∧ compiler.Flaw position.node error := by
  have ends := compiler.run_ne_exhausted
  rw [failed] at ends
  cases stop with
  | exhausted => exact absurd rfl ends
  | setup error =>
      have failedMain : compiler.compile compiler.budget compiler.start.node.schema
          compiler.start.node.scope compiler.start.slots = .error (.setup error) := by
        cases ran : compiler.compile compiler.budget compiler.documents.main .main #[] with
        | error stop =>
            have same : compiler.run = .error stop := by
              rw [run, StateT.run, ran]
              rfl
            obtain rfl := Except.error.inj (same.symm.trans failed)
            exact ran
        | ok result =>
            have same : compiler.run = .ok _ := bind_of_ends ran
            cases same.symm.trans failed
      exact ⟨error, rfl, reachesFlaw_of_setup allowed failedMain⟩

end Compiler

end JsonSchema
