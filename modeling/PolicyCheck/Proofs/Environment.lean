import PolicyCheck.Proofs.Covering
import PolicyCheck.Proofs.Decoding
import PolicyCheck.Proofs.ScopeMeaning

/-
  Whether the types that conditions rely on describe the
  requests that a policy can see. Those of the principal and
  the resource always do. The common context keeps the types
  of the first candidate, so it describes the requests of
  another action exactly if its type covers their contexts.

  Main declarations:
    * `fits_scopeVarTy`
    * `Ty.mem_attrs_foldl_intersect`
    * `Env.describes`
    * `Env.describes_first`
    * `RecordOf.faults_eq_nil_of_covers`
    * `RecordOf.exists_accepted_fault`
    * `environment_describes_requests`
-/

------------------------------------------------------------
-- Principals And Resources
------------------------------------------------------------

namespace PolicyCheck

/- The type of a variable fits every entity its scope admits. -/
theorem fits_scopeVarTy
    {schema : Schema}
    {mode : Mode}
    {store : List Entity}
    {constraint : ScopeConstraint}
    {entity : EntityUid}
    {allowed : List EntityType}
    (hAdmits : constraint.Admits schema mode store entity)
    (hAllowed : entity.type ∈ allowed) :
    Ty.fits (scopeVarTy constraint allowed) (.entity entity.type) =
      true := by
  -- The types that actions allow matter only without a type in
  -- the scope, and then the entity has the only one of them.
  have hOpen :
      Ty.fits (scopeVarTy .any allowed) (.entity entity.type) =
        true := by
    unfold scopeVarTy
    cases hDistinct : distinct allowed with
    | nil => simp [Ty.fits]
    | cons type rest =>
        cases rest with
        | nil =>
            have hMem : entity.type ∈ distinct allowed :=
              mem_distinct.mpr hAllowed
            rw [hDistinct, List.mem_singleton] at hMem
            simp [Ty.fits, hMem]
        | cons other rest => simp [Ty.fits]
  cases constraint with
  | any => exact hOpen
  | mem uid => exact hOpen
  | eq uid =>
      have hEq : entity = uid := hAdmits
      simp [scopeVarTy, Ty.fits, hEq]
  | is type =>
      have hType : entity.type = type := hAdmits
      simp [scopeVarTy, Ty.fits, hType]
  | isIn type uid =>
      have hType : entity.type = type := hAdmits.1
      simp [scopeVarTy, Ty.fits, hType]

------------------------------------------------------------
-- The Common Context
------------------------------------------------------------

namespace Ty

/- An attribute is kept from the first of two records. -/
theorem mem_attrs_intersect
    {r s : RecordType}
    {name : String}
    {declared : AttributeType}
    (hMem : (name, declared) ∈ (intersect r s).attrs) :
    name ∈ s.names ∧
      ∃ own : AttributeType,
        (name, own) ∈ r.attrs ∧ declared.type = own.type ∧
          (declared.required = true → own.required = true) := by
  unfold intersect at hMem
  rcases List.mem_filterMap.mp hMem with
    ⟨⟨key, own⟩, hOwn, hKept⟩
  cases hOther : s.attr? key with
  | none => simp [hOther] at hKept
  | some other =>
      by_cases hFits :
          (fits own.type other.type &&
            fits other.type own.type) = true
      · simp only [hOther, hFits, if_true, Option.some.injEq,
          Prod.mk.injEq] at hKept
        rcases hKept with ⟨rfl, rfl⟩
        have hName : key ∈ s.names :=
          Assoc.mem_keys_of_mem (Assoc.mem_of_find? hOther)
        refine ⟨hName, own, hOwn, rfl, ?_⟩
        intro hRequired
        exact (Bool.and_eq_true_iff.mp hRequired).1
      · simp [hOther, hFits] at hKept

/-
  What is left of the first record has its types, and is
  declared in all others. The induction is on the others,
  with the part that is left so far in place of the first.
-/
theorem mem_attrs_foldl_intersect
    {rest : List RecordType}
    {first : RecordType}
    {name : String}
    {declared : AttributeType}
    (hMem : (name, declared) ∈ (rest.foldl intersect first).attrs) :
    (∃ own : AttributeType,
      (name, own) ∈ first.attrs ∧ declared.type = own.type ∧
        (declared.required = true → own.required = true)) ∧
      ∀ other ∈ rest, name ∈ other.names := by
  induction rest generalizing first with
  | nil =>
      refine ⟨⟨declared, hMem, rfl, id⟩, ?_⟩
      simp
  | cons second rest ih =>
      rcases ih hMem with ⟨⟨left, hLeft, hType, hRequired⟩, hRest⟩
      rcases mem_attrs_intersect hLeft with
        ⟨hSecond, own, hOwn, hOwnType, hOwnRequired⟩
      constructor
      · refine ⟨own, hOwn, hType.trans hOwnType, ?_⟩
        intro hDeclared
        exact hOwnRequired (hRequired hDeclared)
      · intro other hOther
        rcases List.mem_cons.mp hOther with rfl | hThere
        · exact hSecond
        · exact hRest other hThere

end Ty

/- What is common to contexts is declared in each of them. -/
theorem names_commonContext_subset
    {contexts : List RecordType}
    {context : RecordType}
    (hContext : context ∈ contexts) :
    ∀ name ∈ (commonContext contexts).names,
      name ∈ context.names := by
  intro name hName
  rcases List.mem_map.mp hName with ⟨⟨key, declared⟩, hMem, rfl⟩
  cases contexts with
  | nil => simp at hContext
  | cons first rest =>
      rcases Ty.mem_attrs_foldl_intersect hMem with
        ⟨⟨own, hOwn, _⟩, hRest⟩
      rcases List.mem_cons.mp hContext with rfl | hOther
      · exact Assoc.mem_keys_of_mem hOwn
      · exact hRest context hOther

------------------------------------------------------------
-- Described Actions
------------------------------------------------------------

/- The common context has all contexts of an action. -/
def Env.describes
    (env : Env)
    (info : ActionInfo) : Bool :=
  Ty.covers (.record env.context) (.record info.context)

/- The common context describes the first candidate. -/
theorem Env.describes_first
    {schema : Schema}
    {policy : Policy}
    {info : ActionInfo}
    (hFirst : (schema.candidates policy.action).head? = some info)
    (hOrdered : (Ty.record info.context).Ordered) :
    (Env.ofPolicy schema policy).describes info = true := by
  rcases List.head?_eq_some_iff.mp hFirst with ⟨rest, hSplit⟩
  unfold Env.describes
  rw [Ty.covers]
  apply Ty.coversAttrs_of_forall
  intro name declared hMem
  have hLeft :
      (name, declared) ∈
        ((rest.map ActionInfo.context).foldl Ty.intersect
          info.context).attrs := by
    simpa only [Env.ofPolicy, hSplit, List.map_cons,
      commonContext] using hMem
  rcases (Ty.mem_attrs_foldl_intersect hLeft).1 with
    ⟨own, hOwn, hType, hRequired⟩
  rw [Ty.Ordered] at hOrdered
  refine
    ⟨own, Assoc.find?_of_mem hOrdered.1.nodup hOwn, ?_, hRequired⟩
  rw [hType]
  exact
    Ty.covers_refl_of_mem info.context.attrs hOrdered.2 name own
      hOwn

/-
  A record type that covers another one has no fault with
  the data that is accepted there.
-/
theorem RecordOf.faults_eq_nil_of_covers
    {record own : RecordType}
    (hCovers : Ty.covers (.record record) (.record own) = true)
    {mode : Mode}
    {values : Assoc String Value}
    (hAccepts : own.Accepts mode values) :
    record.faults .permissive values = [] := by
  rw [Ty.covers] at hCovers
  have hConforms : Ty.conformsAttrs record.attrs values = true :=
    Ty.conformsAttrs_of_coversAttrs record.attrs own.attrs hCovers
      values (Ty.conformsAttrs_iff.mpr hAccepts.1)
  rw [RecordOf.faults_eq_nil_iff]
  refine ⟨Ty.conformsAttrs_iff.mp hConforms, ?_⟩
  intro hStrict
  cases hStrict

/-
  A record type that does not cover another one faults some
  data that is accepted there, in any mode, if it declares
  no attribute of its own.
-/
theorem RecordOf.exists_accepted_fault
    {record own : RecordType}
    (hNames : ∀ name ∈ record.names, name ∈ own.names)
    (hOrdered : (Ty.record own).Ordered)
    (hCovers : Ty.covers (.record record) (.record own) = false)
    (mode : Mode) :
    ∃ values : Assoc String Value,
      (Value.record values).Ordered ∧ own.Accepts mode values ∧
        record.faults .permissive values ≠ [] := by
  rw [Ty.Ordered] at hOrdered
  rw [Ty.covers] at hCovers
  rcases Ty.parted_of_coversAttrs_eq_false record.attrs own.attrs
      hOrdered.1 hOrdered.2 hCovers with
    ⟨values, hValues, hKeys, hConforms, hRefused⟩
  refine ⟨values, hValues, ⟨?_, ?_⟩, ?_⟩
  · exact Ty.conformsAttrs_iff.mp hConforms
  · intro _ _ name hName
    rcases hKeys name hName with hRecord | hOwn
    · exact hNames name hRecord
    · exact hOwn
  · intro hNone
    have hAccepts := RecordOf.faults_eq_nil_iff.mp hNone
    rw [Ty.conformsAttrs_iff.mpr hAccepts.1] at hRefused
    exact Bool.noConfusion hRefused

/-
  The types of the principal and the resource fit every
  accepted request that the scope of a policy admits. The
  common context is without fault for the requests of an
  action that it describes, which the first candidate always
  is; for any other action it faults one of the contexts
  that are accepted.
-/
theorem environment_describes_requests
    {fragments : List Fragment}
    {schema : Schema}
    (hBuilt : Schema.build false fragments = .ok schema)
    (hOrdered : ∀ fragment ∈ fragments, fragment.Ordered)
    (options : Options)
    (policy : Policy)
    (request : Request)
    (store : List Entity)
    (hAccepted :
      (Validator.mk schema options).validateRequest request = none)
    (hCandidate :
      ∃ info ∈ schema.candidates policy.action,
        info.name = request.action)
    (hPrincipal :
      policy.principal.Admits schema options.mode store
        request.principal)
    (hResource :
      policy.resource.Admits schema options.mode store
        request.resource) :
    Ty.fits (Env.ofPolicy schema policy).principal
        (.entity request.principal.type) = true ∧
      Ty.fits (Env.ofPolicy schema policy).resource
        (.entity request.resource.type) = true ∧
      ∃ info,
        schema.action? request.action = some info ∧
          ((schema.candidates policy.action).head? = some info →
            (Env.ofPolicy schema policy).describes info = true) ∧
          ((Env.ofPolicy schema policy).describes info = true →
            (Env.ofPolicy schema policy).context.faults .permissive
              request.context = []) ∧
          ((Env.ofPolicy schema policy).describes info = false →
            ∃ context : Assoc String Value,
              (Value.record context).Ordered ∧
                (Validator.mk schema options).validateRequest
                  { request with context := context } = none ∧
                (Env.ofPolicy schema policy).context.faults
                  .permissive context ≠ []) := by
  have hTabled := Schema.tabled_of_build hBuilt
  have hClosed := Schema.closed_of_build hBuilt
  rcases hCandidate with ⟨info, hInfo, hName⟩
  rcases Schema.mem_applicable_of_accepted hTabled hClosed
      hAccepted hInfo hName with
    ⟨hApplicable, hDeclared, hPrincipals, hResources, hContext⟩
  have hContextOrdered : (Ty.record info.context).Ordered :=
    Schema.context_ordered_of_build hBuilt hOrdered hDeclared
  refine ⟨?_, ?_, info, hDeclared, ?_, ?_, ?_⟩
  · apply fits_scopeVarTy hPrincipal
    exact List.mem_flatMap.mpr ⟨info, hApplicable, hPrincipals⟩
  · apply fits_scopeVarTy hResource
    exact List.mem_flatMap.mpr ⟨info, hApplicable, hResources⟩
  · intro hFirst
    exact Env.describes_first hFirst hContextOrdered
  · intro hDescribes
    exact RecordOf.faults_eq_nil_of_covers hDescribes hContext
  · intro hDescribes
    have hNames :
        ∀ name ∈ (Env.ofPolicy schema policy).context.names,
          name ∈ info.context.names :=
      names_commonContext_subset
        (List.mem_map.mpr ⟨info, hInfo, rfl⟩)
    rcases RecordOf.exists_accepted_fault hNames hContextOrdered
        hDescribes options.mode with
      ⟨context, hValues, hAccepts, hFaults⟩
    refine ⟨context, hValues, ?_, hFaults⟩
    exact
      Schema.checkRequest_eq_none_iff.mpr
        ⟨info, hDeclared, hPrincipals, hResources, hAccepts⟩

/- An action of users on documents that names the owner. -/
def ownedAction
    (owner : List (String × Json)) : Json :=
  .obj [("appliesTo", .obj [
    ("principalTypes", .arr [.str "User"]),
    ("resourceTypes", .arr [.str "Doc"]),
    ("context", .obj [
      ("type", .str "Record"),
      ("additionalAttributes", .bool true),
      ("attributes", .obj [
        ("owner", .obj (("type", .str "Entity") :: owner))])])])]

/- Two actions that say differently who can be an owner. -/
def sharingDocument
    (audited opened : List (String × Json)) : Json :=
  .obj [
    ("entityTypes", .obj [
      ("User", .obj [("shape", .obj [
        ("type", .str "Record"), ("attributes", .obj [])])]),
      ("Group", .obj [("shape", .obj [
        ("type", .str "Record"),
        ("attributes", .obj [
          ("level", .obj [("type", .str "Long")])])])]),
      ("Doc", .obj [])]),
    ("actions", .obj [
      ("audit", ownedAction audited),
      ("read", ownedAction opened)])]

/- The schema of the two actions. -/
def sharingSchema
    (audited opened : Ty) : Schema :=
  ⟨[(⟨"Doc"⟩, ⟨⟨"Doc"⟩, .anything, []⟩),
      (⟨"Group"⟩,
        ⟨⟨"Group"⟩,
          ⟨[("level", ⟨.long, true⟩)], .closedAttributes⟩, []⟩),
      (⟨"User"⟩, ⟨⟨"User"⟩, ⟨[], .closedAttributes⟩, []⟩)],
    [(⟨⟨"Action"⟩, "audit"⟩,
        ⟨⟨⟨"Action"⟩, "audit"⟩, [⟨"User"⟩], [⟨"Doc"⟩],
          ⟨[("owner", ⟨audited, true⟩)], .openAttributes⟩, []⟩),
      (⟨⟨"Action"⟩, "read"⟩,
        ⟨⟨⟨"Action"⟩, "read"⟩, [⟨"User"⟩], [⟨"Doc"⟩],
          ⟨[("owner", ⟨opened, true⟩)], .openAttributes⟩, []⟩)],
    []⟩

/- A policy on all that is done to documents. -/
def sharingPolicy : Policy :=
  ⟨⟨"sharing"⟩, .permit, .any, .any, .is ⟨"Doc"⟩, []⟩

/- A user reads a document of an owner. -/
def sharingRequest
    (owner : EntityUid) : Request :=
  ⟨⟨⟨"User"⟩, "ann"⟩, ⟨⟨"Action"⟩, "read"⟩, ⟨⟨"Doc"⟩, "plan"⟩,
    [("owner", .entity owner)]⟩

/- The first action allows any owner, the second only users. -/
def anyOwnerFirst : Schema :=
  sharingSchema .anyEntity (.entity ⟨"User"⟩)

/- The first action allows only users, the second any owner. -/
def userOwnerFirst : Schema :=
  sharingSchema (.entity ⟨"User"⟩) .anyEntity

/-
  Owners of any type cover users, so where they come first
  the contexts of both actions are described.
-/
theorem anyOwnerFirst_describes_requests :
    ∃ fragment,
      Fragment.ofJson
          (sharingDocument [] [("name", .str "User")]) =
        .ok fragment ∧
      Schema.build false [fragment] = .ok anyOwnerFirst ∧
      (Validator.mk anyOwnerFirst default).validateRequest
        (sharingRequest ⟨⟨"User"⟩, "bob"⟩) = none ∧
      Ty.fits (Env.ofPolicy anyOwnerFirst sharingPolicy).principal
        (.entity ⟨"User"⟩) = true ∧
      Ty.fits (Env.ofPolicy anyOwnerFirst sharingPolicy).resource
        (.entity ⟨"Doc"⟩) = true ∧
      (Env.ofPolicy anyOwnerFirst sharingPolicy).context.faults
        .permissive (sharingRequest ⟨⟨"User"⟩, "bob"⟩).context =
          [] := by
  have hFragment :
      ∃ fragment,
        Fragment.ofJson
            (sharingDocument [] [("name", .str "User")]) =
          .ok fragment ∧
        Schema.build false [fragment] = .ok anyOwnerFirst :=
    ⟨_, rfl, rfl⟩
  rcases hFragment with ⟨fragment, hRead, hBuilt⟩
  have hOrdered : ∀ other ∈ [fragment], other.Ordered := by
    simpa using Fragment.ordered_of_ofJson hRead
  rcases environment_describes_requests hBuilt hOrdered default
      sharingPolicy (sharingRequest ⟨⟨"User"⟩, "bob"⟩) [] rfl
      ⟨_, .tail _ (.head _), rfl⟩ trivial rfl with
    ⟨hPrincipal, hResource, info, hInfo, _, hSound, _⟩
  refine
    ⟨fragment, hRead, hBuilt, rfl, hPrincipal, hResource,
      hSound ?_⟩
  rw [← Option.some.inj hInfo]
  rfl

/-
  Where users come first the common context asks for them. A
  request with a group as owner is accepted for the second
  action, and its context is at fault.
-/
theorem userOwnerFirst_misses_group :
    ∃ fragment,
      Fragment.ofJson
          (sharingDocument [("name", .str "User")] []) =
        .ok fragment ∧
      Schema.build false [fragment] = .ok userOwnerFirst ∧
      (Validator.mk userOwnerFirst default).validateRequest
        (sharingRequest ⟨⟨"Group"⟩, "staff"⟩) = none ∧
      (∃ info ∈ userOwnerFirst.candidates sharingPolicy.action,
        info.name =
          (sharingRequest ⟨⟨"Group"⟩, "staff"⟩).action) ∧
      sharingPolicy.principal.Admits userOwnerFirst
        (default : Options).mode []
        (sharingRequest ⟨⟨"Group"⟩, "staff"⟩).principal ∧
      sharingPolicy.resource.Admits userOwnerFirst
        (default : Options).mode []
        (sharingRequest ⟨⟨"Group"⟩, "staff"⟩).resource ∧
      (Env.ofPolicy userOwnerFirst sharingPolicy).context.faults
          .permissive
          (sharingRequest ⟨⟨"Group"⟩, "staff"⟩).context ≠ [] :=
  ⟨_, rfl, rfl, rfl, ⟨_, .tail _ (.head _), rfl⟩, trivial, rfl,
    List.cons_ne_nil _ _⟩

end PolicyCheck
