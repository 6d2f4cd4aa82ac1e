import PolicyCheck.Conformance
import PolicyCheck.Constant
import PolicyCheck.Options
import PolicyCheck.Schema.Build
import PolicyCheck.Schema.Fragment
import PolicyCheck.Typing.Check

/-
  This file defines validators: a schema with the options
  under which policies, entities and requests are checked.

  Key definitions include:
    * `Validator`
    * `Validator.ofFragment`
    * `Validator.ofJson`
    * `Validator.ofText`
    * `Validator.policyIssues`
    * `Validator.validatePolicies`
    * `Validator.validateEntities`
    * `Validator.validateRequest`
-/

namespace PolicyCheck

/- A schema and the options under which it is used. -/
structure Validator where
  schema : Schema
  options : Options
deriving Repr

namespace Validator

------------------------------------------------------------
-- Construction
------------------------------------------------------------

/- The validator of a schema that consists of one fragment. -/
def ofFragment
    (options : Options)
    (fragment : Fragment) : Except SchemaError Validator := do
  let schema ←
    Schema.build options.allowUnknownEntityTypes [fragment]
  .ok ⟨schema, options⟩

/- The validator of a schema document. -/
def ofJson
    (options : Options)
    (j : Json) : Except SchemaError Validator := do
  let fragment ← Fragment.ofJson j
  ofFragment options fragment

/- The validator of a schema text. -/
def ofText
    (options : Options)
    (text : String) : Except SchemaError Validator := do
  let fragment ← Fragment.ofText text
  ofFragment options fragment

------------------------------------------------------------
-- Policies
------------------------------------------------------------

variable (validator : Validator)

/- The checker of the conditions of a policy. -/
def checker
    (guard : Guard)
    (policy : Policy) : Checker :=
  ⟨validator.schema,
    Env.ofPolicy validator.schema policy,
    validator.options.maxAttributeLevel,
    guard⟩

/-
  All that is wrong with a policy: its scope, conditions
  that are never satisfied, and the types of conditions.
  Without an applicable action nothing else matters.
-/
def policyIssues
    (guard : Guard)
    (policy : Policy) : List Issue :=
  if validator.schema.hasApplicableAction then
    validator.schema.scopeIssues policy ++
      policy.impossibleConditions.map .impossible ++
      (validator.checker guard policy).checkConditions
        policy.conditions
  else
    [.impossible .noApplicableActions]

/- The diagnostics of policies, policy by policy. -/
def validatePolicies
    (guard : Guard)
    (policies : List Policy) : List Diagnostic :=
  policies.flatMap fun policy =>
    (validator.policyIssues guard policy).map fun issue =>
      ⟨policy.id, issue⟩

------------------------------------------------------------
-- Data
------------------------------------------------------------

/- The findings about entities, entity by entity. -/
def validateEntities
    (entities : List Entity) : List (EntityUid × Finding) :=
  entities.flatMap fun entity =>
    (validator.schema.checkEntity validator.options.mode entity).map
      fun finding => (entity.uid, finding)

/- Why a request is refused, if it is. -/
def validateRequest
    (request : Request) : Option Refusal :=
  validator.schema.checkRequest validator.options.mode request

end Validator

end PolicyCheck
