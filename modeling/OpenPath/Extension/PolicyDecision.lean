/-
# Policy decisions of the native host

What a check of the native host says about a domain, read from fields that may hold
anything, and when it permits sending a tab to the blocked screen.
-/

import OpenPath.Text.JavaScript
import OpenPath.Text.Json

namespace OpenPath.Extension

inductive PolicyDecision
  | allowed
  | blocked
  | unknown
  deriving DecidableEq, Repr

structure PolicyDecisionInput where
  error : Option Json
  policyActive : Option Json
  policyDecision : Option Json
  policyReason : Option Json
  policyVersion : Option Json

structure NormalizedPolicyDecision where
  active : Option Bool
  decision : PolicyDecision
  error : Option Text
  reason : Option Text
  version : Option Text

/-- A string that is not empty. -/
def nonemptyString : Option Json → Option Text
  | some (.string value) => if value.isEmpty then none else some value
  | _ => none

def normalizePolicyDecision (input : PolicyDecisionInput) : NormalizedPolicyDecision where
  active :=
    match input.policyActive with
    | some (.bool value) => some value
    | _ => none
  decision :=
    if Json.isText "allowed".toList input.policyDecision then .allowed
    else if Json.isText "blocked".toList input.policyDecision then .blocked
    else .unknown
  error := nonemptyString input.error
  reason := nonemptyString input.policyReason
  version := nonemptyString input.policyVersion

def permitsPolicyRedirect (verdict : NormalizedPolicyDecision) (expectedVersion : Option Text) :
    Bool :=
  verdict.active == some true && verdict.decision == .blocked && verdict.error == none &&
    verdict.reason != none && verdict.version != none &&
    (expectedVersion == none || verdict.version == expectedVersion)

end OpenPath.Extension
