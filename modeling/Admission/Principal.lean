/-!
# Principals

Everything admitted is admitted for someone: a tenant, the agent that acts for it, and the policy
under which it does.
-/

namespace Admission

/-- On whose behalf something is admitted. -/
structure Principal where
  tenantId : String
  agentId : String
  policyId : String
  deriving DecidableEq, Repr

end Admission
