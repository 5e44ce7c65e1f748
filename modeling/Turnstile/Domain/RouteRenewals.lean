import Turnstile.Domain.ProgramUpgrades

/-!
# Approval renewals

A renewal extends the approval of a route's connection beyond the one that its member was
published with.  A renewal may be replaced by one of the same route, for the same connection,
that was issued no earlier and expires later; the proof of a program by one of another
identifier that was issued no earlier and expires later.
-/

namespace Turnstile

open Guard

/-- `RouteApprovalRenewal`. -/
structure RouteApprovalRenewal where
  scope : RouteScope
  contentSha256 : Sha256 RouteContent
  originalApprovalSha256 : Sha256 ConnectionApproval
  requiredProgramSha256 : Sha256 String
  budgetEpoch : UUID
  approval : ConnectionApproval
deriving DecidableEq

namespace RouteApprovalRenewal

/-- `require_current`. -/
def requireCurrent (renewal : RouteApprovalRenewal) (route : RouteContent) (member : RouteMember)
    (program : ProgramIdentity) (now : ℤ) : Except RouteError Unit := do
  require (renewal.scope = route.scope ∧ program.scope = route.scope ∧
      renewal.contentSha256 = route.sha256 ∧ member.contentSha256 = route.sha256 ∧
      renewal.originalApprovalSha256 = member.approvalSha256 ∧
      renewal.budgetEpoch = route.budgetEpoch ∧
      member.connectionApproval.issuedEpoch ≤ renewal.approval.issuedEpoch ∧
      member.connectionApproval.expiresEpoch < renewal.approval.expiresEpoch)
    (.value "ROUTE_APPROVAL_RENEWAL_BINDING_CHANGED")
  renewal.approval.requireCurrent route.connection now

/-- The checks of `publish_approval_renewal` on the renewal that is replaced. -/
structure Follows (renewal previous : RouteApprovalRenewal) : Prop where
  same : { renewal with approval := previous.approval } = previous
  connection : previous.approval.connection = renewal.approval.connection
  issued : previous.approval.issuedEpoch ≤ renewal.approval.issuedEpoch
  expires : previous.approval.expiresEpoch < renewal.approval.expiresEpoch

instance (renewal previous : RouteApprovalRenewal) : Decidable (renewal.Follows previous) :=
  decidable_of_iff
    ({ renewal with approval := previous.approval } = previous ∧
      previous.approval.connection = renewal.approval.connection ∧
      previous.approval.issuedEpoch ≤ renewal.approval.issuedEpoch ∧
      previous.approval.expiresEpoch < renewal.approval.expiresEpoch)
    ⟨fun ⟨h₁, h₂, h₃, h₄⟩ => ⟨h₁, h₂, h₃, h₄⟩, fun h => ⟨h.same, h.connection, h.issued, h.expires⟩⟩

end RouteApprovalRenewal

/-- The checks of `_publish_program_proof` on the proof that is replaced. -/
structure ProgramCapabilityProof.Follows (proof previous : ProgramCapabilityProof) : Prop where
  issued : previous.issuedEpoch ≤ proof.issuedEpoch
  expires : previous.expiresEpoch < proof.expiresEpoch
  other : proof.proofId ≠ previous.proofId

instance (proof previous : ProgramCapabilityProof) : Decidable (proof.Follows previous) :=
  decidable_of_iff (previous.issuedEpoch ≤ proof.issuedEpoch ∧
      previous.expiresEpoch < proof.expiresEpoch ∧ proof.proofId ≠ previous.proofId)
    ⟨fun ⟨h₁, h₂, h₃⟩ => ⟨h₁, h₂, h₃⟩, fun h => ⟨h.issued, h.expires, h.other⟩⟩

end Turnstile
