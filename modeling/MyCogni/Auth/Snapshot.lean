import MyCogni.Auth.Operation

/-! What the durable state of the store has to satisfy before it is written and after it is read:
the checks of each record, and the conditions between records. -/

namespace MyCogni.Auth

def Store.Represents (s : Store) (actorId representedProfileId : OpaqueId) : Prop :=
  (s.actors.get? actorId).map (·.representedProfileId) = some representedProfileId

/-- The epoch is not from the future of its actor. -/
def Store.Reached (s : Store) (actorId : OpaqueId) (epoch : Nat) : Prop :=
  ∀ actor ∈ s.actors.get? actorId, epoch ≤ actor.epoch

def Store.RootBound (s : Store) (r : RootCapabilityRecord) : Prop :=
  s.installationActors.get? r.installationId = some (r.installationId, r.actorId) ∧
    s.Represents r.actorId r.representedProfileId

/-- A retained bootstrap that names a root finds it. -/
def Store.BootstrapBound (s : Store) (b : BootstrapRecord) : Prop :=
  s.Represents b.actorId b.representedProfileId ∧ ∀ rootId ∈ b.rootCapabilityId,
    ∃ root ∈ s.roots.get? rootId, b.rootPurpose = some root.purpose ∧ b.actorId = root.actorId ∧
      b.representedProfileId = root.representedProfileId

def Store.SessionBound (s : Store) (r : SessionRecord) : Prop :=
  s.Represents r.actorId r.representedProfileId ∧ s.Reached r.actorId r.epoch

def Store.RecoveryBound (s : Store) (r : RecoveryRecord) : Prop :=
  s.Represents r.actorId r.representedProfileId ∧ s.Reached r.actorId r.epoch

/-- The session under the handle, when it is retained, has these bindings. -/
def Store.SessionAgrees (s : Store) (handle actorId representedProfileId : OpaqueId) (epoch : Nat) :
    Prop :=
  ∀ session ∈ s.sessions.get? handle, actorId = session.actorId ∧
    representedProfileId = session.representedProfileId ∧ epoch = session.epoch

/-- A challenge that is not consumed finds its session. -/
def Store.StepUpBound (s : Store) (c : StepUpRecord) : Prop :=
  s.Represents c.actorId c.representedProfileId ∧ s.Reached c.actorId c.epoch ∧
    (s.sessions.get? c.sessionId = none → c.consumed = true) ∧
    s.SessionAgrees c.sessionId c.actorId c.representedProfileId c.epoch

def Store.GrantBound (s : Store) (g : AuthorityGrant) : Prop :=
  s.Represents g.actorId g.representedProfileId ∧ s.Reached g.actorId g.epoch ∧
    s.SessionAgrees g.sessionId g.actorId g.representedProfileId g.epoch ∧
    ∀ c ∈ s.stepUps.get? g.authorityEvidenceId, c.actorId = g.actorId ∧
      c.representedProfileId = g.representedProfileId ∧ c.sessionId = g.sessionId ∧
      c.epoch = g.epoch ∧ c.purpose = g.purpose ∧ c.scopes = g.scopes

/-- The bootstrap is one for a reprovision of the installation, and finds its root. -/
def Store.Reprovisions (s : Store) (installationId : OpaqueId) (b : BootstrapRecord) : Prop :=
  b.rootPurpose = some .reprovision ∧ ∃ rootId ∈ b.rootCapabilityId, ∃ root ∈ s.roots.get? rootId,
    root.purpose = .reprovision ∧ root.installationId = installationId ∧
      root.actorId = b.actorId ∧ root.representedProfileId = b.representedProfileId

/-- A ceremony that is not terminal finds its bootstrap. -/
def Store.CeremonyBound (s : Store) (c : ReprovisionCeremonyRecord) : Prop :=
  (s.compositionBindings.get? c.installationId).map (·.serviceHandle) = some c.serviceHandle ∧
    (s.bootstraps.get? c.bootstrapHandle = none → c.terminalAtUtc ≠ none) ∧
    ∀ b ∈ s.bootstraps.get? c.bootstrapHandle, s.Reprovisions c.installationId b

/-- The handles of the roots and of the operator and service identities. -/
def Store.authorityHandles (s : Store) : List OpaqueId :=
  s.roots.rows.map (·.handle) ++
    s.compositionBindings.rows.flatMap fun c => [c.operatorHandle, c.serviceHandle]

/-- Two roots of one installation for one purpose are not both unconsumed. -/
def Exclusive (r r' : RootCapabilityRecord) : Prop :=
  r.consumed = false → r'.consumed = false → r.installationId = r'.installationId →
    r.purpose ≠ r'.purpose

/-- `AuthStateSnapshotV1`. The keys of its collections are unique because a table's are. -/
structure Consistent (s : Store) : Prop where
  actorsOnce : (s.installationActors.rows.map Prod.snd).Nodup
  installed : ∀ i ∈ s.installationActors.rows,
    (s.actors.get? i.2).isSome ∧ (s.compositionBindings.get? i.1).isSome
  covered : ∀ actor ∈ s.actors.rows, actor.actorId ∈ s.installationActors.rows.map Prod.snd
  composed : ∀ c ∈ s.compositionBindings.rows, (s.installationActors.get? c.installationId).isSome
  roots : ∀ r ∈ s.roots.rows, s.RootBound r
  activeRoots : s.roots.rows.Pairwise Exclusive
  authorities : s.authorityHandles.Nodup
  bootstraps : ∀ b ∈ s.bootstraps.rows, s.BootstrapBound b
  sessions : ∀ r ∈ s.sessions.rows, s.SessionBound r
  recoveries : ∀ r ∈ s.recoveries.rows, s.RecoveryBound r
  stepUps : ∀ c ∈ s.stepUps.rows, s.StepUpBound c
  grants : ∀ p ∈ s.grantProvenance.rows, s.GrantBound p.grant
  ceremonies : ∀ c ∈ s.reprovisionCeremonies.rows, s.CeremonyBound c

/-- Every record passes the checks of its constructor. A copy made for the export repeats them;
grants and compositions are frozen and are not copied. -/
structure RecordsValid (s : Store) : Prop where
  actors : ∀ r ∈ s.actors.rows, r.Valid
  bootstraps : ∀ r ∈ s.bootstraps.rows, r.Valid
  sessions : ∀ r ∈ s.sessions.rows, r.Valid
  recoveries : ∀ r ∈ s.recoveries.rows, r.Valid
  stepUps : ∀ r ∈ s.stepUps.rows, r.Valid
  grants : ∀ r ∈ s.grantProvenance.rows, r.Valid
  compositions : ∀ r ∈ s.compositionBindings.rows, r.Valid
  ceremonies : ∀ r ∈ s.reprovisionCeremonies.rows, r.Valid

/-- `export_durable_state_v1` returns a snapshot. -/
structure Exportable (s : Store) : Prop where
  records : RecordsValid s
  consistent : Consistent s

/-! ### The conditions are decidable -/

section Decidable
variable (s : Store)

instance (a p : OpaqueId) : Decidable (s.Represents a p) := inferInstanceAs (Decidable (_ = _))

instance (a : OpaqueId) (n : Nat) : Decidable (s.Reached a n) :=
  inferInstanceAs (Decidable (∀ actor ∈ s.actors.get? a, n ≤ actor.epoch))

instance (r : RootCapabilityRecord) : Decidable (s.RootBound r) :=
  inferInstanceAs (Decidable (_ ∧ _))

instance (b : BootstrapRecord) : Decidable (s.BootstrapBound b) :=
  inferInstanceAs (Decidable (_ ∧ ∀ rootId ∈ b.rootCapabilityId,
    ∃ root ∈ s.roots.get? rootId, _ ∧ _ ∧ _))

instance (r : SessionRecord) : Decidable (s.SessionBound r) := inferInstanceAs (Decidable (_ ∧ _))

instance (r : RecoveryRecord) : Decidable (s.RecoveryBound r) := inferInstanceAs (Decidable (_ ∧ _))

instance (h a p : OpaqueId) (n : Nat) : Decidable (s.SessionAgrees h a p n) :=
  inferInstanceAs (Decidable (∀ session ∈ s.sessions.get? h, _ ∧ _ ∧ _))

instance (c : StepUpRecord) : Decidable (s.StepUpBound c) :=
  inferInstanceAs (Decidable (_ ∧ _ ∧ (_ → _) ∧ _))

instance (g : AuthorityGrant) : Decidable (s.GrantBound g) :=
  inferInstanceAs (Decidable (_ ∧ _ ∧ _ ∧
    ∀ c ∈ s.stepUps.get? g.authorityEvidenceId, _ ∧ _ ∧ _ ∧ _ ∧ _ ∧ _))

instance (i : OpaqueId) (b : BootstrapRecord) : Decidable (s.Reprovisions i b) :=
  inferInstanceAs (Decidable (_ ∧ ∃ rootId ∈ b.rootCapabilityId, ∃ root ∈ s.roots.get? rootId,
    _ ∧ _ ∧ _ ∧ _))

instance (c : ReprovisionCeremonyRecord) : Decidable (s.CeremonyBound c) :=
  inferInstanceAs (Decidable (_ ∧ (_ → _) ∧ ∀ b ∈ s.bootstraps.get? c.bootstrapHandle, _))

instance : DecidableRel Exclusive := fun r r' =>
  inferInstanceAs (Decidable (r.consumed = false → r'.consumed = false →
    r.installationId = r'.installationId → r.purpose ≠ r'.purpose))

instance : Decidable (Consistent s) :=
  decidable_of_iff (_ ∧ _ ∧ _ ∧ _ ∧ _ ∧ _ ∧ _ ∧ _ ∧ _ ∧ _ ∧ _ ∧ _ ∧ _)
    ⟨fun ⟨h₁, h₂, h₃, h₄, h₅, h₆, h₇, h₈, h₉, h₁₀, h₁₁, h₁₂, h₁₃⟩ =>
      ⟨h₁, h₂, h₃, h₄, h₅, h₆, h₇, h₈, h₉, h₁₀, h₁₁, h₁₂, h₁₃⟩,
    fun ⟨h₁, h₂, h₃, h₄, h₅, h₆, h₇, h₈, h₉, h₁₀, h₁₁, h₁₂, h₁₃⟩ =>
      ⟨h₁, h₂, h₃, h₄, h₅, h₆, h₇, h₈, h₉, h₁₀, h₁₁, h₁₂, h₁₃⟩⟩

instance : Decidable (RecordsValid s) :=
  decidable_of_iff (_ ∧ _ ∧ _ ∧ _ ∧ _ ∧ _ ∧ _ ∧ _)
    ⟨fun ⟨h₁, h₂, h₃, h₄, h₅, h₆, h₇, h₈⟩ => ⟨h₁, h₂, h₃, h₄, h₅, h₆, h₇, h₈⟩,
    fun ⟨h₁, h₂, h₃, h₄, h₅, h₆, h₇, h₈⟩ => ⟨h₁, h₂, h₃, h₄, h₅, h₆, h₇, h₈⟩⟩

instance : Decidable (Exportable s) :=
  decidable_of_iff (_ ∧ _) ⟨fun ⟨h₁, h₂⟩ => ⟨h₁, h₂⟩, fun ⟨h₁, h₂⟩ => ⟨h₁, h₂⟩⟩

end Decidable

end MyCogni.Auth
