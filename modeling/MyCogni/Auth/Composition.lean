import MyCogni.Auth.Pinned
import MyCogni.Auth.Service

/-! Opening an installation over its custody bundle. The store must still hold the three roots of the
bundle, and no call with static roots removes one; only the collection of consumed roots does. -/

namespace MyCogni.Auth
open Command

/-! ### The bundle and the store -/

/-- `bool(self._installation_actors)` -/
def Store.authStateExists (s : Store) : Bool := !s.installationActors.rows.isEmpty

/-- The record of a root, as provisioning writes it. -/
def AuthCustodyBinding.record (binding : AuthCustodyBinding) (root : RootCapability) :
    RootCapabilityRecord where
  handle := root.credential.handle
  installationId := binding.installationId
  actorId := binding.actorId
  representedProfileId := binding.representedProfileId
  purpose := root.purpose
  digest := root.credential.digest

/-- The composition record under which the bundle is provisioned. -/
def AuthCustodyBundle.composition (b : AuthCustodyBundle) : CompositionBindingRecord where
  installationId := b.binding.installationId
  operatorHandle := b.operatorAuthority.handle
  operatorDigest := b.operatorAuthority.digest
  serviceHandle := b.serviceIdentity.handle
  serviceDigest := b.serviceIdentity.digest

/-- The record is the root's, and its reprovision root is not consumed. -/
def RootCapabilityRecord.Confirms (record : RootCapabilityRecord) (binding : AuthCustodyBinding)
    (root : RootCapability) : Prop :=
  record.installationId = binding.installationId ∧ record.actorId = binding.actorId ∧
    record.representedProfileId = binding.representedProfileId ∧ record.purpose = root.purpose ∧
    record.digest = root.credential.digest ∧
    ¬(root.purpose = .reprovision ∧ record.consumed = true)

instance (record : RootCapabilityRecord) (binding : AuthCustodyBinding) (root : RootCapability) :
    Decidable (record.Confirms binding root) := inferInstanceAs (Decidable (_ ∧ _ ∧ _ ∧ _ ∧ _ ∧ ¬_))

def Store.verifyLoadedComposition (s : Store) (bundle : AuthCustodyBundle) : Bool :=
  let binding := bundle.binding
  decide ((s.installationActors.get? binding.installationId).map Prod.snd = some binding.actorId) &&
  (s.actors.get? binding.actorId).any
    (fun actor => actor.representedProfileId = binding.representedProfileId) &&
  (s.compositionBindings.get? binding.installationId).any
    (fun composition => composition.operatorHandle = bundle.operatorAuthority.handle ∧
      composition.operatorDigest = bundle.operatorAuthority.digest ∧
      composition.serviceHandle = bundle.serviceIdentity.handle ∧
      composition.serviceDigest = bundle.serviceIdentity.digest) &&
  bundle.roots.all fun root => (s.roots.get? root.credential.handle).any (·.Confirms binding root)

/-! ### Opening and provisioning -/

/-- The three roots that are handed to the operator. -/
structure RootAuthorityBundle where
  initialBootstrap : RootCapability
  emergencyRevoke : RootCapability
  reprovision : RootCapability
  purposes : [initialBootstrap, emergencyRevoke, reprovision].map RootCapability.purpose =
    RootPurpose.all

structure CustodiedAuthComposition where
  service : AuthService
  roots : RootAuthorityBundle
  operatorAuthority : OpaqueCredential

def AuthCustodyBundle.compose (b : AuthCustodyBundle) : CustodiedAuthComposition where
  service := ⟨.default, b.operatorAuthority, b.serviceIdentity, .custodiedStaticRoots⟩
  roots := ⟨b.initialBootstrap, b.emergencyRevoke, b.reprovision, b.purposes⟩
  operatorAuthority := b.operatorAuthority

/-- `_compose` -/
def compose (bundle : AuthCustodyBundle) (s : Store) :
    Except CustodyFault CustodiedAuthComposition := do
  ensure (s.verifyLoadedComposition bundle = true) (.custody .bindingMismatch)
  pure bundle.compose

/-- `status` and `load` are the answers of the custody file. -/
def openCustodiedAuth (status : AuthCustodyStatus) (load : Except CustodyFault AuthCustodyBundle)
    (s : Store) : Except CustodyFault CustodiedAuthComposition := do
  ensure (status = .ready ∧ s.authStateExists = true) (.custody .recoveryRequired)
  let bundle ← load
  compose bundle s

/-- The five credentials that are drawn for a bundle, in their order. -/
structure Minted where
  operatorAuthority : Drawn
  serviceIdentity : Drawn
  initialBootstrap : Drawn
  emergencyRevoke : Drawn
  reprovision : Drawn

def mintAuthCustodyBundle (binding : AuthCustodyBinding) (drawn : Minted) :
    Except CustodyFault AuthCustodyBundle :=
  let root (material : Drawn) (purpose : RootPurpose) : RootCapability :=
    ⟨material.credential, binding.installationId, binding.actorId, binding.representedProfileId,
      purpose⟩
  AuthCustodyBundle.make binding 1 drawn.operatorAuthority.credential
    drawn.serviceIdentity.credential
    (root drawn.initialBootstrap .initialBootstrap) (root drawn.emergencyRevoke .emergencyRevoke)
    (root drawn.reprovision .reprovision)

/-- What provisioning raises. -/
inductive ProvisionFault where
  | custody (f : CustodyFault)
  | store (h : Halt)
deriving DecidableEq

/-- A step of provisioning that only reads, and may raise. -/
def raising {α : Type} (r : Except CustodyFault α) : Command Store ProvisionFault α := fun s =>
  (r.mapError .custody, s)

/-- `self._store.initialize_installation(...)` with the records of a bundle. -/
def initializeBundle (b : AuthCustodyBundle) (now : Datetime) : Decision Unit :=
  initializeInstallation b.binding.installationId b.binding.actorId b.binding.representedProfileId
    (b.roots.map b.binding.record) ⟨b.operatorAuthority.handle, b.operatorAuthority.digest⟩
    ⟨b.serviceIdentity.handle, b.serviceIdentity.digest⟩ now

/-- `provisionEmpty` is the answer of the custody file. -/
def provisionCustodiedAuth (binding : AuthCustodyBinding) (drawn : Minted)
    (provisionEmpty : Except CustodyFault Unit) (now : Datetime) :
    Command Store ProvisionFault CustodiedAuthComposition := do
  let s ← read
  require (s.authStateExists = false) (.custody (.custody .alreadyProvisioned))
  let bundle ← raising (mintAuthCustodyBundle binding drawn)
  raising provisionEmpty
  consultAs .store (initializeBundle bundle now)
  let s ← read
  raising (compose bundle s)

/-! ### Roots that stay -/

/-- The root stays as it is, or is consumed although it does not reprovision. -/
def RootCapabilityRecord.Spared (r r' : RootCapabilityRecord) : Prop :=
  r' = r ∨ r.consumed = false ∧ r.purpose ≠ .reprovision ∧ ∃ t, r' = r.spend t

theorem RootCapabilityRecord.Spared.refl (r : RootCapabilityRecord) : r.Spared r := Or.inl rfl

theorem RootCapabilityRecord.Spared.trans (a b c : RootCapabilityRecord) (h : a.Spared b)
    (h' : b.Spared c) : a.Spared c := by
  rcases h with rfl | ⟨hlive, hpurpose, t, rfl⟩
  · exact h'
  · rcases h' with rfl | ⟨hlive', -⟩
    · exact Or.inr ⟨hlive, hpurpose, t, rfl⟩
    · exact nomatch hlive'

def SparesRoots (s s' : Store) : Prop := Table.Keeps RootCapabilityRecord.Spared s.roots s'.roots

theorem sparesRoots_of_same {s s' : Store} (h : s'.roots = s.roots) : SparesRoots s s' := by
  unfold SparesRoots
  rw [h]
  exact Table.keeps_refl .refl

instance : Frame SparesRoots where
  refl _ := sparesRoots_of_same rfl
  trans _ _ _ h h' := Table.Keeps.trans .trans h h'
  putBootstrap _ _ := sparesRoots_of_same rfl
  putSession _ _ := sparesRoots_of_same rfl
  spendBootstraps _ _ _ := sparesRoots_of_same rfl
  revokeSessions _ _ _ := sparesRoots_of_same rfl
  rest _ _ h _ _ _ _ := sparesRoots_of_same h

theorem sparesRoots_spend {s : Store} {r : RootCapabilityRecord} (now : Datetime)
    (found : s.roots.get? r.handle = some r) (live : r.consumed = false)
    (purpose : r.purpose ≠ .reprovision) : SparesRoots s (s.putRoot (r.spend now)) := by
  refine Table.keeps_put .refl fun r' hr' => ?_
  obtain rfl : r = r' := Option.some.inj (found.symm.trans hr')
  exact Or.inr ⟨live, purpose, now, rfl⟩

section Calls
variable {now : Datetime}

theorem claimRoot_spares {b : BootstrapRecord} (h : b.rootPurpose ≠ some .reprovision)
    (actor : ActorRecord) : Steadies SparesRoots (claimRoot b actor now) := by
  refine respects_of_wp fun s => wp_claimRoot (fun _ => Frame.refl s) fun hopen => ?_
  unfold Store.claimed
  cases hid : b.rootCapabilityId with
  | none => exact Frame.refl s
  | some rootId =>
    obtain ⟨root, hfound, hlive, hpurpose, -⟩ := hopen rootId hid
    have hkey : root.handle = rootId := Table.key_of_get? hfound
    rw [Option.bind_some, hfound]
    refine Frame.trans _ _ _ (sparesRoots_spend now (hkey ▸ hfound) hlive fun hrep => ?_)
      (sparesRoots_of_same rfl)
    exact h (by rw [← hpurpose, hrep])

theorem Steadies.guard {α : Type} {R : Store → Store → Prop} [Frame R] {c : Prop} [Decidable c]
    {e : Halt} {f : Unit → Decision α} (h : c → Steadies R (f ())) :
    Steadies R (require c e >>= f) := by
  by_cases hc : c
  · intro s
    rw [bind_ok (require_pos hc e s)]
    exact h hc s
  · intro s
    rw [bind_error (require_neg hc e s)]
    exact Frame.refl s

theorem exchangeBootstrap_spares (handle : OpaqueId) (d : SecretDigest) (session : SessionRecord)
    (recovery : RecoveryRecord) (replacement : RootCapabilityIssue) :
    Steadies SparesRoots (exchangeBootstrap handle d now session recovery replacement) :=
  steadies_read.bind fun _ => (steadies_demand _ _).bind fun record => Steadies.guard fun hpurpose =>
    (observe_steady _).bind fun _ => (presentOnce_steady record.save_steady).bind fun _ =>
    steadies_read.bind fun _ => (steadies_demand _ _).bind fun _ =>
    (claimRoot_spares hpurpose _).bind fun _ => (record.save_steady _).bind fun _ =>
    (crashIfArmed_steady _).bind fun _ => (issueAuthority_steady _ _).bind fun _ =>
    (steadies_require _ _).bind fun _ => steadies_pure _

theorem emergencyRevoke_spares (root : RootCapability) (d : SecretDigest) :
    Steadies SparesRoots (emergencyRevoke root d now) := by
  refine respects_of_wp fun s => ?_
  simp only [emergencyRevoke, consumeRoot, advanceEpoch, retireActorAuthority, wp_bind, wp_read,
    wp_demand, wp_write, wp_pure]
  refine wp_validateRootLocked (fun _ => Frame.refl s) fun r hroot hpurpose => ?_
  refine wp_observe (fun _ => Frame.refl s) fun actor hactor => ?_
  have hkey : r.handle = root.credential.handle := Table.key_of_get? hroot.found
  have hspent : SparesRoots s (s.putRoot (r.spend now)) := by
    refine sparesRoots_spend now (hkey ▸ hroot.found) hroot.live fun hrep => ?_
    rw [List.mem_singleton.mp hpurpose] at hrep
    cases hrep
  exact ⟨fun _ _ => hspent, fun _ => hspent⟩

end Calls

theorem Op.IsStatic.routine {op : Op} (h : op.IsStatic) : op.IsRoutine := by
  cases op <;> first | exact h | exact trivial

theorem apply_spares {op : Op} (h : op.IsStatic) (s : Store) : SparesRoots s (apply s op).2 := by
  by_cases hroots : op.ConsumesRoots
  · cases op with
    | exchangeBootstrap handle d now session recovery replacement =>
      exact Steadies.bind (exchangeBootstrap_spares _ _ _ _ _) (fun _ => steadies_pure _) s
    | emergencyRevoke root d now =>
      exact Steadies.bind (emergencyRevoke_spares _ _) (fun _ => steadies_pure _) s
    | exchangeReprovisionBootstrap => exact h.elim
    | _ => exact hroots.elim
  · exact sparesRoots_of_same (apply_sameRoots h.routine hroots s)

/-! ### What the bundle needs of the store -/

/-- The store holds everything that the bundle was provisioned with, its reprovision root live. -/
structure Provisioned (b : AuthCustodyBundle) (s : Store) : Prop where
  installation : OfInstallation s b.binding.installationId b.binding.actorId
  actor : ∃ actor, s.actors.get? b.binding.actorId = some actor ∧
    actor.representedProfileId = b.binding.representedProfileId
  composition : s.compositionBindings.get? b.binding.installationId = some b.composition
  roots : ∀ root ∈ b.roots, ∃ record, s.roots.get? root.credential.handle = some record ∧
    (b.binding.record root).Spared record

section Provisioned
variable {b : AuthCustodyBundle} {s s' : Store}

theorem confirms_of_spared {root : RootCapability} {record : RootCapabilityRecord}
    (h : (b.binding.record root).Spared record) : record.Confirms b.binding root := by
  rcases h with rfl | ⟨-, hpurpose, t, rfl⟩
  · exact ⟨rfl, rfl, rfl, rfl, rfl, fun h => nomatch h.2⟩
  · exact ⟨rfl, rfl, rfl, rfl, rfl, fun h => hpurpose h.1⟩

theorem Provisioned.verifies (h : Provisioned b s) : s.verifyLoadedComposition b = true := by
  have hinstallation : s.installationActors.get? b.binding.installationId =
      some (b.binding.installationId, b.binding.actorId) := h.installation
  obtain ⟨actor, hactor, hprofile⟩ := h.actor
  have hroots : ∀ root ∈ b.roots,
      (s.roots.get? root.credential.handle).any (·.Confirms b.binding root) = true := by
    intro root hroot
    obtain ⟨record, hrecord, hspared⟩ := h.roots root hroot
    rw [hrecord]
    exact decide_eq_true (confirms_of_spared hspared)
  unfold Store.verifyLoadedComposition
  simp only [hinstallation, hactor, h.composition, Bool.and_eq_true, List.all_eq_true]
  refine ⟨⟨⟨decide_eq_true rfl, decide_eq_true hprofile⟩, ?_⟩, hroots⟩
  exact decide_eq_true ⟨rfl, rfl, rfl, rfl⟩

theorem Provisioned.exists (h : Provisioned b s) : s.authStateExists = true := by
  have hmem := (Table.get?_eq_some.mp (show s.installationActors.get? b.binding.installationId =
    some (b.binding.installationId, b.binding.actorId) from h.installation)).1
  unfold Store.authStateExists
  cases hrows : s.installationActors.rows with
  | nil =>
    rw [hrows] at hmem
    exact nomatch hmem
  | cons pair rows => rfl

theorem Provisioned.opens (h : Provisioned b s) :
    openCustodiedAuth .ready (.ok b) s = .ok b.compose := by
  have hcompose : compose b s = .ok b.compose :=
    bind_eq_ok_iff.mpr ⟨(), ensure_ok h.verifies _, rfl⟩
  exact bind_eq_ok_iff.mpr ⟨(), ensure_ok ⟨rfl, h.exists⟩ _, hcompose⟩

/-- Without one of its roots the bundle is refused. -/
theorem verify_of_missing {root : RootCapability} (hroot : root ∈ b.roots)
    (h : s.roots.get? root.credential.handle = none) : s.verifyLoadedComposition b = false := by
  unfold Store.verifyLoadedComposition
  rw [Bool.and_eq_false_iff]
  right
  rw [List.all_eq_false]
  refine ⟨root, hroot, ?_⟩
  rw [h]
  exact Bool.false_ne_true

theorem Provisioned.static (h : Provisioned b s) {op : Op} (hop : op.IsStatic) :
    Provisioned b (apply s op).2 := by
  have hsteady := apply_steady hop.routine s
  obtain ⟨actor, hactor, hprofile⟩ := h.actor
  obtain ⟨actor', hactor', hages⟩ := (apply_moves s op).actors _ _ hactor
  refine ⟨?_, ⟨actor', hactor', hages.profile.trans hprofile⟩, ?_, fun root hroot => ?_⟩
  · unfold OfInstallation
    rw [hsteady.installations]
    exact h.installation
  · rw [hsteady.compositions]
    exact h.composition
  · obtain ⟨record, hrecord, hspared⟩ := h.roots root hroot
    obtain ⟨record', hrecord', hspared'⟩ := apply_spares hop s _ _ hrecord
    exact ⟨record', hrecord', hspared.trans _ _ _ hspared'⟩

/-! ### Collection -/

/-- The request collects a consumed root of the bundle, one that was retired for the retention. -/
def CollectsRoot (b : AuthCustodyBundle) (s : Store) (r : Request) : Prop :=
  ∃ now retention, r.collects = some (now, retention) ∧ RetentionOk retention ∧
    ∃ root ∈ b.roots, ∃ record, s.roots.get? root.credential.handle = some record ∧
      record.consumed = true ∧ ∃ t, record.retiredAtUtc = some t ∧
        due now retention.toNat t = true

theorem retired_some (now t : Datetime) (n : Nat) : retired now n (some t) none = due now n t := by
  rw [retired, Option.any_some, Option.any_none, Bool.or_false]

/-- A root of the bundle is collected exactly when it is consumed and was retired for long enough. -/
theorem Provisioned.collected (h : Provisioned b s) {root : RootCapability} (hroot : root ∈ b.roots)
    (now : Datetime) (n : Nat) :
    ∃ record, s.roots.get? root.credential.handle = some record ∧
      (b.binding.record root).Spared record ∧
      ((record.consumed = true ∧ ∃ t, record.retiredAtUtc = some t ∧ due now n t = true) ↔
        retired now n record.retiredAtUtc none = true) := by
  obtain ⟨record, hrecord, hspared⟩ := h.roots root hroot
  refine ⟨record, hrecord, hspared, ?_⟩
  rcases hspared with rfl | ⟨-, -, t, rfl⟩
  · constructor
    · rintro ⟨hconsumed, -⟩
      exact nomatch hconsumed
    · intro hretired
      exact nomatch hretired
  · constructor
    · rintro ⟨-, t', ht', hdue⟩
      obtain rfl : t = t' := Option.some.inj ht'
      exact (retired_some now t n).trans hdue
    · intro hretired
      refine ⟨rfl, t, rfl, ?_⟩
      rw [← retired_some]
      exact hretired

theorem get?_collected (s : Store) (now : Datetime) {retention : Int} (h : RetentionOk retention)
    (k : OpaqueId) : (apply s (.garbageCollect now retention)).2.roots.get? k =
      (s.roots.get? k).filter fun r => !retired now retention.toNat r.retiredAtUtc none := by
  rw [apply_garbageCollect now h]
  exact Table.get?_filter _ _ _

theorem Provisioned.collect (h : Provisioned b s) {now : Datetime} {retention : Int}
    (hkept : RetentionOk retention → ∀ root ∈ b.roots, ∀ record,
      s.roots.get? root.credential.handle = some record →
        ¬(record.consumed = true ∧ ∃ t, record.retiredAtUtc = some t ∧
          due now retention.toNat t = true)) :
    Provisioned b (apply s (.garbageCollect now retention)).2 := by
  by_cases hretention : RetentionOk retention
  · have hstate := apply_garbageCollect (s := s) now hretention
    refine ⟨?_, ?_, ?_, fun root hroot => ?_⟩
    · rw [hstate]
      exact h.installation
    · rw [hstate]
      exact h.actor
    · rw [hstate]
      exact h.composition
    · obtain ⟨record, hrecord, hspared, hiff⟩ := h.collected hroot now retention.toNat
      have hstays : retired now retention.toNat record.retiredAtUtc none = false :=
        Bool.eq_false_iff.mpr fun hretired =>
          hkept hretention root hroot record hrecord (hiff.mpr hretired)
      refine ⟨record, ?_, hspared⟩
      rw [get?_collected s now hretention, hrecord, Option.filter_some, hstays]
      rfl
  · rw [apply_garbageCollect_refused now hretention]
    exact h

/-! ### Requests -/

variable {sv : AuthService}

theorem Provisioned.serve (h : Provisioned b s) (hmode : sv.mode = .custodiedStaticRoots) {r : Request}
    (hr : ¬CollectsRoot b s r) : Provisioned b (sv.serve s r).2 := by
  cases hcollects : r.collects with
  | none =>
    rcases serve_static hmode hcollects s with heq | ⟨op, hop, heq⟩
    · rw [heq]
      exact h
    · rw [heq]
      exact h.static hop
  | some call =>
    obtain ⟨now, retention⟩ := call
    have hcall : r = .garbageCollect now retention := by
      cases r <;> cases hcollects
      rfl
    subst hcall
    rw [serve_collect]
    exact h.collect fun hretention root hroot record hrecord hdue =>
      hr ⟨now, retention, rfl, hretention, root, hroot, record, hrecord, hdue⟩

theorem Provisioned.serve_collected (h : Provisioned b s) {r : Request} (hr : CollectsRoot b s r) :
    (sv.serve s r).2.verifyLoadedComposition b = false := by
  obtain ⟨now, retention, hcollects, hretention, root, hroot, record, hrecord, hdue⟩ := hr
  have hcall : r = .garbageCollect now retention := by
    cases r <;> cases hcollects
    rfl
  subst hcall
  rw [serve_collect]
  obtain ⟨record', hrecord', -, hiff⟩ := h.collected hroot now retention.toNat
  obtain rfl : record = record' := Option.some.inj (hrecord.symm.trans hrecord')
  refine verify_of_missing hroot ?_
  rw [get?_collected s now hretention, hrecord, Option.filter_some, hiff.mp hdue]
  rfl

/-- In every state of the run the bundle is verified and opens the installation. -/
def StaysOpen (b : AuthCustodyBundle) (sv : AuthService) (s : Store) (requests : List Request) :
    Prop :=
  ∀ pre post, requests = pre ++ post →
    (run sv.serve s pre).verifyLoadedComposition b = true ∧
      openCustodiedAuth .ready (.ok b) (run sv.serve s pre) = .ok b.compose

theorem Provisioned.run (h : Provisioned b s) (hmode : sv.mode = .custodiedStaticRoots)
    (requests : List Request) :
    StaysOpen b sv s requests ↔ ∀ pre r post, requests = pre ++ r :: post →
      ¬CollectsRoot b (run sv.serve s pre) r := by
  induction requests generalizing s with
  | nil =>
    constructor
    · intro _ pre r post hsplit
      exact nomatch List.append_eq_nil_iff.mp hsplit.symm
    · intro _ pre post hsplit
      obtain ⟨rfl, rfl⟩ := List.append_eq_nil_iff.mp hsplit.symm
      exact ⟨h.verifies, h.opens⟩
  | cons r rest ih =>
    by_cases hr : CollectsRoot b s r
    · -- The bundle is refused right after the request.
      constructor
      · intro hopen
        have hafter := (hopen [r] rest rfl).1
        rw [run_cons, run_nil, h.serve_collected hr] at hafter
        exact nomatch hafter
      · intro hnone
        exact absurd hr (hnone [] r rest rfl)
    · have hih := ih (h.serve hmode hr)
      constructor
      · intro hopen pre r' post hsplit
        cases pre with
        | nil =>
          obtain ⟨rfl, rfl⟩ := List.cons.inj hsplit
          exact hr
        | cons x pre =>
          obtain ⟨rfl, rfl⟩ := List.cons.inj hsplit
          refine hih.mp (fun pre' post' hsplit' => ?_) pre r' post rfl
          exact hopen (r :: pre') post' (congrArg (r :: ·) hsplit')
      · intro hnone pre post hsplit
        cases pre with
        | nil => exact ⟨h.verifies, h.opens⟩
        | cons x pre =>
          obtain ⟨rfl, rfl⟩ := List.cons.inj hsplit
          refine hih.mpr (fun pre' r' post' hsplit' => ?_) pre post rfl
          exact hnone (r :: pre') r' post' (congrArg (r :: ·) hsplit')

end Provisioned

namespace Sample

def drawn (n : UInt8) : Drawn := ⟨⟨id n, List.replicate 32 n⟩, rfl⟩

def binding : AuthCustodyBinding := ⟨id 1, id 2, id 3⟩

def minted : Minted := ⟨drawn 14, drawn 15, drawn 11, drawn 12, drawn 13⟩

def mintedRoot (n : UInt8) (purpose : RootPurpose) : RootCapability :=
  ⟨(drawn n).credential, id 1, id 2, id 3, purpose⟩

def bundle : AuthCustodyBundle where
  binding := binding
  generation := 1
  operatorAuthority := (drawn 14).credential
  serviceIdentity := (drawn 15).credential
  initialBootstrap := mintedRoot 11 .initialBootstrap
  emergencyRevoke := mintedRoot 12 .emergencyRevoke
  reprovision := mintedRoot 13 .reprovision
  generation_range := by decide
  purposes := rfl
  bound := by decide
  handles := by decide
  secrets := by decide

def provisioned : Store := (provisionCustodiedAuth binding minted (.ok ()) (time 0) Store.empty).2

/-- The operator begins and exchanges the initial bootstrap, and the store is collected at once. -/
def firstUse : List Request :=
  [.beginBootstrap (mintedRoot 11 .initialBootstrap) (time 10) (drawn 16),
    .exchangeBootstrap (drawn 16).credential (time 20) ⟨drawn 21, drawn 22, drawn 23, id 4⟩,
    .garbageCollect (time 30) 0]

def served : Store := run bundle.compose.service.serve provisioned firstUse

end Sample

end MyCogni.Auth
