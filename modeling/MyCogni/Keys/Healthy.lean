import MyCogni.Keys.Nonces
import MyCogni.Keys.Success

/-! A process whose service has been composed, while the key file, the sources of randomness and the
disk do not fail. -/

namespace MyCogni.Keys
open Auth Command

/-! ### Units of work -/

section UnitOfWork
variable {α : Type} {needs : Runtime} {report : Failure → Raised × Bool} {commit : Commit}
  {t : Transaction α} {n : Node}

theorem unitOfWork_ok {a : α} {db : Database} (hr : n.runtime = needs)
    (h : transact commit t n.durable = (.ok a, db)) :
    unitOfWork needs report commit t n = (.ok a, { n with durable := db }) := by
  unfold unitOfWork
  rw [if_pos hr, h]

/-- A failure that changes nothing and is not latched. -/
theorem unitOfWork_refused {e : Failure} (hr : n.runtime = needs)
    (h : transact commit t n.durable = (.error e, n.durable)) (hreport : (report e).2 = false) :
    unitOfWork needs report commit t n = (.error (.raised (report e).1), n) := by
  unfold unitOfWork
  rw [if_pos hr, h]
  dsimp only
  rw [hreport]
  rfl

/-- A publication that reaches the disk is recorded. -/
theorem publishProfileKey_node {id : OpaqueId} {preparation : ProfileKeyPreparation}
    {w : WrappedProfileKey} {db : Database} (hr : n.runtime = .accepting)
    (h : transact commit (Keys.publishProfileKey id preparation w) n.durable = (.ok (), db))
    (hne : db ≠ n.durable) :
    Node.publishProfileKey id preparation w commit n =
      (.ok (), { n with durable := db, published := n.published ++ [w] }) := by
  unfold Node.publishProfileKey
  rw [unitOfWork_ok hr h]
  dsimp only
  rw [if_neg hne]

theorem session_opens (body : Act α) : Provider.session .opens body = body := rfl

end UnitOfWork

/-! ### Published keys on the disk -/

/-- A catalog covers one binding of a profile. -/
theorem KeyCatalogIdentity.Covers.eq {identity : KeyCatalogIdentity} {b b' : ProfileKeyBinding}
    (h : identity.Covers b) (h' : identity.Covers b') (hprofile : b.profile = b'.profile) : b = b' := by
  have hid := congrArg Prod.fst hprofile
  have hversion := congrArg Prod.snd hprofile
  obtain ⟨hinstallation, hschema⟩ := h
  obtain ⟨hinstallation', hschema'⟩ := h'
  cases b with
  | mk installation profile version schema _ _ =>
    cases b' with
    | mk installation' profile' version' schema' _ _ =>
      cases (hid : profile = profile')
      cases (hversion : version = version')
      cases (hinstallation.trans hinstallation'.symm : installation = installation')
      cases (hschema.trans hschema'.symm : schema = schema')
      rfl

section Published
variable {key : Bytes} {n : Node}

/-- The tables give back the record that was published. -/
theorem Sound.readProfileKey (hs : Sound key n) {w : WrappedProfileKey} (hw : w ∈ n.published) :
    ∃ row, n.durable.catalog = some row ∧ row.identity.Covers w.binding ∧
      ∀ s : KeyCatalogSnapshot, s.identity = row.identity →
        n.durable.readProfileKey s w.binding = .ok (some w) := by
  obtain ⟨k, hk, row, hcatalog, hcovers, hkek, hprofile, henvelope, r, hr, hid, hnonce⟩ :=
    hs.stored w hw
  have hledger := hs.wellFormed.ledger hcatalog
  refine ⟨row, hcatalog, hcovers, fun s hidentity => ?_⟩
  have hcommitted : r.lifecycle = .committed := by
    obtain ⟨-, -, r', hr', hid', hcommitted, -⟩ := hledger.bound k hk
    rw [List.inj_on_of_nodup_map hledger.ids hr hr' (hid.trans hid'.symm)]
    exact hcommitted
  have hfound : n.durable.reservation k.reservationId = some r := by
    rw [← hid]
    exact Database.reservation_of_mem hledger.ids hr
  unfold Database.readProfileKey
  rw [Database.profileRow_of_mem hledger.wrappedProfiles hk hprofile]
  dsimp only
  rw [hfound]
  dsimp only
  rw [if_neg (not_not.mpr hcommitted), hidentity, hnonce, henvelope, ← hkek]

/-- A catalog with a published key has been active. -/
theorem Sound.loadSnapshot (hs : Sound key n) {w : WrappedProfileKey} (hw : w ∈ n.published) :
    ∃ row s, n.durable.catalog = some row ∧ n.durable.loadSnapshot = .ok s ∧
      s.identity = row.identity ∧ s.state = row.state := by
  obtain ⟨k, hk, row, hcatalog, -⟩ := hs.stored w hw
  obtain ⟨s, hload, hidentity, hstate, -⟩ := (hs.wellFormed.ledger hcatalog).loadSnapshot hcatalog
    fun _ => Option.ne_none_iff_isSome.mpr (hs.finished w hw)
  exact ⟨row, s, hcatalog, hload, hidentity, hstate⟩

/-- The two readers return the record that was published. -/
theorem Sound.reconcile (hs : Sound key n) (hruntime : n.runtime = .reconciling)
    {w : WrappedProfileKey} (hw : w ∈ n.published) :
    Node.reconcileProfileKey w.binding .known n = (.ok (some w), n) := by
  obtain ⟨row, hcatalog, hcovers, hread⟩ := hs.readProfileKey hw
  obtain ⟨row', s, hcatalog', hload, hidentity, -⟩ := hs.loadSnapshot hw
  cases hcatalog.symm.trans hcatalog'
  rw [← hidentity] at hcovers
  refine unitOfWork_ok hruntime ?_
  unfold transact reconcileProfileKey
  rw [bind_ok (@start_ok ⟨n.durable, n.durable, .known⟩ nofun), bind_ok (query_ok hload),
    bind_ok (require_pos (show _ ∧ _ from hcovers) _ _), query_ok (hread s hidentity)]

theorem Sound.load (hs : Sound key n) (hruntime : n.runtime = .accepting)
    (hactive : n.durable.state = some .active) {w : WrappedProfileKey} (hw : w ∈ n.published) :
    Node.loadProfileKey w.binding .known n = (.ok (some w), n) := by
  obtain ⟨row, hcatalog, hcovers, hread⟩ := hs.readProfileKey hw
  obtain ⟨row', s, hcatalog', hload, hidentity, hstate⟩ := hs.loadSnapshot hw
  cases hcatalog.symm.trans hcatalog'
  rw [← hidentity] at hcovers
  rw [Database.state, hcatalog, Option.map_some, ← hstate] at hactive
  refine unitOfWork_ok hruntime ?_
  unfold transact loadProfileKey
  rw [bind_ok (@start_ok ⟨n.durable, n.durable, .known⟩ (fun h => by cases h)), bind_ok (query_ok hload),
    bind_ok (assertActiveBinding_ok (Option.some.inj hactive) hcovers), query_ok (hread s hidentity)]

end Published

/-! ### Healthy processes -/

/-- The service is ready: its provider `p`, the nonces `w` of the process, the catalog `row`. -/
structure Healthy (key : Bytes) (n : Node) (p : Provider) (w : WrapState) (row : CatalogRow) :
    Prop where
  sound : Sound key n
  accepting : n.runtime = .accepting
  provider : n.provider = some p
  wrap : n.wrap = some w
  catalog : n.durable.catalog = some row
  identity : row.identity = p.identity
  active : row.state = .active
  unlatched : p.recoveryLatched = false
  pinned : p.pinned = true
  activated : p.activated = true
  authentic : AesGcm.decrypt key p.sentinelNonce.bytes p.sentinel.envelope.ciphertext
    p.sentinelAad = some readinessPlaintext
  fresh : w.nonceReuseLatched = false
  apart : p.sentinelNonce ∉ w.usedNonces
  recorded : w.sentinelRecord p.sentinelNonce = some p.sentinelRecordCommitment
  limit : w.limit = p.identity.usageLimit

namespace Healthy
variable {key : Bytes} {n : Node} {p : Provider} {w : WrapState} {row : CatalogRow}

theorem ledger (h : Healthy key n p w row) : Ledger n.durable row :=
  h.sound.wellFormed.ledger h.catalog

theorem live (h : Healthy key n p w row) : Provider.live n = (.ok p, n) := by
  unfold Provider.live
  rw [bind_ok (show Command.read n = (.ok n, n) from rfl), demand_some h.provider]

theorem loadCatalog (h : Healthy key n p w row) : ∃ s : KeyCatalogSnapshot,
    Node.loadCatalog .known n = (.ok s, n) ∧ s.identity = p.identity ∧ s.state = .active := by
  obtain ⟨s, hs, hidentity, hstate, -⟩ := h.ledger.snapshot h.catalog h.active
  have hload := transact_loadCatalog n.durable
  rw [hs] at hload
  exact ⟨s, unitOfWork_ok h.accepting hload, hidentity.trans h.identity, hstate⟩

theorem recordAuthenticatedSentinel (h : Healthy key n p w row) :
    Provider.recordAuthenticatedSentinel p n = (.ok (), n) := by
  have hrecord : w.recordSentinel p.sentinelNonce p.sentinelRecordCommitment = w := by
    unfold WrapState.recordSentinel
    rw [h.recorded]
    rfl
  have hsame : { n with wrap := some (n.wrap.getD { limit := p.identity.usageLimit }) } = n := by
    rw [h.wrap, Option.getD_some, ← h.wrap]
  have hguard : ¬(p.sentinelNonce ∈ w.usedNonces ∨
      ∃ c ∈ w.sentinelRecord p.sentinelNonce, c ≠ p.sentinelRecordCommitment) := by
    rintro (hused | ⟨c, hc, hne⟩)
    · exact h.apart hused
    · rw [h.recorded] at hc
      cases hc
      exact hne rfl
  unfold Provider.recordAuthenticatedSentinel
  rw [bind_ok (show Command.write _ n = (.ok (), _) from rfl), hsame,
    bind_ok (show Command.read n = (.ok n, n) from rfl), bind_ok (demand_some h.wrap _ _),
    bind_ok (require_pos h.fresh _ _), if_neg hguard, hrecord]
  unfold Command.write
  rw [← h.wrap]

theorem authenticate (h : Healthy key n p w row) : Provider.authenticate key p n = (.ok true, n) := by
  unfold Provider.authenticate
  rw [h.authentic]
  dsimp only
  rw [if_neg (fun h => h rfl), bind_ok h.recordAuthenticatedSentinel, if_neg (fun h => h rfl)]
  rfl

/-- Readiness finds everything as it left it. -/
theorem readiness (h : Healthy key n p w row) (shared : Bool) :
    Provider.readiness key .opens shared n = (.ok true, n) := by
  have hactivate : Provider.activateKeyDomain p shared n = (.ok (), n) := by
    have hsame : { n with provider := n.provider.map fun p => { p with activated := true } } = n := by
      rw [h.provider, Option.map_some, ← h.activated, ← h.provider]
    unfold Provider.activateKeyDomain
    rw [bind_ok (show Command.read n = (.ok n, n) from rfl), bind_ok (demand_some h.wrap _ _),
      bind_ok (require_pos ⟨h.fresh, h.recorded⟩ _ _), bind_ok (require_pos h.limit _ _),
      bind_ok (require_pos (.inl h.activated) _ _)]
    exact Prod.ext rfl hsame
  have hsame : { n with provider := n.provider.map fun p => { p with pinned := true } } = n := by
    rw [h.provider, Option.map_some, ← h.pinned, ← h.provider]
  have hbody : (do
      let authentic ← Provider.session .opens (Provider.authenticate key p)
      if authentic then do
        Provider.activateKeyDomain p shared
        write fun n => { n with provider := n.provider.map fun p => { p with pinned := true } }
        pure true
      else pure false : Act Bool) n = (.ok true, n) := by
    rw [session_opens, bind_ok h.authenticate, if_pos rfl, bind_ok hactivate, bind_ok (show Command.write _ n = (.ok (), _) from rfl), hsame]
    rfl
  unfold Provider.readiness
  rw [bind_ok h.live, if_neg (by rw [h.unlatched]; exact Bool.false_ne_true)]
  unfold Provider.orNotReady
  rw [hbody]

theorem serviceReadiness (h : Healthy key n p w row) : ∃ s : KeyCatalogSnapshot,
    KeyCatalogService.readiness key {} n = (.ok s, n) ∧ s.identity = p.identity := by
  obtain ⟨s, hs, hidentity, hstate⟩ := h.loadCatalog
  refine ⟨s, ?_, hidentity⟩
  unfold KeyCatalogService.readiness
  rw [bind_ok h.live, bind_ok hs, bind_ok (require_pos hidentity _ _),
    bind_ok (require_pos hstate _ _), bind_ok (h.readiness false), if_pos rfl]
  rfl

theorem assertBinding (h : Healthy key n p w row) {b : ProfileKeyBinding}
    (hcovers : p.identity.Covers b) : KeyCatalogService.assertBinding key b {} n = (.ok (), n) := by
  obtain ⟨s, hs, hidentity⟩ := h.serviceReadiness
  unfold KeyCatalogService.assertBinding
  rw [bind_ok h.live, bind_ok hs, require_pos ⟨hcovers.1, hcovers.2, hidentity⟩]

theorem assertBinding_foreign (h : Healthy key n p w row) {b : ProfileKeyBinding}
    (hcovers : ¬p.identity.Covers b) :
    KeyCatalogService.assertBinding key b {} n = (.error (catalogError .identityMismatch), n) := by
  obtain ⟨s, hs, hidentity⟩ := h.serviceReadiness
  unfold KeyCatalogService.assertBinding
  rw [bind_ok h.live, bind_ok hs, require_neg fun hall => hcovers ⟨hall.1, hall.2.1⟩]

/-! ### The provider -/

theorem requireReadyState (h : Healthy key n p w row) :
    Provider.requireReadyState n = (.ok w, n) := by
  unfold Provider.requireReadyState
  rw [bind_ok h.live, bind_ok (show Command.read n = (.ok n, n) from rfl), if_pos h.activated,
    demand_some h.wrap]

theorem assertDomainUnlatched {w : WrapState} (hfresh : w.nonceReuseLatched = false) (n : Node) :
    Provider.assertDomainUnlatched w n = (.ok (), n) := by
  unfold Provider.assertDomainUnlatched
  rw [if_neg (by rw [hfresh]; exact Bool.false_ne_true)]
  rfl

theorem requireReady (h : Healthy key n p w row) : Provider.requireReady n = (.ok (), n) := by
  unfold Provider.requireReady
  rw [bind_ok h.live, bind_ok (require_pos h.unlatched _ _), bind_ok h.requireReadyState,
    bind_ok (require_pos h.pinned _ _), assertDomainUnlatched h.fresh]

/-- The nonces of the process with one more. -/
def drawn (w : WrapState) (nonce : Nonce) : WrapState :=
  { w with usedNonces := nonce :: w.usedNonces, count := w.count + 1 }

/-- The nonce has not been drawn in the process. -/
def Undrawn (w : WrapState) (nonce : Nonce) : Prop :=
  nonce ∉ w.usedNonces ∧ w.sentinelRecord nonce = none

theorem draw (h : Healthy key n p w row) {nonce : Nonce} (hnonce : Undrawn w nonce) :
    Healthy key { n with wrap := some (drawn w nonce) } p (drawn w nonce) row where
  sound := h.sound.of_same rfl rfl rfl
  accepting := h.accepting
  provider := h.provider
  wrap := rfl
  catalog := h.catalog
  identity := h.identity
  active := h.active
  unlatched := h.unlatched
  pinned := h.pinned
  activated := h.activated
  authentic := h.authentic
  fresh := h.fresh
  apart := by
    intro hmem
    rcases List.mem_cons.mp hmem with hmem | hmem
    · have hrecorded := h.recorded
      rw [hmem, hnonce.2] at hrecorded
      cases hrecorded
    · exact h.apart hmem
  recorded := h.recorded
  limit := h.limit

theorem prepare (h : Healthy key n p w row) {b : ProfileKeyBinding} {nonce : Nonce}
    (hcovers : p.identity.Covers b) (hroom : w.count < w.limit) (hnonce : Undrawn w nonce) :
    Provider.prepareProfileKey b .opens (some nonce) n =
      (.ok ⟨b, nonce⟩, { n with wrap := some (drawn w nonce) }) := by
  have hreserve : Provider.reserveNonce (some nonce) n =
      (.ok nonce, { n with wrap := some (drawn w nonce) }) := by
    have hguard : ¬(nonce ∈ w.usedNonces ∨ (w.sentinelRecord nonce).isSome) := by
      rw [hnonce.2]
      rintro (hused | hsome)
      · exact hnonce.1 hused
      · cases hsome
    unfold Provider.reserveNonce
    rw [bind_ok h.requireReadyState, bind_ok (require_pos h.fresh _ _),
      bind_ok (require_pos hroom _ _), bind_ok (demand_some rfl _ _), if_neg hguard]
    rfl
  have h' := h.draw hnonce
  unfold Provider.prepareProfileKey
  rw [bind_ok h.live, bind_ok (require_pos hcovers.1 _ _), bind_ok h.requireReady,
    session_opens, bind_ok hreserve, bind_ok h'.requireReadyState,
    bind_ok (assertDomainUnlatched h'.fresh _)]
  rfl

/-- The counter of the process refuses before the catalog is asked. -/
theorem prepare_exhausted (h : Healthy key n p w row) {b : ProfileKeyBinding}
    (hcovers : p.identity.Covers b) (hfull : ¬w.count < w.limit) (nonce : Option Nonce) :
    Provider.prepareProfileKey b .opens nonce n = (.error (.secret .usageLimit), n) := by
  have hreserve : Provider.reserveNonce nonce n = (.error (.secret .usageLimit), n) := by
    unfold Provider.reserveNonce
    rw [bind_ok h.requireReadyState, bind_ok (require_pos h.fresh _ _),
      bind_error (require_neg hfull _ _)]
  unfold Provider.prepareProfileKey
  rw [bind_ok h.live, bind_ok (require_pos hcovers.1 _ _), bind_ok h.requireReady,
    session_opens, bind_error hreserve]

/-- Another state of the same process, with the disk and the records moved on. -/
theorem move (h : Healthy key n p w row) {n' : Node} {row' : CatalogRow} (hs : Sound key n')
    (hruntime : n'.runtime = n.runtime) (hprovider : n'.provider = n.provider)
    (hwrap : n'.wrap = n.wrap) (hcatalog : n'.durable.catalog = some row')
    (hidentity : row'.identity = row.identity) (hactive : row'.state = .active) :
    Healthy key n' p w row' where
  sound := hs
  accepting := hruntime.trans h.accepting
  provider := hprovider.trans h.provider
  wrap := hwrap.trans h.wrap
  catalog := hcatalog
  identity := hidentity.trans h.identity
  active := hactive
  unlatched := h.unlatched
  pinned := h.pinned
  activated := h.activated
  authentic := h.authentic
  fresh := h.fresh
  apart := h.apart
  recorded := h.recorded
  limit := h.limit

end Healthy

/-! ### Creating a key -/

/-- The record that is made for a preparation. -/
def wrapRecord (key : Bytes) (kek : ActiveKekRef) (preparation : ProfileKeyPreparation)
    (dek : Provider.ProfileDek) : WrappedProfileKey where
  kekRef := kek
  binding := preparation.binding
  nonce := preparation.nonce
  envelope := .ofCiphertext
    (AesGcm.encrypt key preparation.nonce.bytes dek.bytes (profileAad kek preparation.binding))
    (by rw [AesGcm.length_encrypt, dek.length_eq]; rfl)

namespace Healthy
variable {key : Bytes} {n : Node} {p : Provider} {w : WrapState} {row : CatalogRow}

/-- What the provider records of the encryption for a preparation. -/
def encryption (n : Node) (p : Provider) (preparation : ProfileKeyPreparation)
    (dek : Provider.ProfileDek) : Encryption :=
  ⟨preparation.nonce, dek.bytes, profileAad p.identity.activeKek preparation.binding,
    some preparation.binding, n.durable⟩

theorem complete (h : Healthy key n p w row) {preparation : ProfileKeyPreparation}
    {dek : Provider.ProfileDek} (hd : Due key preparation n) :
    Provider.completeProfileKey key preparation .opens (some dek) n =
      (.ok (wrapRecord key p.identity.activeKek preparation dek),
        n.note (encryption n p preparation dek)) := by
  have hsound : Sound key (n.note (encryption n p preparation dek)) :=
    hd.sound.note_profile rfl rfl hd.reserved hd.unused
  have h' : Healthy key (n.note (encryption n p preparation dek)) p w row :=
    h.move hsound rfl rfl rfl h.catalog rfl h.active
  have henvelope : Provider.envelope (AesGcm.encrypt key preparation.nonce.bytes dek.bytes
      (profileAad p.identity.activeKek preparation.binding)) =
        some (wrapRecord key p.identity.activeKek preparation dek).envelope := by
    unfold Provider.envelope
    rw [dif_pos (by rw [AesGcm.length_encrypt, dek.length_eq]; rfl)]
    rfl
  have hencrypt : (do
      let ciphertext ← Provider.encrypt key preparation.nonce dek.bytes
        (profileAad p.identity.activeKek preparation.binding) (some preparation.binding)
      demand (Provider.envelope ciphertext) (.secret .unavailable) : Act Envelope) n =
        (.ok (wrapRecord key p.identity.activeKek preparation dek).envelope,
          n.note (encryption n p preparation dek)) := by
    have hrun : Provider.encrypt key preparation.nonce dek.bytes
        (profileAad p.identity.activeKek preparation.binding) (some preparation.binding) n =
          (.ok (AesGcm.encrypt key preparation.nonce.bytes dek.bytes
            (profileAad p.identity.activeKek preparation.binding)),
              n.note (encryption n p preparation dek)) := rfl
    rw [bind_ok hrun, demand_some henvelope]
  unfold Provider.completeProfileKey
  dsimp only
  rw [bind_ok h.live, bind_ok (show Command.read n = (.ok n, n) from rfl),
    bind_ok (require_pos ⟨h.unlatched, h.activated, w, h.wrap, h.fresh⟩ _ _), bind_ok h.requireReady,
    bind_ok (demand_some rfl _ _), session_opens, bind_ok hencrypt, bind_ok h'.requireReadyState,
    bind_ok (assertDomainUnlatched h.fresh _)]
  rfl

end Healthy

/-- A request whose key file, sources of randomness and disk do not fail. -/
def steady (nonce : Nonce) (id : OpaqueId) (dek : Provider.ProfileDek) : CreateInput where
  nonce := some nonce
  reservationId := id
  dek := some dek

namespace Healthy
variable {key : Bytes} {n : Node} {p : Provider} {w : WrapState} {row : CatalogRow}
  {b : ProfileKeyBinding} {nonce : Nonce} {id : OpaqueId} {dek : Provider.ProfileDek}

open KeyCatalogService

theorem createProfileKey_steady : createProfileKey key b (steady nonce id dek) = (do
    KeyCatalogService.assertBinding key b {}
    let preparation ← orLatch .known (Provider.prepareProfileKey b .opens (some nonce))
    let id ← Node.reserveProfilePreparation preparation id .known
    let wrapped ← orLatch .known (Provider.completeProfileKey key preparation .opens (some dek))
    Node.publishProfileKey id preparation wrapped .known
    pure wrapped) := rfl

/-- The process after a key has been created. -/
def created (key : Bytes) (n : Node) (p : Provider) (w : WrapState) (row : CatalogRow)
    (preparation : ProfileKeyPreparation) (id : OpaqueId) (dek : Provider.ProfileDek) : Node :=
  let record := wrapRecord key p.identity.activeKek preparation dek
  let reserved := n.durable.withReservation row preparation id
  { n with
    durable := reserved.withKey { row with
      usageReserved := row.usageReserved + 1
      revision := row.revision + 1 } id record
    wrap := some (drawn w preparation.nonce)
    encryptions := n.encryptions ++ [⟨preparation.nonce, dek.bytes,
      profileAad p.identity.activeKek preparation.binding, some preparation.binding, reserved⟩]
    published := n.published ++ [record] }

theorem create (h : Healthy key n p w row) (hcovers : p.identity.Covers b)
    (hcount : w.count < w.limit) (hnonce : Undrawn w nonce) (ha : Admissible n.durable ⟨b, nonce⟩ id)
    (hroom : row.usageReserved < row.identity.usageLimit) :
    createProfileKey key b (steady nonce id dek) n =
      (.ok (wrapRecord key p.identity.activeKek ⟨b, nonce⟩ dek),
        created key n p w row ⟨b, nonce⟩ id dek) := by
  have hcovers' : row.identity.Covers b := by
    rw [h.identity]
    exact hcovers
  have h₁ := h.draw hnonce
  set n₁ : Node := { n with wrap := some (drawn w nonce) }
  -- the reservation
  have hreserve : Node.reserveProfilePreparation ⟨b, nonce⟩ id .known n₁ =
      (.ok id, { n₁ with durable := n₁.durable.withReservation row ⟨b, nonce⟩ id }) :=
    unitOfWork_ok h.accepting
      (reserveProfilePreparation_ok h.ledger h.catalog h.active hcovers' ha hroom)
  set n₂ : Node := { n₁ with durable := n₁.durable.withReservation row ⟨b, nonce⟩ id }
  have hd : Due key ⟨b, nonce⟩ n₂ := by
    have hspec := reserveProfilePreparation_spec ⟨b, nonce⟩ id .known h₁.sound
    unfold wp at hspec
    rwa [hreserve] at hspec
  have h₂ : Healthy key n₂ p (drawn w nonce) { row with
      usageReserved := row.usageReserved + 1
      revision := row.revision + 1 } :=
    h₁.move hd.sound rfl rfl rfl rfl rfl h.active
  -- the publication
  have hkek : p.identity.activeKek = row.identity.activeKek := by rw [h.identity]
  have hchanged : (n₂.durable.withKey { row with
      usageReserved := row.usageReserved + 1
      revision := row.revision + 1 } id (wrapRecord key p.identity.activeKek ⟨b, nonce⟩ dek)) ≠
        n₂.durable := by
    intro hsame
    have hrevision := congrArg Database.revision hsame
    change row.revision + 1 + 1 = row.revision + 1 at hrevision
    omega
  have hpublish := @publishProfileKey_node .known (n₂.note (encryption n₂ p ⟨b, nonce⟩ dek)) id _ _ _
    h.accepting (publishProfileKey_ok h.ledger h.catalog h.active hcovers' ha hroom
      (w := wrapRecord key p.identity.activeKek ⟨b, nonce⟩ dek) rfl rfl hkek) hchanged
  rw [createProfileKey_steady, bind_ok (h.assertBinding hcovers), bind_ok (orLatch_ok (h.prepare hcovers hcount hnonce)), bind_ok hreserve,
    bind_ok (orLatch_ok (h₂.complete hd)), bind_ok hpublish]
  rfl

theorem created_healthy (h : Healthy key n p w row) (hcovers : p.identity.Covers b)
    (hcount : w.count < w.limit) (hnonce : Undrawn w nonce) (ha : Admissible n.durable ⟨b, nonce⟩ id)
    (hroom : row.usageReserved < row.identity.usageLimit) :
    Healthy key (created key n p w row ⟨b, nonce⟩ id dek) p (drawn w nonce)
      { row with usageReserved := row.usageReserved + 1, revision := row.revision + 1 + 1 } := by
  have hspec := createProfileKey_spec b (steady nonce id dek) h.sound
  unfold wp at hspec
  rw [h.create hcovers hcount hnonce ha hroom] at hspec
  exact (h.draw hnonce).move hspec.1 rfl rfl rfl rfl rfl h.active

/-! ### Refusals -/

theorem create_foreign (h : Healthy key n p w row) (hcovers : ¬p.identity.Covers b) :
    createProfileKey key b (steady nonce id dek) n = (.error (catalogError .identityMismatch), n) := by
  rw [createProfileKey_steady, bind_error (h.assertBinding_foreign hcovers)]

theorem create_duplicate (h : Healthy key n p w row) (hcovers : p.identity.Covers b)
    (hcount : w.count < w.limit) (hnonce : Undrawn w nonce) (htaken : ¬n.durable.Vacant b) :
    createProfileKey key b (steady nonce id dek) n =
      (.error (catalogError .duplicateProfileKey), { n with wrap := some (drawn w nonce) }) := by
  have hcovers' : row.identity.Covers b := by
    rw [h.identity]
    exact hcovers
  have h₁ := h.draw hnonce
  have hreserve : Node.reserveProfilePreparation ⟨b, nonce⟩ id .known
      { n with wrap := some (drawn w nonce) } = (.error (catalogError .duplicateProfileKey), _) :=
    unitOfWork_refused h₁.accepting
      (reserveProfilePreparation_duplicate h₁.ledger h₁.catalog h₁.active hcovers' htaken) rfl
  rw [createProfileKey_steady, bind_ok (h.assertBinding hcovers),
    bind_ok (orLatch_ok (h.prepare hcovers hcount hnonce)), bind_error hreserve]

theorem create_exhausted (h : Healthy key n p w row) (hcovers : p.identity.Covers b)
    (hcount : w.count < w.limit) (hnonce : Undrawn w nonce) (hvacant : n.durable.Vacant b)
    (hunreserved : ∀ r ∈ n.durable.reservations, r.nonce ≠ nonce)
    (hfull : ¬row.usageReserved < row.identity.usageLimit) :
    createProfileKey key b (steady nonce id dek) n =
      (.error (catalogError .usageLimit), { n with wrap := some (drawn w nonce) }) := by
  have hcovers' : row.identity.Covers b := by
    rw [h.identity]
    exact hcovers
  have h₁ := h.draw hnonce
  have hreserve : Node.reserveProfilePreparation ⟨b, nonce⟩ id .known
      { n with wrap := some (drawn w nonce) } = (.error (catalogError .usageLimit), _) :=
    unitOfWork_refused h₁.accepting (reserveProfilePreparation_exhausted h₁.ledger h₁.catalog
      h₁.active hcovers' hvacant hunreserved hfull) rfl
  rw [createProfileKey_steady, bind_ok (h.assertBinding hcovers),
    bind_ok (orLatch_ok (h.prepare hcovers hcount hnonce)), bind_error hreserve]

/-- Once the counter of the process is used up, a request latches the catalog. -/
theorem create_latches (h : Healthy key n p w row) (hcovers : p.identity.Covers b)
    (hfull : ¬w.count < w.limit) :
    createProfileKey key b (steady nonce id dek) n =
      (.error (catalogError .recoveryRequired),
        { n with durable := n.durable.recovering row }) := by
  have hrecover : Node.requireRecovery .known n =
      (.ok (), { n with durable := n.durable.recovering row }) :=
    unitOfWork_ok h.accepting (requireRecovery_ok h.ledger h.catalog h.active)
  have hprepare : orLatch .known (Provider.prepareProfileKey b .opens (some nonce)) n =
      (.error (catalogError .recoveryRequired), { n with durable := n.durable.recovering row }) := by
    rw [orLatch_secret (h.prepare_exhausted hcovers hfull _), bind_ok hrecover]
    rfl
  rw [createProfileKey_steady, bind_ok (h.assertBinding hcovers), bind_error hprepare]

/-! ### Opening a key -/

theorem openProfileKey_steady : openProfileKey key b {} = (do
    KeyCatalogService.assertBinding key b {}
    let found ← Node.loadProfileKey b .known
    let wrapped ← demand found (catalogError .notInitialized)
    orLatch .known (Provider.unwrapProfileKey key wrapped b .opens)) := rfl

theorem load (h : Healthy key n p w row) {record : WrappedProfileKey} (hr : record ∈ n.published) :
    Node.loadProfileKey record.binding .known n = (.ok (some record), n) := by
  refine h.sound.load h.accepting ?_ hr
  rw [Database.state, h.catalog, Option.map_some, h.active]

theorem load_none (h : Healthy key n p w row) (hcovers : p.identity.Covers b)
    (hnone : ∀ record ∈ n.published, record.binding ≠ b) :
    Node.loadProfileKey b .known n = (.ok none, n) := by
  obtain ⟨s, hs, hidentity, hstate, -⟩ := h.ledger.snapshot h.catalog h.active
  have hrow : n.durable.profileRow b = none := by
    cases hfind : n.durable.profileRow b with
    | none => rfl
    | some k =>
      obtain ⟨hk, hprofile⟩ := Database.mem_of_profileRow hfind
      obtain ⟨record, hrecord, row', hcatalog, hcovers', -, hprofile', -⟩ := h.sound.listed k hk
      cases h.catalog.symm.trans hcatalog
      rw [h.identity] at hcovers'
      exact (hnone record hrecord (hcovers'.eq hcovers (hprofile'.symm.trans hprofile))).elim
  have hread : n.durable.readProfileKey s b = .ok none := by
    unfold Database.readProfileKey
    rw [hrow]
  refine unitOfWork_ok h.accepting ?_
  unfold transact loadProfileKey
  rw [bind_ok (@start_ok ⟨n.durable, n.durable, .known⟩ nofun), bind_ok (query_ok hs),
    bind_ok (assertActiveBinding_ok hstate (by rw [hidentity, h.identity]; exact hcovers)),
    query_ok hread]

/-- A published key opens to the material that was wrapped. -/
theorem openKey (h : Healthy key n p w row) {record : WrappedProfileKey} (hr : record ∈ n.published) :
    ∃ e ∈ n.encryptions, e.Wraps key record ∧
      openProfileKey key record.binding {} n = (.ok e.plaintext, n) := by
  obtain ⟨e, he, hwraps⟩ := h.sound.encrypted record hr
  obtain ⟨-, hnonce, haad, hlength, hciphertext⟩ := id hwraps
  obtain ⟨row', hcatalog, hcovers, -⟩ := h.sound.readProfileKey hr
  obtain ⟨-, -, row'', hcatalog', -, hkek, -⟩ := h.sound.stored record hr
  cases h.catalog.symm.trans hcatalog
  cases h.catalog.symm.trans hcatalog'
  rw [h.identity] at hcovers hkek
  have hdecrypt : AesGcm.decrypt key record.nonce.bytes record.envelope.ciphertext
      (profileAad p.identity.activeKek record.binding) = some e.plaintext := by
    rw [hciphertext, ← hnonce, ← hkek, ← haad]
    exact AesGcm.decrypt_encrypt ..
  have hunwrap : Provider.unwrapProfileKey key record record.binding .opens n =
      (.ok e.plaintext, n) := by
    unfold Provider.unwrapProfileKey
    dsimp only
    rw [bind_ok h.live, bind_ok (require_pos ⟨hkek, rfl, hcovers.1⟩ _ _), bind_ok h.requireReady,
      session_opens, hdecrypt]
    dsimp only
    rw [bind_ok (bind_ok (require_pos hlength _ _) _), bind_ok h.requireReadyState,
      bind_ok (assertDomainUnlatched h.fresh _)]
    rfl
  refine ⟨e, he, hwraps, ?_⟩
  rw [openProfileKey_steady, bind_ok (h.assertBinding hcovers), bind_ok (h.load hr),
    bind_ok (demand_some rfl _ _)]
  exact orLatch_ok hunwrap

/-- Opening a key leaves a healthy process as it is. -/
theorem openKey_state (h : Healthy key n p w row) (b : ProfileKeyBinding) :
    (openProfileKey key b {} n).2 = n := by
  by_cases hpublished : ∃ record ∈ n.published, record.binding = b
  · obtain ⟨record, hr, rfl⟩ := hpublished
    obtain ⟨e, -, -, hopen⟩ := h.openKey hr
    rw [hopen]
  · by_cases hcovers : p.identity.Covers b
    · have hload := h.load_none hcovers fun record hr hb => hpublished ⟨record, hr, hb⟩
      rw [openProfileKey_steady, bind_ok (h.assertBinding hcovers), bind_ok hload]
      rfl
    · rw [openProfileKey_steady, bind_error (h.assertBinding_foreign hcovers)]

end Healthy

end MyCogni.Keys
