import MyCogni.Keys.Quiet

/-! Nonce safety of the key catalog: across processes, lost commits and repeating sources of
nonces, a nonce is used under the key for one plaintext and one associated data. -/

namespace MyCogni.Keys
open Auth Command

/-! ### The invariant -/

/-- A reservation of the nonce for the binding. -/
def Reserved (db : Database) (nonce : Nonce) (binding : ProfileKeyBinding) : Prop :=
  ∃ row, db.catalog = some row ∧ row.identity.Covers binding ∧
    ∃ r ∈ db.reservations, r.purpose = .profile ∧ r.nonce = nonce ∧
      r.profile = some binding.profile

/-- The encryption of the record. -/
def Encryption.Wraps (key : Bytes) (e : Encryption) (w : WrappedProfileKey) : Prop :=
  e.binding = some w.binding ∧ e.nonce = w.nonce ∧ e.aad = profileAad w.kekRef w.binding ∧
    e.plaintext.length = profileDekBytes ∧
      w.envelope.ciphertext = AesGcm.encrypt key e.nonce.bytes e.plaintext e.aad

/-- The record is the one that the row, its reservation and the catalog hold. -/
def Stores (db : Database) (k : WrappedRow) (w : WrappedProfileKey) : Prop :=
  ∃ row, db.catalog = some row ∧ row.identity.Covers w.binding ∧
    w.kekRef = row.identity.activeKek ∧ k.profile = w.binding.profile ∧ k.envelope = w.envelope ∧
      ∃ r ∈ db.reservations, r.reservationId = k.reservationId ∧ r.nonce = w.nonce

/-- The encryption of the sentinel, with the reserved nonce and the identity of the catalog. -/
def OfSentinel (db : Database) (e : Encryption) : Prop :=
  e.plaintext = readinessPlaintext ∧ ∃ row, db.catalog = some row ∧
    e.aad = sentinelAad 1 1 row.identity ∧
      ∃ r ∈ db.reservations, r.purpose = .sentinel ∧ r.nonce = e.nonce

structure Sound (key : Bytes) (n : Node) : Prop where
  wellFormed : WellFormed n.durable
  sentinels : ∀ e ∈ n.encryptions, e.binding = none → OfSentinel n.durable e
  profiles : ∀ e ∈ n.encryptions, ∀ b, e.binding = some b →
    Reserved e.ledger e.nonce b ∧ Reserved n.durable e.nonce b
  /-- No two profile keys are encrypted with one nonce. -/
  distinct : (n.encryptions.filter fun e => e.binding.isSome).Pairwise fun e e' => e.nonce ≠ e'.nonce
  encrypted : ∀ w ∈ n.published, ∃ e ∈ n.encryptions, e.Wraps key w
  stored : ∀ w ∈ n.published, ∃ k ∈ n.durable.wrapped, Stores n.durable k w
  listed : ∀ k ∈ n.durable.wrapped, ∃ w ∈ n.published, Stores n.durable k w
  /-- A key is published only after the sentinel. -/
  finished : ∀ w ∈ n.published, n.durable.sentinel.isSome

section Extends
variable {db db' : Database}

/-- What stands of the unchanging columns of a reservation. -/
theorem Extends.reservation (h : Extends db db') {r : ReservationRow} (hr : r ∈ db.reservations) :
    ∃ r' ∈ db'.reservations, r'.reservationId = r.reservationId ∧ r'.purpose = r.purpose ∧
      r'.nonce = r.nonce ∧ r'.profile = r.profile := by
  obtain ⟨r', hr', rfl | ⟨-, rfl⟩⟩ := h.reservations r hr
  · exact ⟨_, hr', rfl, rfl, rfl, rfl⟩
  · exact ⟨_, hr', rfl, rfl, rfl, rfl⟩

theorem Reserved.mono {nonce : Nonce} {b : ProfileKeyBinding} (hr : Reserved db nonce b)
    (h : Extends db db') : Reserved db' nonce b := by
  obtain ⟨row, hrow, hcovers, r, hr, hpurpose, hnonce, hprofile⟩ := hr
  obtain ⟨row', hrow', hidentity, -⟩ := h.catalog row hrow
  obtain ⟨r', hr', -, hpurpose', hnonce', hprofile'⟩ := h.reservation hr
  exact ⟨row', hrow', hidentity ▸ hcovers, r', hr', hpurpose'.trans hpurpose,
    hnonce'.trans hnonce, hprofile'.trans hprofile⟩

theorem Stores.mono {k : WrappedRow} {w : WrappedProfileKey} (hs : Stores db k w)
    (h : Extends db db') : Stores db' k w := by
  obtain ⟨row, hrow, hcovers, hkek, hprofile, henvelope, r, hr, hid, hnonce⟩ := hs
  obtain ⟨row', hrow', hidentity, -⟩ := h.catalog row hrow
  obtain ⟨r', hr', hid', -, hnonce', -⟩ := h.reservation hr
  exact ⟨row', hrow', hidentity ▸ hcovers, hidentity ▸ hkek, hprofile, henvelope, r', hr',
    hid'.trans hid, hnonce'.trans hnonce⟩

theorem OfSentinel.mono {e : Encryption} (hs : OfSentinel db e) (h : Extends db db') :
    OfSentinel db' e := by
  obtain ⟨hplaintext, row, hrow, haad, r, hr, hpurpose, hnonce⟩ := hs
  obtain ⟨row', hrow', hidentity, -⟩ := h.catalog row hrow
  obtain ⟨r', hr', -, hpurpose', hnonce', -⟩ := h.reservation hr
  exact ⟨hplaintext, row', hrow', hidentity ▸ haad, r', hr', hpurpose'.trans hpurpose,
    hnonce'.trans hnonce⟩

end Extends

theorem Quiet.sound {key : Bytes} {n n' : Node} (h : Quiet n n') (hs : Sound key n) :
    Sound key n' where
  wellFormed := h.wellFormed hs.wellFormed
  sentinels e he hb := by
    rw [h.encryptions] at he
    exact (hs.sentinels e he hb).mono h.grows
  profiles e he b hb := by
    rw [h.encryptions] at he
    obtain ⟨hthen, hnow⟩ := hs.profiles e he b hb
    exact ⟨hthen, hnow.mono h.grows⟩
  distinct := by rw [h.encryptions]; exact hs.distinct
  encrypted := by rw [h.encryptions, h.published]; exact hs.encrypted
  stored w hw := by
    rw [h.published] at hw
    rw [h.wrapped]
    obtain ⟨k, hk, hstores⟩ := hs.stored w hw
    exact ⟨k, hk, hstores.mono h.grows⟩
  listed k hk := by
    rw [h.wrapped] at hk
    rw [h.published]
    obtain ⟨w, hw, hstores⟩ := hs.listed k hk
    exact ⟨w, hw, hstores.mono h.grows⟩
  finished w hw := by
    rw [h.published] at hw
    obtain ⟨s, hsentinel⟩ := Option.isSome_iff_exists.mp (hs.finished w hw)
    rw [h.grows.sentinel s hsentinel]
    rfl

/-- Only the process has changed. -/
theorem Sound.of_same {key : Bytes} {n n' : Node} (hs : Sound key n)
    (hencryptions : n'.encryptions = n.encryptions) (hpublished : n'.published = n.published)
    (hdurable : n'.durable = n.durable) : Sound key n' :=
  (Quiet.of_same hencryptions hpublished hdurable).sound hs

/-- What is recorded of an encryption. -/
def Node.note (n : Node) (e : Encryption) : Node := { n with encryptions := n.encryptions ++ [e] }

theorem Sound.note_sentinel {key : Bytes} {n : Node} (hs : Sound key n) {e : Encryption}
    (hb : e.binding = none) (he : OfSentinel n.durable e) : Sound key (n.note e) where
  wellFormed := hs.wellFormed
  sentinels e' he' hb' := by
    rcases List.mem_append.mp he' with he' | he'
    · exact hs.sentinels e' he' hb'
    · rw [List.mem_singleton.mp he']
      exact he
  profiles e' he' b hb' := by
    rcases List.mem_append.mp he' with he' | he'
    · exact hs.profiles e' he' b hb'
    · rw [List.mem_singleton.mp he', hb] at hb'
      cases hb'
  distinct := by
    rw [Node.note, List.filter_append, List.filter_singleton, hb]
    simpa using hs.distinct
  encrypted w hw := by
    obtain ⟨e', he', hwraps⟩ := hs.encrypted w hw
    exact ⟨e', List.mem_append_left _ he', hwraps⟩
  stored := hs.stored
  listed := hs.listed
  finished := hs.finished

/-- No profile key has been encrypted with the nonce. -/
def Unused (n : Node) (nonce : Nonce) : Prop :=
  ∀ e ∈ n.encryptions, e.binding.isSome → e.nonce ≠ nonce

theorem Sound.note_profile {key : Bytes} {n : Node} (hs : Sound key n) {e : Encryption}
    {b : ProfileKeyBinding} (hb : e.binding = some b) (hledger : e.ledger = n.durable)
    (hreserved : Reserved n.durable e.nonce b) (hunused : Unused n e.nonce) :
    Sound key (n.note e) where
  wellFormed := hs.wellFormed
  sentinels e' he' hb' := by
    rcases List.mem_append.mp he' with he' | he'
    · exact hs.sentinels e' he' hb'
    · rw [List.mem_singleton.mp he', hb] at hb'
      cases hb'
  profiles e' he' b' hb' := by
    rcases List.mem_append.mp he' with he' | he'
    · exact hs.profiles e' he' b' hb'
    · cases List.mem_singleton.mp he'
      cases hb.symm.trans hb'
      exact ⟨hledger ▸ hreserved, hreserved⟩
  distinct := by
    rw [Node.note, List.filter_append, List.filter_singleton, hb]
    refine List.pairwise_append.mpr ⟨hs.distinct, List.pairwise_singleton .., ?_⟩
    intro e₁ he₁ e₂ he₂
    obtain ⟨he₁, hsome⟩ := List.mem_filter.mp he₁
    cases List.mem_singleton.mp he₂
    exact hunused e₁ he₁ hsome
  encrypted w hw := by
    obtain ⟨e', he', hwraps⟩ := hs.encrypted w hw
    exact ⟨e', List.mem_append_left _ he', hwraps⟩
  stored := hs.stored
  listed := hs.listed
  finished := hs.finished

/-- The reservation of a preparation leaves its nonce unused and reserved. -/
theorem Sound.reserves {key : Bytes} {n : Node} (hs : Sound key n) {db' : Database}
    {preparation : ProfileKeyPreparation} {id : OpaqueId}
    (h : Reserves n.durable db' preparation id) :
    Unused n preparation.nonce ∧ Reserved db' preparation.nonce preparation.binding := by
  obtain ⟨row, hcatalog, -, hcovers, -, hfree, rfl⟩ := h
  constructor
  · intro e he hsome hnonce
    obtain ⟨b, hb⟩ := Option.isSome_iff_exists.mp hsome
    obtain ⟨-, row', hrow', -, r, hr, -, hr', -⟩ := hs.profiles e he b hb
    cases hcatalog.symm.trans hrow'
    have hledger := hs.wellFormed.ledger hcatalog
    have hdomain : r.domain = row.identity.activeKek.domain :=
      not_not.mp (not_or.mp (hledger.own r hr)).2
    exact hfree r hr (.inr (.inl ⟨hdomain.symm, .inl (hr'.trans hnonce).symm⟩))
  · exact ⟨_, rfl, hcovers, _, List.mem_append_right _ (List.mem_singleton_self _), rfl, rfl, rfl⟩

/-! ### The provider -/

section Provider
variable {key : Bytes}
open Provider

theorem prepareProfileKey_spec (binding : ProfileKeyBinding) (source : Session)
    (drawn : Option Nonce) {n : Node} (hs : Sound key n) :
    wp (prepareProfileKey binding source drawn) (fun a n' => a.binding = binding ∧ Sound key n')
      (fun _ => Sound key) n := by
  have hq : ∀ n n', Quiet n n' → Sound key n → Sound key n' := fun _ _ h => h.sound
  unfold prepareProfileKey
  refine live_still.wp_bind hq hs (fun _ _ h => h) fun p n hs => ?_
  refine (still_require _ _).wp_bind hq hs (fun _ _ h => h) fun _ n hs => ?_
  refine requireReady_still.wp_bind hq hs (fun _ _ h => h) fun _ n hs => ?_
  refine (session_still source (reserveNonce_still drawn)).wp_bind hq hs (fun _ _ h => h)
    fun nonce n hs => ?_
  refine requireReadyState_still.wp_bind hq hs (fun _ _ h => h) fun w n hs => ?_
  refine (assertDomainUnlatched_still w).wp_bind hq hs (fun _ _ h => h) fun _ n hs => ?_
  exact ⟨rfl, hs⟩

/-- The nonce may be used for the binding. -/
structure Due (key : Bytes) (preparation : ProfileKeyPreparation) (n : Node) : Prop where
  sound : Sound key n
  reserved : Reserved n.durable preparation.nonce preparation.binding
  unused : Unused n preparation.nonce

theorem Quiet.due {preparation : ProfileKeyPreparation} {n n' : Node} (h : Quiet n n')
    (hd : Due key preparation n) : Due key preparation n' where
  sound := h.sound hd.sound
  reserved := hd.reserved.mono h.grows
  unused := by
    unfold Unused
    rw [h.encryptions]
    exact hd.unused

/-- The record is sound to publish. -/
structure Wrapped (key : Bytes) (preparation : ProfileKeyPreparation) (w : WrappedProfileKey)
    (n : Node) : Prop where
  sound : Sound key n
  binding : w.binding = preparation.binding
  encrypted : ∃ e ∈ n.encryptions, e.Wraps key w

theorem Quiet.wrapped_record {preparation : ProfileKeyPreparation} {w : WrappedProfileKey}
    {n n' : Node} (h : Quiet n n') (hw : Wrapped key preparation w n) :
    Wrapped key preparation w n' where
  sound := h.sound hw.sound
  binding := hw.binding
  encrypted := by rw [h.encryptions]; exact hw.encrypted

/-- What is encrypted for a preparation is recorded, unless the provider gives up before. -/
theorem completeProfileKey_spec (preparation : ProfileKeyPreparation) (source : Session)
    (generated : Option ProfileDek) {n : Node} (hd : Due key preparation n) :
    wp (completeProfileKey key preparation source generated) (Wrapped key preparation)
      (fun _ => Sound key) n := by
  have hq : ∀ n n', Quiet n n' → Due key preparation n → Due key preparation n' :=
    fun _ _ h => h.due
  have hhalt : ∀ (e : Fault) n, Due key preparation n → Sound key n := fun _ _ h => h.sound
  unfold completeProfileKey
  refine live_still.wp_bind hq hd hhalt fun p n hd => ?_
  refine still_read.wp_bind hq hd hhalt fun _ n hd => ?_
  refine (still_require _ _).wp_bind hq hd hhalt fun _ n hd => ?_
  refine requireReady_still.wp_bind hq hd hhalt fun _ n hd => ?_
  refine (still_demand _ _).wp_bind hq hd hhalt fun dek n hd => ?_
  dsimp only
  rw [wp_bind]
  set aad := profileAad p.identity.activeKek preparation.binding
  set e : Encryption := ⟨preparation.nonce, dek.bytes, aad, some preparation.binding, n.durable⟩
  have hnoted : Sound key (n.note e) := hd.sound.note_profile rfl rfl hd.reserved hd.unused
  have hbody : wp (do
      let ciphertext ← encrypt key preparation.nonce dek.bytes aad (some preparation.binding)
      demand (envelope ciphertext) (.secret .unavailable))
      (fun envelope => Wrapped key preparation
        ⟨p.identity.activeKek, preparation.binding, preparation.nonce, envelope⟩)
      (fun _ => Sound key) n := by
    simp only [encrypt, wp_bind, wp_write, wp_pure, wp_demand]
    refine ⟨fun envelope henvelope => ⟨hnoted, rfl, e, ?_, ?_⟩, fun _ => hnoted⟩
    · exact List.mem_append_right _ (List.mem_singleton_self _)
    · refine ⟨rfl, rfl, rfl, dek.length_eq, ?_⟩
      unfold Provider.envelope at henvelope
      split_ifs at henvelope
      cases henvelope
      rfl
  refine wp_mono (wp_session source (fun _ _ h => h.sound) hd.sound hbody fun _ _ h => h.sound) ?_
    fun _ _ h => h
  intro envelope n hw
  refine requireReadyState_still.wp_bind (fun _ _ h => h.wrapped_record) hw (fun _ _ h => h.sound)
    fun w n hw => ?_
  refine (assertDomainUnlatched_still w).wp_bind (fun _ _ h => h.wrapped_record) hw
    (fun _ _ h => h.sound) fun _ n hw => ?_
  exact hw

/-- The sentinel of the catalog, with the nonce that was reserved for it. -/
def SentinelDue (identity : KeyCatalogIdentity) (nonce : Nonce) (n : Node) : Prop :=
  ∃ row, n.durable.catalog = some row ∧ row.identity = identity ∧
    ∃ r ∈ n.durable.reservations, r.purpose = .sentinel ∧ r.nonce = nonce

theorem createReadinessSentinel_spec (identity : KeyCatalogIdentity) (nonce : Nonce)
    (expected : SourceCommitment) (source : Session) {n : Node} (hs : Sound key n)
    (hd : SentinelDue identity nonce n) :
    wp (createReadinessSentinel key identity nonce expected source) (fun _ => Sound key)
      (fun _ => Sound key) n := by
  obtain ⟨row, hrow, rfl, r, hr, hpurpose, hnonce⟩ := hd
  set e : Encryption := ⟨nonce, readinessPlaintext, Keys.sentinelAad 1 1 row.identity, none,
    n.durable⟩
  have hnoted : Sound key (n.note e) :=
    hs.note_sentinel rfl ⟨rfl, row, hrow, rfl, r, hr, hpurpose, hnonce⟩
  unfold createReadinessSentinel
  cases source with
  | opens =>
    simp only [encrypt, wp_bind, wp_write, wp_pure, wp_demand, wp_require]
    exact ⟨fun _ => ⟨fun _ => ⟨fun _ _ => hnoted, fun _ => hnoted⟩, fun _ => hs⟩, fun _ => hs⟩
  | failsBefore code =>
    simp only [wp_bind, wp_require, wp_stop]
    exact ⟨fun _ => hs, fun _ => hs⟩
  | failsAfter code =>
    simp only [encrypt, wp_bind, wp_write, wp_pure, wp_demand, wp_require, wp_stop]
    exact ⟨fun _ => ⟨fun _ => ⟨fun _ _ => hnoted, fun _ => hnoted⟩, fun _ => hs⟩, fun _ => hs⟩

end Provider

/-! ### The service -/

section Service
variable {key : Bytes}

theorem reserveProfilePreparation_spec (preparation : ProfileKeyPreparation) (id : OpaqueId)
    (commit : Commit) {n : Node} (hs : Sound key n) :
    wp (Node.reserveProfilePreparation preparation id commit) (fun _ => Due key preparation)
      (fun _ => Sound key) n := by
  have hstill := ((Node.reserveProfilePreparation_modest preparation id).still .accepting
    latchCommitAmbiguity commit).wp n
  have heffect := (reserveProfilePreparation_effect preparation id).wp_unitOfWork .accepting
    latchCommitAmbiguity commit n
  unfold Node.reserveProfilePreparation
  rw [wp_iff] at hstill heffect ⊢
  refine ⟨fun a ha => ?_, fun e he => (hstill.2 e he).sound hs⟩
  have hquiet := hstill.1 a ha
  obtain ⟨⟨-, hreserves⟩, -⟩ := heffect.1 a ha
  obtain ⟨hunused, hreserved⟩ := hs.reserves hreserves
  refine ⟨hquiet.sound hs, hreserved, ?_⟩
  unfold Unused
  rw [hquiet.encryptions]
  exact hunused

theorem Publishes.sound {n : Node} {db' : Database} {id : OpaqueId} {w : WrappedProfileKey}
    {runtime : Runtime} (h : Publishes n.durable db' id w) (hs : Sound key n)
    (hencrypted : ∃ e ∈ n.encryptions, e.Wraps key w) :
    Sound key { n with durable := db', runtime, published := n.published ++ [w] } := by
  have hgrows := (Change.publishes h).extends.1
  have hwell := (Change.publishes h).ledger hs.wellFormed
  obtain ⟨row, r, hcatalog, hactive, hcovers, hkek, hr, -, hlifecycle, hnonce, -, -, rfl⟩ := h
  obtain ⟨hmem, hid⟩ := Database.mem_of_reservation hr
  have hledger := hs.wellFormed.ledger hcatalog
  have hcommitted : { r with lifecycle := .committed } ∈ n.durable.commitRows id := by
    have hrow := @Database.mem_commitRows_of n.durable id r hmem
    rwa [if_pos ⟨hid, hlifecycle⟩] at hrow
  -- the row that is inserted holds the record
  have hnew : Stores { n.durable with
      catalog := some { row with revision := row.revision + 1 }
      reservations := n.durable.commitRows id
      wrapped := n.durable.wrapped ++ [wrappedRow id w] } (wrappedRow id w) w :=
    ⟨_, rfl, hcovers, hkek, rfl, rfl, _, hcommitted, hid, hnonce⟩
  exact {
    wellFormed := hwell
    sentinels := fun e he hb => (hs.sentinels e he hb).mono hgrows
    profiles := fun e he b hb => ⟨(hs.profiles e he b hb).1, (hs.profiles e he b hb).2.mono hgrows⟩
    distinct := hs.distinct
    encrypted := by
      intro w' hw'
      rcases List.mem_append.mp hw' with hw' | hw'
      · exact hs.encrypted w' hw'
      · rw [List.mem_singleton.mp hw']
        exact hencrypted
    stored := by
      intro w' hw'
      rcases List.mem_append.mp hw' with hw' | hw'
      · obtain ⟨k, hk, hstores⟩ := hs.stored w' hw'
        exact ⟨k, List.mem_append_left _ hk, hstores.mono hgrows⟩
      · rw [List.mem_singleton.mp hw']
        exact ⟨_, List.mem_append_right _ (List.mem_singleton_self _), hnew⟩
    listed := by
      intro k hk
      rcases List.mem_append.mp hk with hk | hk
      · obtain ⟨w', hw', hstores⟩ := hs.listed k hk
        exact ⟨w', List.mem_append_left _ hw', hstores.mono hgrows⟩
      · rw [List.mem_singleton.mp hk]
        exact ⟨w, List.mem_append_right _ (List.mem_singleton_self _), hnew⟩
    finished := fun _ _ => Option.ne_none_iff_isSome.mp (hledger.finished hactive) }

theorem Publishes.durable_ne {db db' : Database} {id : OpaqueId} {w : WrappedProfileKey}
    (h : Publishes db db' id w) : db' ≠ db := by
  intro hsame
  have hrevision := (Change.publishes h).extends.2
  rw [hsame] at hrevision
  omega

/-- A publication that returns is recorded. -/
theorem publishProfileKey_spec (id : OpaqueId) (preparation : ProfileKeyPreparation)
    (w : WrappedProfileKey) (commit : Commit) {n : Node} (hw : Wrapped key preparation w n) :
    wp (Node.publishProfileKey id preparation w commit)
      (fun _ n' => Sound key n' ∧ w ∈ n'.published) (fun _ => Sound key) n := by
  have heffect := (publishProfileKey_effect id preparation w).wp_unitOfWork .accepting
    latchCommitAmbiguity commit n
  unfold wp Node.publishProfileKey
  unfold wp at heffect
  rcases hrun : unitOfWork .accepting latchCommitAmbiguity commit
    (Keys.publishProfileKey id preparation w) n with ⟨e | a, n'⟩
  · rw [hrun] at heffect
    obtain ⟨hchange, runtime, hn'⟩ := heffect
    dsimp only
    split_ifs with hsame
    · have hquiet : Quiet n n' := by
        rw [hn']
        exact .of_same rfl rfl hsame
      exact hquiet.sound hw.sound
    · rcases hchange with h | ⟨-, h⟩
      · exact (hsame h).elim
      · rw [hn']
        exact h.sound hw.sound hw.encrypted
  · rw [hrun] at heffect
    obtain ⟨hpublishes, hn'⟩ := heffect
    dsimp only
    rw [if_neg hpublishes.durable_ne, hn']
    exact ⟨hpublishes.sound hw.sound hw.encrypted,
      List.mem_append_right _ (List.mem_singleton_self _)⟩

theorem createProfileKey_spec (binding : ProfileKeyBinding) (i : CreateInput) {n : Node}
    (hs : Sound key n) :
    wp (KeyCatalogService.createProfileKey key binding i)
      (fun w n' => Sound key n' ∧ w ∈ n'.published ∧ w.binding = binding) (fun _ => Sound key) n := by
  have hq : ∀ n n', Quiet n n' → Sound key n → Sound key n' := fun _ _ h => h.sound
  unfold KeyCatalogService.createProfileKey
  refine (KeyCatalogService.assertBinding_still key binding _).wp_bind hq hs (fun _ _ h => h)
    fun _ n hs => ?_
  simp only [wp_bind]
  refine wp_mono (KeyCatalogService.wp_orLatch _ hq (prepareProfileKey_spec binding _ _ hs)) ?_
    fun _ _ h => h
  rintro preparation n ⟨hbinding, hs⟩
  refine wp_mono (reserveProfilePreparation_spec preparation _ _ hs) ?_ fun _ _ h => h
  intro id n hd
  refine wp_mono (KeyCatalogService.wp_orLatch _ hq (completeProfileKey_spec preparation _ _ hd)) ?_
    fun _ _ h => h
  intro w n hw
  refine wp_mono (publishProfileKey_spec id preparation w _ hw) ?_ fun _ _ h => h
  rintro _ n ⟨hs, hmem⟩
  exact ⟨hs, hmem, hw.binding.trans hbinding⟩

/-! ### Ceremonies -/

theorem beginInitialization_spec (identity : KeyCatalogIdentity) (nonce : Nonce)
    (commitment : SourceCommitment) (id : OpaqueId) (commit : Commit) {n : Node}
    (hs : Sound key n) :
    wp (Node.beginInitialization identity nonce commitment id commit)
      (fun _ n' => Sound key n' ∧ SentinelDue identity nonce n') (fun _ => Sound key) n := by
  have hstill := ((Node.beginInitialization_modest identity nonce commitment id).still .accepting
    latchCommitAmbiguity commit).wp n
  have heffect := (beginInitialization_effect identity nonce commitment id).wp_unitOfWork .accepting
    latchCommitAmbiguity commit n
  unfold Node.beginInitialization
  rw [wp_iff] at hstill heffect ⊢
  refine ⟨fun a ha => ⟨(hstill.1 a ha).sound hs, ?_⟩, fun e he => (hstill.2 e he).sound hs⟩
  obtain ⟨⟨-, -, hdurable⟩, -⟩ := heffect.1 a ha
  refine ⟨⟨identity, 1, .preparing, 1, commitment⟩, by rw [hdurable], rfl,
    sentinelReservation identity nonce id, ?_, rfl, rfl⟩
  rw [hdurable]
  exact List.mem_append_right _ (List.mem_singleton_self _)

/-- A unit of work that reads returns what it computes from the tables. -/
theorem wp_unitOfWork_reads {α : Type} {t : Transaction α} (ht : Reads t) (needs : Runtime)
    (report : Failure → Raised × Bool) (commit : Commit) (n : Node) :
    wp (unitOfWork needs report commit t)
      (fun a n' => (t ⟨n.durable, n.durable, commit⟩).1 = .ok a ∧ n.runtime = needs ∧ n' = n)
      (fun _ n' => Quiet n n') n := by
  have hquiet := ht.modest.still needs report commit n
  have hdurable := ht.transact commit n.durable
  unfold wp
  unfold unitOfWork transact at hquiet ⊢
  unfold transact at hdurable
  split_ifs at hquiet ⊢ with hruntime
  · generalize t ⟨n.durable, n.durable, commit⟩ = r at hquiet hdurable ⊢
    rcases r with ⟨e | a, w⟩
    · exact hquiet
    · refine ⟨rfl, hruntime, ?_⟩
      dsimp only at hdurable ⊢
      rw [hdurable]
  · exact hquiet

theorem loadCatalog_value {commit : Commit} {db : Database} {s : KeyCatalogSnapshot}
    (h : (loadCatalog ⟨db, db, commit⟩).1 = .ok s) : db.loadSnapshot = .ok s := by
  have hwp : wp loadCatalog (fun s _ => db.loadSnapshot = .ok s) (fun _ _ => True)
      ⟨db, db, commit⟩ := by
    unfold loadCatalog Transaction.start
    simp only [wp_bind, wp_read, wp_require, wp_query]
    exact ⟨fun _ => ⟨fun _ h => h, fun _ _ => trivial⟩, fun _ => trivial⟩
  exact (wp_iff.mp hwp).1 s h

theorem loadInitializationRecord_value {commit : Commit} {db : Database}
    {record : OpaqueId × Nonce × SourceCommitment}
    (h : (loadInitializationRecord ⟨db, db, commit⟩).1 = .ok record) :
    ∃ r ∈ db.reservations, r.purpose = .sentinel ∧ r.nonce = record.2.1 := by
  have hwp : wp loadInitializationRecord (fun record _ =>
      ∃ r ∈ db.reservations, r.purpose = .sentinel ∧ r.nonce = record.2.1) (fun _ _ => True)
      ⟨db, db, commit⟩ := by
    unfold loadInitializationRecord Transaction.start
    simp only [wp_bind, wp_read, wp_require, wp_query]
    refine ⟨fun _ => ⟨fun _ _ => ⟨fun _ => ?_, fun _ => trivial⟩, fun _ _ => trivial⟩,
      fun _ => trivial⟩
    split
    · next r hfilter =>
      have hr : r ∈ db.reservations.filter fun r => r.purpose = .sentinel ∧ r.lifecycle = .reserved := by
        rw [hfilter]
        exact List.mem_singleton_self r
      obtain ⟨hmem, hrow⟩ := List.mem_filter.mp hr
      simp only [wp_bind, wp_demand, wp_pure]
      exact ⟨fun _ _ => ⟨r, hmem, (of_decide_eq_true hrow).1, rfl⟩, fun _ => trivial⟩
    · trivial
  exact (wp_iff.mp hwp).1 record h

section Ceremonies
variable {α : Type} {post : α → Node → Prop} {halt : Fault → Node → Prop}

/-- The ceremony of a catalog that is loaded: its sentinel is encrypted with the reserved nonce. -/
theorem ceremony_spec {identity : KeyCatalogIdentity} {needs : Runtime}
    {report report' : Failure → Raised × Bool} {load record : Commit} {source : Session}
    {rest : OpaqueId × Nonce × SourceCommitment → WrappedReadinessSentinel → Act α}
    (hhalt : ∀ e n, Sound key n → halt e n)
    (hrest : ∀ record sentinel n, Sound key n → wp (rest record sentinel) post halt n) {n : Node}
    (hs : Sound key n) :
    wp (do
      let snapshot ← unitOfWork needs report load loadCatalog
      require (snapshot.identity = identity) (catalogError .identityMismatch)
      require (snapshot.state = .preparing ∧ snapshot.sentinel = none)
        (catalogError .recoveryRequired)
      let record ← unitOfWork needs report' record loadInitializationRecord
      let sentinel ← Provider.createReadinessSentinel key identity record.2.1 record.2.2 source
      rest record sentinel) post halt n := by
  simp only [wp_bind, wp_require]
  refine wp_mono (wp_unitOfWork_reads loadCatalog_reads needs report load n) ?_
    fun e n' h => hhalt e n' (h.sound hs)
  rintro snapshot n ⟨hload, -, rfl⟩
  refine ⟨fun hidentity => ⟨fun _ => ?_, fun _ => hhalt _ _ hs⟩, fun _ => hhalt _ _ hs⟩
  refine wp_mono (wp_unitOfWork_reads loadInitializationRecord_reads needs report' record n) ?_
    fun e n' h => hhalt e n' (h.sound hs)
  rintro record n ⟨hrecord, -, rfl⟩
  obtain ⟨row, hrow, hrowIdentity, -⟩ := Database.loadSnapshot_ok (loadCatalog_value hload)
  have hdue : SentinelDue identity record.2.1 n :=
    ⟨row, hrow, hrowIdentity.symm.trans hidentity, loadInitializationRecord_value hrecord⟩
  exact wp_mono (createReadinessSentinel_spec identity _ _ source hs hdue) (hrest record) hhalt

theorem initializeNativeKeyCatalog_spec {post : Unit → Node → Prop} (identity : KeyCatalogIdentity)
    (i : InitializeInput) (hhalt : ∀ e n, Sound key n → halt e n)
    (hrest : ∀ n, Sound key n → wp (composeNativeKeyCatalog key identity i.compose) post halt n)
    {n : Node} (hs : Sound key n) : wp (initializeNativeKeyCatalog key identity i) post halt n := by
  have hq : ∀ n n', Quiet n n' → Sound key n → Sound key n' := fun _ _ h => h.sound
  unfold initializeNativeKeyCatalog
  refine (still_demand _ _).wp_bind hq hs hhalt fun nonce n hs => ?_
  refine (orRefuse_still _).wp_bind hq hs hhalt fun _ n hs => ?_
  rw [wp_bind]
  refine wp_mono (beginInitialization_spec identity nonce _ _ _ hs) ?_ hhalt
  rintro id n ⟨hs, hdue⟩
  rw [wp_bind]
  refine wp_mono (createReadinessSentinel_spec identity nonce _ _ hs hdue) ?_ hhalt
  intro sentinel n hs
  exact (Node.finishInitialization_still id sentinel _ _).wp_bind hq hs hhalt fun _ => hrest

/-- A ceremony that ends in the composition of the service. -/
theorem resumeNativeKeyCatalogInitialization_spec {post : Unit → Node → Prop}
    (identity : KeyCatalogIdentity) (i : ResumeInput) (hhalt : ∀ e n, Sound key n → halt e n)
    (hrest : ∀ n, Sound key n → wp (composeNativeKeyCatalog key identity i.compose) post halt n)
    {n : Node} (hs : Sound key n) :
    wp (resumeNativeKeyCatalogInitialization key identity i) post halt n := by
  refine ceremony_spec hhalt (fun record sentinel n hs => ?_) hs
  exact (Node.finishInitialization_still _ _ _ _).wp_bind (fun _ _ h => h.sound) hs hhalt
    fun _ => hrest

end Ceremonies

end Service

/-! ### Runs -/

section Runs
variable (key : Bytes)

theorem sound_empty : Sound key {} where
  wellFormed := ⟨rfl, rfl, rfl⟩
  sentinels := nofun
  profiles := nofun
  distinct := .nil
  encrypted := nofun
  stored := nofun
  listed := nofun
  finished := nofun

theorem serve_sound (event : Event) {n : Node} (hs : Sound key n) :
    wp (serve key event) (fun _ => Sound key) (fun _ => Sound key) n := by
  have hkeep : ∀ {α : Type} {c : Act α}, Still c → ∀ n, Sound key n →
      wp c (fun _ => Sound key) (fun _ => Sound key) n :=
    fun hc n hs => wp_mono (hc.wp n) (fun _ _ h => h.sound hs) fun _ _ h => h.sound hs
  have hstill : ∀ {α : Type} {c : Act α}, Still c → ∀ f : α → Reply,
      wp (do pure (f (← c))) (fun _ => Sound key) (fun _ => Sound key) n := by
    intro α c hc f
    rw [wp_bind]
    exact hkeep hc n hs
  cases event with
  | restart runtime => exact hs.of_same rfl rfl rfl
  | reopen runtime => exact hs.of_same rfl rfl rfl
  | initializes identity i =>
    rw [serve, wp_bind]
    exact initializeNativeKeyCatalog_spec identity i (fun _ _ h => h)
      (hkeep (composeNativeKeyCatalog_still key identity _)) hs
  | resumes identity i =>
    rw [serve, wp_bind]
    exact resumeNativeKeyCatalogInitialization_spec identity i (fun _ _ h => h)
      (hkeep (composeNativeKeyCatalog_still key identity _)) hs
  | reconcilesInitialization identity i =>
    rw [serve, wp_bind]
    refine ceremony_spec (fun _ _ h => h) (fun _ _ => hkeep ?_) hs
    exact (Node.finishInitializationForReconciliation_still _ _ _).bind fun _ =>
      (Node.loadCatalogForReconciliation_still _).bind fun _ =>
        (still_require _ _).bind fun _ => still_pure _
  | composes identity i => exact hstill (composeNativeKeyCatalog_still key identity i) fun _ => .done
  | creates binding i =>
    rw [serve, wp_bind]
    exact wp_mono (createProfileKey_spec binding i hs) (fun _ _ h => h.1) fun _ _ h => h
  | opens binding i => exact hstill (KeyCatalogService.openProfileKey_still key binding i) _
  | loads binding commit => exact hstill (Node.loadProfileKey_still binding commit) _
  | reconciles binding commit => exact hstill (Node.reconcileProfileKey_still binding commit) _

theorem advance_sound (n : Node) (event : Event) (hs : Sound key n) :
    Sound key (advance key n event).2 := by
  obtain ⟨hok, herror⟩ := wp_iff.mp (serve_sound key event hs)
  rcases h : (serve key event n).1 with e | r
  · exact herror e h
  · exact hok r h

theorem run_sound (events : List Event) : Sound key (run (advance key) {} events) :=
  run_invariant (advance_sound key) events (sound_empty key)

end Runs

/-! ### Nonce safety -/

section Safety
variable {key : Bytes} {n : Node}

/-- The profile encryptions of one nonce are one. -/
theorem Sound.one_encryption (hs : Sound key n) (nonce : Nonce) :
    (n.encryptions.countP fun e => e.binding.isSome ∧ e.nonce = nonce) ≤ 1 := by
  have hcount : (n.encryptions.countP fun e => e.binding.isSome ∧ e.nonce = nonce) =
      (n.encryptions.filter fun e => e.binding.isSome).countP fun e => e.nonce = nonce := by
    rw [List.countP_filter]
    congr 1
    funext e
    simp [and_comm]
  rw [hcount]
  have hdistinct := hs.distinct
  generalize n.encryptions.filter (fun e => e.binding.isSome) = l at hdistinct ⊢
  induction hdistinct with
  | nil => exact Nat.zero_le 1
  | @cons e l he _ ih =>
    by_cases h : e.nonce = nonce
    · have hnone : l.countP (fun e => e.nonce = nonce) = 0 := by
        rw [List.countP_eq_zero]
        intro e' he' heq
        exact he e' he' (h.trans (of_decide_eq_true heq).symm)
      rw [List.countP_cons, hnone, if_pos (decide_eq_true h)]
    · rw [List.countP_cons_of_neg (by simpa using h)]
      exact ih

/-- The nonces of the sentinel and of a profile key are apart. -/
theorem Sound.sentinel_apart (hs : Sound key n) {e e' : Encryption} (he : e ∈ n.encryptions)
    (he' : e' ∈ n.encryptions) (hb : e.binding = none) {b : ProfileKeyBinding}
    (hb' : e'.binding = some b) : e.nonce ≠ e'.nonce := by
  intro hnonce
  obtain ⟨-, row, hrow, -, r, hr, hpurpose, hr'⟩ := hs.sentinels e he hb
  obtain ⟨-, row', -, -, r', hr₁, hpurpose', hr₁', -⟩ := hs.profiles e' he' b hb'
  have hledger := hs.wellFormed.ledger hrow
  have hsame : r = r' :=
    List.inj_on_of_nodup_map hledger.nonces hr hr₁ (hr'.trans (hnonce.trans hr₁'.symm))
  rw [hsame, hpurpose'] at hpurpose
  cases hpurpose

theorem Sound.same_encryption (hs : Sound key n) {e e' : Encryption} (he : e ∈ n.encryptions)
    (he' : e' ∈ n.encryptions) (hnonce : e.nonce = e'.nonce) :
    e.plaintext = e'.plaintext ∧ e.aad = e'.aad := by
  cases hb : e.binding with
  | none =>
    cases hb' : e'.binding with
    | none =>
      obtain ⟨hplaintext, row, hrow, haad, -⟩ := hs.sentinels e he hb
      obtain ⟨hplaintext', row', hrow', haad', -⟩ := hs.sentinels e' he' hb'
      cases hrow.symm.trans hrow'
      exact ⟨hplaintext.trans hplaintext'.symm, haad.trans haad'.symm⟩
    | some b => exact (hs.sentinel_apart he he' hb hb' hnonce).elim
  | some b =>
    cases hb' : e'.binding with
    | none => exact (hs.sentinel_apart he' he hb' hb hnonce.symm).elim
    | some b' =>
      have hmem : e ∈ n.encryptions.filter fun e => e.binding.isSome :=
        List.mem_filter.mpr ⟨he, by rw [hb]; rfl⟩
      have hmem' : e' ∈ n.encryptions.filter fun e => e.binding.isSome :=
        List.mem_filter.mpr ⟨he', by rw [hb']; rfl⟩
      have hnodup : ((n.encryptions.filter fun e => e.binding.isSome).map Encryption.nonce).Nodup :=
        List.pairwise_map.mpr hs.distinct
      rw [List.inj_on_of_nodup_map hnodup hmem hmem' hnonce]
      exact ⟨rfl, rfl⟩

end Safety

/-- In any run, two encryptions under the key with one nonce are of one plaintext and associated
data; a profile key is encrypted when a reservation of its nonce and binding is durable; and a
reservation is used for one profile key at most. -/
theorem nonce_safety (key : Bytes) (events : List Event) :
    (∀ e ∈ (run (advance key) {} events).encryptions,
      ∀ e' ∈ (run (advance key) {} events).encryptions,
        e.nonce = e'.nonce → e.plaintext = e'.plaintext ∧ e.aad = e'.aad) ∧
    (∀ e ∈ (run (advance key) {} events).encryptions, ∀ b, e.binding = some b →
      Reserved e.ledger e.nonce b) ∧
    ∀ r ∈ (run (advance key) {} events).durable.reservations,
      ((run (advance key) {} events).encryptions.countP fun e =>
        e.binding.isSome ∧ e.nonce = r.nonce) ≤ 1 := by
  have hs := run_sound key events
  exact ⟨fun _ he _ he' => hs.same_encryption he he', fun e he b hb => (hs.profiles e he b hb).1,
    fun r _ => hs.one_encryption r.nonce⟩

end MyCogni.Keys
