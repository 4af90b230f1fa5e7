import MyCogni.Keys.Healthy

/-! A service that is handed over is healthy, and a first initialization that nothing disturbs hands
one over. -/

namespace MyCogni.Keys
open Auth Command

/-! ### Readiness of a provider -/

section Readiness
variable {key : Bytes} {n : Node} {p : Provider}

/-- What readiness has established of the nonces of the process. -/
structure Recorded (p : Provider) (w : WrapState) : Prop where
  fresh : w.nonceReuseLatched = false
  apart : p.sentinelNonce ∉ w.usedNonces
  recorded : w.sentinelRecord p.sentinelNonce = some p.sentinelRecordCommitment

theorem sentinelRecord_recordSentinel {w : WrapState} {nonce : Nonce} {c : Bytes}
    (h : ∀ c' ∈ w.sentinelRecord nonce, c' = c) :
    (w.recordSentinel nonce c).sentinelRecord nonce = some c := by
  unfold WrapState.recordSentinel
  split_ifs with hsome
  · obtain ⟨c', hc'⟩ := Option.isSome_iff_exists.mp hsome
    rw [hc', h c' hc']
  · have hnone : w.sentinelRecord nonce = none := Option.not_isSome_iff_eq_none.mp hsome
    unfold WrapState.sentinelRecord at hnone ⊢
    rw [Option.map_eq_none_iff] at hnone
    rw [List.find?_append, hnone, Option.none_or, List.find?_cons_of_pos (by simp), Option.map_some]

theorem recordAuthenticatedSentinel_spec (p : Provider) (n : Node) :
    wp (Provider.recordAuthenticatedSentinel p)
      (fun _ n' => ∃ w, Recorded p w ∧ n' = { n with wrap := some w }) (fun _ _ => True) n := by
  unfold Provider.recordAuthenticatedSentinel
  simp only [wp_bind, wp_write, wp_read, wp_demand, wp_require, wp_ite, wp_stop]
  refine ⟨fun w _ => ⟨fun hfresh => ⟨fun _ => ?_, fun hguard => ?_⟩, fun _ => trivial⟩,
    fun _ => trivial⟩
  · exact wp_mono (Provider.latchNonceReuse_still.wp _) (fun _ _ _ => trivial) fun _ _ _ => trivial
  · obtain ⟨hused, hrecord⟩ := not_or.mp hguard
    refine ⟨_, ⟨?_, ?_, sentinelRecord_recordSentinel fun c hc => ?_⟩, rfl⟩
    · unfold WrapState.recordSentinel
      split_ifs <;> exact hfresh
    · unfold WrapState.recordSentinel
      split_ifs <;> exact hused
    · by_contra hne
      exact hrecord ⟨c, hc, hne⟩

/-- The sentinel that the provider holds opens under the key. -/
def Authentic (key : Bytes) (p : Provider) : Prop :=
  AesGcm.decrypt key p.sentinelNonce.bytes p.sentinel.envelope.ciphertext p.sentinelAad =
    some readinessPlaintext

theorem authenticate_spec (key : Bytes) (p : Provider) (n : Node) :
    wp (Provider.authenticate key p) (fun b n' => b = true → Authentic key p ∧
      ∃ w, Recorded p w ∧ n' = { n with wrap := some w }) (fun _ _ => True) n := by
  unfold Provider.authenticate Authentic
  split
  · exact nofun
  · next plaintext hdecrypt =>
    simp only [wp_ite, wp_bind]
    refine ⟨fun _ => nofun, fun _ => wp_mono (recordAuthenticatedSentinel_spec p n) ?_ fun _ _ h => h⟩
    intro _ n' hn'
    refine ⟨fun _ => nofun, fun hplaintext _ => ⟨?_, hn'⟩⟩
    rw [hdecrypt, not_not.mp hplaintext]

theorem wp_orNotReady {c : Act Bool} {post : Bool → Node → Prop}
    (hc : wp c post (fun _ _ => True) n) (hfalse : ∀ n', post false n') :
    wp (Provider.orNotReady c) post (fun _ _ => True) n := by
  unfold wp at hc ⊢
  unfold Provider.orNotReady
  rcases h : c n with ⟨(code | r | _) | b, n'⟩
  · exact hfalse _
  · trivial
  · trivial
  · rw [h] at hc
    exact hc

/-- A provider that says it is ready has its sentinel recorded, and nothing else has changed. -/
theorem readiness_spec (source : Session) (shared : Bool) (hp : n.provider = some p) :
    wp (Provider.readiness key source shared) (fun b n' => b = true → Authentic key p ∧
      p.recoveryLatched = false ∧ ∃ w, Recorded p w ∧ w.limit = p.identity.usageLimit ∧
        n' = { n with
          wrap := some w
          provider := some { p with activated := true, pinned := true } }) (fun _ _ => True) n := by
  have hlive : Provider.live n = (.ok p, n) := by
    unfold Provider.live
    rw [bind_ok (show Command.read n = (.ok n, n) from rfl), demand_some hp]
  unfold Provider.readiness
  unfold wp
  rw [bind_ok hlive]
  change wp _ _ _ n
  rw [wp_ite]
  refine ⟨fun _ h => (Bool.false_ne_true h).elim, fun hunlatched =>
    wp_orNotReady ?_ fun _ h => (Bool.false_ne_true h).elim⟩
  cases source with
  | failsBefore code => trivial
  | failsAfter code =>
    -- whatever the work ended in, the session ends in a failure
    rw [wp_bind]
    unfold wp
    rcases h : Provider.authenticate key p n with ⟨e | b, n'⟩
    · rw [Provider.session_after_error h]
      trivial
    · rw [Provider.session_after_ok h]
      trivial
  | opens =>
    rw [session_opens, wp_bind]
    refine wp_mono (authenticate_spec key p n) ?_ fun _ _ h => h
    intro authentic n' hauthentic
    simp only [wp_ite, wp_pure]
    refine ⟨fun htrue => ?_, fun _ => nofun⟩
    obtain ⟨hkey, w, hrecorded, rfl⟩ := hauthentic htrue
    unfold Provider.activateKeyDomain
    simp only [wp_bind, wp_read, wp_demand, wp_require, wp_write, wp_pure]
    refine ⟨fun w' hw' => ⟨fun _ => ⟨fun hlimit => ⟨fun _ _ => ?_, fun _ => trivial⟩, fun _ => trivial⟩,
      fun _ => trivial⟩, fun _ => trivial⟩
    cases hw'
    refine ⟨hkey, by simpa using hunlatched, w, hrecorded, hlimit, ?_⟩
    rw [hp]
    rfl

end Readiness

/-! ### A composed service is healthy -/

section Compose
variable {key : Bytes} {n : Node}

theorem wp_orDiscard {α : Type} {c : Act α} {post : α → Node → Prop}
    (hc : wp c post (fun _ _ => True) n) : wp (orDiscard c) post (fun _ _ => True) n := by
  unfold wp at hc ⊢
  unfold orDiscard
  rcases h : c n with ⟨e | a, n'⟩
  · trivial
  · rw [h] at hc
    exact hc

/-- The provider of the process is composed for the catalog on the disk. -/
structure Composing (key : Bytes) (n : Node) (p : Provider) (row : CatalogRow) : Prop where
  sound : Sound key n
  provider : n.provider = some p
  catalog : n.durable.catalog = some row
  identity : row.identity = p.identity
  active : row.state = .active

theorem serviceReadiness_spec {p : Provider} {row : CatalogRow} (hc : Composing key n p row)
    (i : ReadinessInput) :
    wp (KeyCatalogService.readiness key i)
      (fun _ n' => ∃ w, Healthy key n' { p with activated := true, pinned := true } w row)
      (fun _ _ => True) n := by
  have hlive : Provider.live n = (.ok p, n) := by
    unfold Provider.live
    rw [bind_ok (show Command.read n = (.ok n, n) from rfl), demand_some hc.provider]
  unfold KeyCatalogService.readiness
  unfold wp
  rw [bind_ok hlive]
  change wp _ _ _ n
  simp only [wp_bind, wp_require]
  refine wp_mono (wp_unitOfWork_reads loadCatalog_reads .accepting latchLoad i.load n) ?_
    fun _ _ _ => trivial
  rintro snapshot n ⟨-, hruntime, rfl⟩
  refine ⟨fun _ => ⟨fun _ => ?_, fun _ => trivial⟩, fun _ => trivial⟩
  refine wp_mono (readiness_spec i.source i.shared hc.provider) ?_ fun _ _ _ => trivial
  intro ready n' hready
  simp only [wp_ite, wp_bind, wp_pure, wp_stop]
  refine ⟨fun htrue => ?_, fun _ => ?_⟩
  · obtain ⟨hauthentic, hunlatched, w, hrecorded, hlimit, rfl⟩ := hready htrue
    exact ⟨w, {
      sound := hc.sound.of_same rfl rfl rfl
      accepting := hruntime
      provider := rfl
      wrap := rfl
      catalog := hc.catalog
      identity := hc.identity
      active := hc.active
      unlatched := hunlatched
      pinned := rfl
      activated := rfl
      authentic := hauthentic
      fresh := hrecorded.fresh
      apart := hrecorded.apart
      recorded := hrecorded.recorded
      limit := hlimit }⟩
  · exact wp_mono ((Node.requireRecovery_still _).wp n') (fun _ _ _ => trivial) fun _ _ _ => trivial

/-- Whatever else happened, a service that is handed over is healthy. -/
theorem composeNativeKeyCatalog_spec (identity : KeyCatalogIdentity) (i : ComposeInput)
    (hs : Sound key n) :
    wp (composeNativeKeyCatalog key identity i) (fun _ n' => ∃ p w row, Healthy key n' p w row)
      (fun _ _ => True) n := by
  unfold composeNativeKeyCatalog
  simp only [wp_bind, wp_require, wp_demand, wp_read, wp_write, wp_pure]
  refine wp_mono (wp_unitOfWork_reads loadCatalog_reads .accepting latchLoad i.load n) ?_
    fun _ _ _ => trivial
  rintro snapshot n ⟨hload, -, rfl⟩
  obtain ⟨row, hcatalog, hrowIdentity, hrowState, -⟩ :=
    Database.loadSnapshot_ok (loadCatalog_value hload)
  refine ⟨fun hidentity => ⟨fun hstate => ⟨fun sentinel _ => ⟨fun _ => ⟨fun _ => ?_, fun _ => trivial⟩,
    fun _ => trivial⟩, fun _ => trivial⟩, fun _ => trivial⟩, fun _ => trivial⟩
  unfold orRefuse
  cases i.refused with
  | some code => trivial
  | none =>
    have hcomposing : Composing key { n with provider := some { identity, sentinel } }
        { identity, sentinel } row :=
      { sound := hs.of_same rfl rfl rfl
        provider := rfl
        catalog := hcatalog
        identity := hrowIdentity.symm.trans hidentity
        active := hrowState.symm.trans hstate }
    refine ⟨fun _ => ?_, fun _ => trivial⟩
    refine wp_mono (wp_orDiscard (serviceReadiness_spec hcomposing i.readiness)) ?_
      fun _ _ _ => trivial
    rintro _ n' ⟨w, h⟩
    exact ⟨_, w, _, h⟩

/-- The calls that hand a service over. -/
def Event.HandsOver : Event → Prop
  | .initializes .. | .resumes .. | .composes .. => True
  | _ => False

theorem advance_healthy {event : Event} (hevent : event.HandsOver) (hs : Sound key n) {r : Reply}
    (hok : (advance key n event).1 = .ok r) :
    ∃ p w row, Healthy key (advance key n event).2 p w row := by
  have hcompose : ∀ identity i n, Sound key n → wp (composeNativeKeyCatalog key identity i)
      (fun _ n' => ∃ p w row, Healthy key n' p w row) (fun _ _ => True) n :=
    fun identity i n => composeNativeKeyCatalog_spec identity i
  have hwp : wp (serve key event) (fun _ n' => ∃ p w row, Healthy key n' p w row)
      (fun _ _ => True) n := by
    cases event with
    | initializes identity i =>
      rw [serve, wp_bind]
      exact initializeNativeKeyCatalog_spec identity i (fun _ _ _ => trivial) (hcompose identity _) hs
    | resumes identity i =>
      rw [serve, wp_bind]
      exact resumeNativeKeyCatalogInitialization_spec identity i (fun _ _ _ => trivial)
        (hcompose identity _) hs
    | composes identity i =>
      rw [serve, wp_bind]
      exact hcompose identity i n hs
    | _ => exact hevent.elim
  exact (wp_iff.mp hwp).1 r hok

end Compose

/-! ### The first initialization -/

section First
variable (key : Bytes) (identity : KeyCatalogIdentity) (nonce : Nonce) (id : OpaqueId)

/-- The sentinel of the catalog under the key. -/
def sentinelOf : WrappedReadinessSentinel where
  kekRef := identity.activeKek
  installationId := identity.installationId
  catalogId := identity.catalogId
  sentinelId := identity.sentinelId
  nonce
  envelope := .ofCiphertext
    (AesGcm.encrypt key nonce.bytes readinessPlaintext (sentinelAad 1 1 identity))
    (by rw [AesGcm.length_encrypt]; rfl)

def providerOf : Provider := { identity, sentinel := sentinelOf key identity nonce }

theorem providerOf_authentic : Authentic key (providerOf key identity nonce) :=
  AesGcm.decrypt_encrypt ..

/-- The tables that the initialization leaves. -/
def firstTables : Database :=
  finished identity nonce (sourceCommitment key) id (sentinelOf key identity nonce).envelope

/-- The process after an initialization that nothing disturbs. -/
def first : Node where
  durable := firstTables key identity nonce id
  runtime := .accepting
  wrap := some
    { limit := identity.usageLimit
      sentinelRecords := [(nonce, (providerOf key identity nonce).sentinelRecordCommitment)] }
  provider := some { providerOf key identity nonce with pinned := true, activated := true }
  encryptions := [⟨nonce, readinessPlaintext, sentinelAad 1 1 identity, none,
    begun identity nonce (sourceCommitment key) id⟩]

variable {key identity nonce id}

theorem finish_first :
    transact .known (finishInitialization id (sentinelOf key identity nonce))
      (begun identity nonce (sourceCommitment key) id) =
        (.ok (), firstTables key identity nonce id) :=
  finishInitialization_ok ⟨rfl, rfl, rfl, rfl⟩ rfl

theorem firstTables_ledger : Ledger (firstTables key identity nonce id)
    ⟨identity, 2, .active, 1, sourceCommitment key⟩ := by
  have h := (finishInitialization_effect id (sentinelOf key identity nonce)).transact .known
    (begun identity nonce (sourceCommitment key) id)
  rw [finish_first] at h
  rcases h with h | ⟨_, h⟩
  · cases congrArg Database.revision h
  · exact h.ledger begun_ledger

theorem firstTables_snapshot : ∃ s : KeyCatalogSnapshot,
    (firstTables key identity nonce id).loadSnapshot = .ok s ∧ s.identity = identity ∧
      s.state = .active ∧ s.sentinel = some (sentinelOf key identity nonce) := by
  have hledger := @firstTables_ledger key identity nonce id
  obtain ⟨s, hs, hidentity, hstate, -⟩ := hledger.snapshot rfl rfl
  refine ⟨s, hs, hidentity, hstate, ?_⟩
  have hread : (firstTables key identity nonce id).readSentinel
      ⟨identity, 2, .active, 1, sourceCommitment key⟩ = .ok (some (sentinelOf key identity nonce)) := by
    have hfound : (firstTables key identity nonce id).reservation id =
        some { sentinelReservation identity nonce id with lifecycle := .committed } :=
      Database.reservation_of_mem hledger.ids (List.mem_singleton_self _)
    unfold Database.readSentinel
    dsimp only [firstTables, finished] at hfound ⊢
    rw [hfound]
    rfl
  unfold Database.loadSnapshot at hs
  change (do
    let sentinel ← (firstTables key identity nonce id).readSentinel
      ⟨identity, 2, .active, 1, sourceCommitment key⟩
    _) = _ at hs
  rw [hread, ok_bind] at hs
  obtain ⟨_, -, hmake⟩ := bind_eq_ok_iff.mp hs
  exact (KeyCatalogSnapshot.make_ok hmake).2.2.2

/-- The encryption of the first sentinel. -/
theorem createReadinessSentinel_ok (hkind : identity.activeKek.providerKind = ownerFileProviderKind)
    (n : Node) :
    Provider.createReadinessSentinel key identity nonce (sourceCommitment key) .opens n =
      (.ok (sentinelOf key identity nonce),
        n.note ⟨nonce, readinessPlaintext, sentinelAad 1 1 identity, none, n.durable⟩) := by
  have hrun : Provider.encrypt key nonce readinessPlaintext (sentinelAad 1 1 identity) none n =
      (.ok (AesGcm.encrypt key nonce.bytes readinessPlaintext (sentinelAad 1 1 identity)),
        n.note ⟨nonce, readinessPlaintext, sentinelAad 1 1 identity, none, n.durable⟩) := rfl
  have henvelope : Provider.envelope
      (AesGcm.encrypt key nonce.bytes readinessPlaintext (sentinelAad 1 1 identity)) =
        some (sentinelOf key identity nonce).envelope := by
    unfold Provider.envelope
    rw [dif_pos (by rw [AesGcm.length_encrypt]; rfl)]
    rfl
  unfold Provider.createReadinessSentinel
  dsimp only
  rw [bind_ok (require_pos hkind _ _), bind_ok (require_pos rfl _ _), bind_ok hrun,
    bind_ok (demand_some henvelope _ _)]
  rfl

/-- The composition of the first service, once the tables stand. -/
theorem compose_first (hkind : identity.activeKek.providerKind = ownerFileProviderKind)
    (encryptions : List Encryption) :
    composeNativeKeyCatalog key identity {}
      { durable := firstTables key identity nonce id, runtime := .accepting, encryptions } =
        (.ok (), { first key identity nonce id with encryptions }) := by
  set p := providerOf key identity nonce
  obtain ⟨s, hs, hidentity, hstate, hsentinel⟩ := @firstTables_snapshot key identity nonce id
  have htransact := transact_loadCatalog (firstTables key identity nonce id)
  rw [hs] at htransact
  have hload : ∀ {n : Node}, n.durable = firstTables key identity nonce id →
      n.runtime = .accepting → Node.loadCatalog .known n = (.ok s, n) := by
    intro n hdurable hruntime
    have h := @unitOfWork_ok _ .accepting latchLoad .known loadCatalog n s n.durable hruntime
      (by rw [hdurable]; exact htransact)
    exact h
  set n₀ : Node := { durable := firstTables key identity nonce id, runtime := .accepting, encryptions }
  set n₁ : Node := { n₀ with provider := some p }
  set w : WrapState :=
    { limit := identity.usageLimit, sentinelRecords := [(nonce, p.sentinelRecordCommitment)] }
  -- the provider records its sentinel in the fresh process
  have hrecord : Provider.recordAuthenticatedSentinel p n₁ = (.ok (), { n₁ with wrap := some w }) := by
    unfold Provider.recordAuthenticatedSentinel
    rw [bind_ok (show Command.write _ n₁ =
        (.ok (), { n₁ with wrap := some { limit := identity.usageLimit } }) from rfl),
      bind_ok (show Command.read _ = (.ok _, _) from rfl), bind_ok (demand_some rfl _ _),
      bind_ok (require_pos rfl _ _), if_neg (by rintro (h | ⟨c, hc, -⟩) <;> contradiction)]
    rfl
  have hauthenticate : Provider.authenticate key p n₁ = (.ok true, { n₁ with wrap := some w }) := by
    have hauthentic := providerOf_authentic key identity nonce
    unfold Authentic at hauthentic
    unfold Provider.authenticate
    rw [hauthentic]
    dsimp only
    rw [if_neg (fun h => h rfl), bind_ok hrecord, if_neg (fun h => h rfl)]
    rfl
  have hrecorded : w.sentinelRecord p.sentinelNonce = some p.sentinelRecordCommitment := by
    have hfind : w.sentinelRecords.find? (fun r => r.1 = p.sentinelNonce) =
        some (nonce, p.sentinelRecordCommitment) :=
      List.find?_cons_of_pos (by exact decide_eq_true rfl)
    unfold WrapState.sentinelRecord
    rw [hfind, Option.map_some]
  have hlimit : w.limit = p.identity.usageLimit := rfl
  have hunlatched : ¬p.recoveryLatched = true := nofun
  have hidentity' : s.identity = p.identity := hidentity
  have hactivate : Provider.activateKeyDomain p false { n₁ with wrap := some w } =
      (.ok (), { n₁ with wrap := some w, provider := some { p with activated := true } }) := by
    unfold Provider.activateKeyDomain
    rw [bind_ok (show Command.read _ = (.ok _, _) from rfl), bind_ok (demand_some rfl _ _),
      bind_ok (require_pos ⟨rfl, hrecorded⟩ _ _), bind_ok (require_pos hlimit _ _),
      bind_ok (require_pos (.inr rfl) _ _)]
    rfl
  have hbody : (do
      let authentic ← Provider.session .opens (Provider.authenticate key p)
      if authentic then do
        Provider.activateKeyDomain p false
        write fun n => { n with provider := n.provider.map fun p => { p with pinned := true } }
        pure true
      else pure false : Act Bool) n₁ = (.ok true, { first key identity nonce id with encryptions }) := by
    rw [session_opens, bind_ok hauthenticate, if_pos rfl, bind_ok hactivate]
    rfl
  have hready : Provider.readiness key .opens false n₁ =
      (.ok true, { first key identity nonce id with encryptions }) := by
    unfold Provider.readiness
    rw [bind_ok (show Provider.live n₁ = (.ok p, n₁) from rfl), if_neg hunlatched]
    unfold Provider.orNotReady
    rw [hbody]
  have hservice : KeyCatalogService.readiness key {} n₁ =
      (.ok s, { first key identity nonce id with encryptions }) := by
    unfold KeyCatalogService.readiness
    rw [bind_ok (show Provider.live n₁ = (.ok p, n₁) from rfl), bind_ok (hload rfl rfl),
      bind_ok (require_pos hidentity' _ _), bind_ok (require_pos hstate _ _), bind_ok hready,
      if_pos rfl]
    rfl
  have hdiscard : orDiscard (KeyCatalogService.readiness key {}) n₁ =
      (.ok s, { first key identity nonce id with encryptions }) := by
    unfold orDiscard
    rw [hservice]
  unfold composeNativeKeyCatalog
  rw [bind_ok (hload rfl rfl), bind_ok (require_pos hidentity _ _), bind_ok (require_pos hstate _ _),
    bind_ok (demand_some hsentinel _ _), bind_ok (require_pos hkind _ _),
    bind_ok (require_pos ⟨rfl, rfl, rfl, rfl⟩ _ _),
    bind_ok (show orRefuse none _ = (.ok (), _) from rfl),
    bind_ok (show Command.read _ = (.ok _, _) from rfl), bind_ok (require_pos rfl _ _),
    bind_ok (show Command.write _ n₀ = (.ok (), n₁) from rfl), bind_ok hdiscard]
  rfl

/-- The whole ceremony in a fresh process over an empty database. -/
theorem initialize_first (hkind : identity.activeKek.providerKind = ownerFileProviderKind) :
    initializeNativeKeyCatalog key identity { nonce := some nonce, reservationId := id }
      { runtime := .accepting } = (.ok (), first key identity nonce id) := by
  obtain ⟨s, hs, -, -⟩ := @firstTables_snapshot key identity nonce id
  have htransact := transact_loadCatalog (firstTables key identity nonce id)
  rw [hs] at htransact
  set begunNode : Node :=
    { durable := begun identity nonce (sourceCommitment key) id, runtime := .accepting }
  have hbegin : Node.beginInitialization identity nonce (sourceCommitment key) id .known
      { runtime := .accepting } = (.ok id, begunNode) := unitOfWork_ok rfl beginInitialization_ok
  have hsentinel := @createReadinessSentinel_ok key identity nonce hkind begunNode
  have hfinish : Node.finishInitialization id (sentinelOf key identity nonce) .known .known
      (begunNode.note ⟨nonce, readinessPlaintext, sentinelAad 1 1 identity, none,
        begun identity nonce (sourceCommitment key) id⟩) =
      (.ok s,
        { durable := firstTables key identity nonce id
          runtime := .accepting
          encryptions := (first key identity nonce id).encryptions }) := by
    have hcommit : unitOfWork .accepting latchCommitAmbiguity .known
        (finishInitialization id (sentinelOf key identity nonce))
        (begunNode.note ⟨nonce, readinessPlaintext, sentinelAad 1 1 identity, none,
          begun identity nonce (sourceCommitment key) id⟩) = (.ok (), _) :=
      unitOfWork_ok rfl finish_first
    unfold Node.finishInitialization
    rw [bind_ok hcommit]
    exact unitOfWork_ok rfl htransact
  unfold initializeNativeKeyCatalog
  rw [bind_ok (demand_some rfl _ _), bind_ok (show orRefuse none _ = (.ok (), _) from rfl),
    bind_ok hbegin, bind_ok hsentinel, bind_ok hfinish]
  exact compose_first hkind _

end First

end MyCogni.Keys
