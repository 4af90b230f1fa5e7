import MyCogni.Mailbox.Delivery

/-! Accepted work and its delivery. What the service accepted is retained until it is claimed or
withdrawn, so that whether it is delivered depends on the constructors of the replies alone. -/

namespace MyCogni.Mailbox
variable {cfg : Config} {s : Repository} {i : Call × Env} {id : Uuid} {r r' : Record}
  {b : ActionBinding} {c k e key rc : Bytes}

/-! ### The identity of a mailbox -/

/-- The record was opened for the binding, with the two credentials. -/
structure Identified (b : ActionBinding) (c k : Bytes) (r : Record) : Prop where
  binding : r.binding = b
  claim : r.claimCredentialDigest = credentialDigest c
  collection : r.collectionCredentialDigest = credentialDigest k

theorem Identified.evolves (h : Identified b c k r) (hevolves : Evolves i id r r') :
    Identified b c k r' := by
  cases hevolves with
  | same => exact h
  | _ => exact ⟨h.binding, h.claim, h.collection⟩

/-- The mailbox that a request opened. -/
theorem identified_of_open {a : Bytes} {env : Env} {v : Reply}
    (h : (serve cfg s (.openEmpty b a c k, env)).1 = .ok v) :
    (∃ r, (serve cfg s (.openEmpty b a c k, env)).2.records.get? b.mailboxId = some r ∧
        Identified b c k r) ∧
      requireCredentialBytes c = .ok () ∧ requireCredentialBytes k = .ok () := by
  rcases serve_cases s (.openEmpty b a c k, env) with ⟨e, -, hserve⟩ | ⟨call, hcall, hserve⟩
  · rw [hserve] at h
    exact nomatch h
  · have hpair : requirePairwiseCredentials [a, c, k] = .ok () := by
      simp only [Request.call, bind_eq_ok_iff] at hcall
      obtain ⟨⟨⟩, hpair, -⟩ := hcall
      exact hpair
    have hsizes := (requirePairwiseCredentials_eq_ok hpair).1
    refine ⟨?_, ensure_eq_ok.mpr (hsizes c (by simp)), ensure_eq_ok.mpr (hsizes k (by simp))⟩
    rw [hserve] at h ⊢
    cases Request.call_makes hcall with
    | openEmpty =>
      have hstep := apply_step cfg s (.create b (credentialDigest a) (credentialDigest c)
        (credentialDigest k), env)
      rw [h] at hstep
      generalize (apply cfg s _).2 = s' at hstep ⊢
      cases hstep with
      | @created _ _ _ _ _ now => exact ⟨_, Dict.get?_set_self .., rfl, rfl, rfl⟩

/-! ### Offered actions -/

/-- The record retains an offered action that nobody claimed yet. -/
structure Pending (b : ActionBinding) (c k e key rc : Bytes) (r : Record) : Prop
    extends Identified b c k r where
  state : r.state = .offered
  envelope : r.envelopeJson = some e
  actionKey : r.actionKey = some key
  resultCredential : r.resultCredential = some rc

/-- An abandonment of the mailbox took effect. -/
def Abandons (cfg : Config) (s : Repository) (i : Call × Env) (id : Uuid) : Prop :=
  ∃ d r', i.1 = .abandon id d ∧ (apply cfg s i).2.records.get? id = some r' ∧
    r'.state = .abandoned

/-- The action is pending, or its claim deadline has passed. -/
def PendingOrLate (b : ActionBinding) (c k e key rc : Bytes) (s : Repository) : Prop :=
  (∃ r, s.records.get? b.mailboxId = some r ∧ Pending b c k e key rc r) ∨
    ∃ t, s.installationLastSeenUtc = some t ∧ b.claimDeadlineUtc ≤ t

theorem PendingOrLate.step (hs : Coherent cfg s) (h : PendingOrLate b c k e key rc s)
    (i : Call × Env) :
    PendingOrLate b c k e key rc (apply cfg s i).2 ∨
      ClaimTakesEffect cfg s i b.mailboxId ∨ Abandons cfg s i b.mailboxId := by
  have hnext := (apply_step cfg s i).coherent hs
  rcases h with ⟨r, hr, hp⟩ | ⟨t, ht, hle⟩
  · rcases apply_record cfg s i hr with ⟨r', hr', hevolves⟩ | hcollected
    · have hid := hp.toIdentified.evolves hevolves
      have hdeadline : r.deadline = b.claimDeadlineUtc := by
        rw [Record.deadline, if_pos (Or.inr hp.state), hp.binding]
      cases hevolves with
      | same => exact Or.inl (Or.inl ⟨r, hr', hp⟩)
      | seen =>
        exact Or.inl (Or.inl ⟨_, hr', hid, hp.state, hp.envelope, hp.actionKey,
          hp.resultCredential⟩)
      | closed now hopen hend =>
        rcases hend with ⟨rfl, hdue⟩ | ⟨rfl, d, hi⟩
        · obtain ⟨t, ht, hle⟩ := (hnext.record _ _ hr').seen
          exact Or.inl (Or.inr ⟨t, ht, (hdeadline ▸ hdue).trans hle⟩)
        · exact Or.inr (Or.inr ⟨d, _, hi, hr', rfl⟩)
      | offered _ _ _ _ _ hstate => simp [hp.state] at hstate
      | claimed now hi _ hstate => exact Or.inr (Or.inl ⟨r, _, hr, hstate, hr', rfl⟩)
      | staged _ _ hstate => simp [hp.state] at hstate
      | committed _ _ _ _ _ hstate => simp [hp.state] at hstate
      | delivering _ hstate => simp [hp.state] at hstate
      | acknowledged _ _ hstate => simp [hp.state] at hstate
    · -- an offered record has no terminal time
      obtain ⟨d, r₁, now, expiresAt, -, -, hr₁, hdue, -⟩ := hcollected
      obtain rfl := Option.some.inj (hr.symm.trans hr₁)
      have hopen := lifecycle_open (hs.record _ _ hr).lifecycle (by simp [hp.state, MailboxState.isOpen])
      simp [terminalDue, hopen] at hdue
  · obtain ⟨t', ht', hle'⟩ := (apply_step cfg s i).noEarlier t ht
    exact Or.inl (Or.inr ⟨t', ht', hle.trans hle'⟩)

/-- An offer that the service accepted leaves its canonical action pending. -/
theorem pending_of_offer {actionJson issued : Bytes} {env : Env} {v : Reply}
    (hid : ∀ r, s.records.get? b.mailboxId = some r → Identified b c k r)
    (h : (serve cfg s (.offer b actionJson key k issued, env)).1 = .ok v) :
    ∃ action, cfg.pydantic.validateAction actionJson = some action ∧
      cfg.pydantic.dumpAction action ≠ [] ∧
      sha256Text (cfg.pydantic.dumpAction action) = b.envelopeDigest ∧
      key.length = actionKeyBytes ∧
      (minCredentialBytes ≤ issued.length ∧ issued.length ≤ maxCredentialBytes) ∧
      ∃ r, (serve cfg s (.offer b actionJson key k issued, env)).2.records.get? b.mailboxId = some r ∧
        Pending b c k (cfg.pydantic.dumpAction action) key issued r := by
  rcases serve_cases s (.offer b actionJson key k issued, env) with
    ⟨e, -, hserve⟩ | ⟨call, hcall, hserve⟩
  · rw [hserve] at h
    exact nomatch h
  · rw [hserve] at h ⊢
    cases Request.call_makes hcall with
    | @offer _ _ _ _ _ canonical action hparse hdigest hkey hissued =>
      obtain ⟨-, -, haction, hcanonical, hne⟩ := parseAction_eq_ok hparse
      dsimp only at haction hcanonical hne
      subst hcanonical
      refine ⟨action, haction, hne, hdigest, hkey, hissued, ?_⟩
      have hstep := apply_step cfg s (.offer b (cfg.pydantic.dumpAction action) key
        (credentialDigest key) (credentialDigest k) issued (credentialDigest issued), env)
      rw [h] at hstep
      generalize (apply cfg s _).2 = s' at hstep ⊢
      cases hstep with
      | offered access =>
        have hr := hid _ access.found
        exact ⟨_, Dict.get?_set_self .., ⟨hr.binding, hr.claim, hr.collection⟩, rfl, rfl, rfl, rfl⟩

/-- What a claim answers for a pending action in time, and what it leaves of the record. -/
theorem claim_pending (hs : Coherent cfg s) (hr : s.records.get? b.mailboxId = some r)
    (hp : Pending b c k e key rc r) {env : Env} {now : Datetime} (hclock : env.clock = some now)
    (hafter : s.notAfter now) (hlt : now < b.claimDeadlineUtc)
    (hcrash : ∀ point, env.crashes point = false) :
    (apply cfg s (.claim b (credentialDigest c), env)).1 =
        (ClaimedAction.make ⟨b, e, key, rc⟩).map .claimed ∧
      (apply cfg s (.claim b (credentialDigest c), env)).2.records.get? b.mailboxId =
        some (r.afterClaim now) := by
  obtain ⟨m, access⟩ := hs.access hr hclock hafter
  exact claim_ok access hp.claim hp.binding hp.state hlt hp.envelope hp.actionKey
    hp.resultCredential (hcrash _) (hcrash _)

theorem claimedAction_make_iff {action : ActionEnvelope} {issued : Bytes}
    (hne : cfg.pydantic.dumpAction action ≠ []) (hkey : key.length = actionKeyBytes)
    (hissued : minCredentialBytes ≤ issued.length ∧ issued.length ≤ maxCredentialBytes) :
    (∃ claimed, (ClaimedAction.make ⟨b, cfg.pydantic.dumpAction action, key, issued⟩).map
        Reply.claimed = .ok (.claimed claimed) ∧
        claimed.toClaimedFields = ⟨b, cfg.pydantic.dumpAction action, key, issued⟩) ↔
      (cfg.pydantic.dumpAction action).length ≤ maxActionEnvelopeBytes := by
  have hformed : (ClaimedFields.wellFormed ⟨b, cfg.pydantic.dumpAction action, key, issued⟩ = true) ↔
      (cfg.pydantic.dumpAction action).length ≤ maxActionEnvelopeBytes := by
    simp only [ClaimedFields.wellFormed, Bool.and_eq_true, decide_eq_true_eq]
    exact ⟨fun h => h.1.1.2, fun h => ⟨⟨⟨hne, h⟩, hkey⟩, hissued⟩⟩
  rw [← hformed]
  unfold ClaimedAction.make
  constructor
  · rintro ⟨claimed, hclaimed, -⟩
    split_ifs at hclaimed with hvalid
    · exact hvalid
    · cases hclaimed
  · intro hvalid
    rw [dif_pos hvalid]
    exact ⟨⟨_, hvalid⟩, rfl, rfl⟩

/-! ### Committed results -/

/-- A result that the service committed is retained with a bundle that can be delivered. -/
theorem retained_of_commit {resultJson : Bytes} {env : Env} {v : Reply} (hs : Coherent cfg s)
    (hid : ∀ r, s.records.get? b.mailboxId = some r → Identified b c k r)
    (h : (serve cfg s (.commitResult b resultJson rc, env)).1 = .ok v) :
    ∃ bundle : CommittedBundle, bundle.binding = b ∧
      ∃ r, (serve cfg s (.commitResult b resultJson rc, env)).2.records.get? b.mailboxId = some r ∧
        Retains cfg bundle (credentialDigest k) r := by
  rcases serve_cases s (.commitResult b resultJson rc, env) with
    ⟨e, -, hserve⟩ | ⟨call, hcall, hserve⟩
  · rw [hserve] at h
    exact nomatch h
  · rw [hserve] at h ⊢
    cases Request.call_makes hcall with
    | @commitResult _ _ _ canonical result seals hparse =>
      obtain ⟨-, -, hresult, hcanonical⟩ := parseResult_eq_ok hparse
      dsimp only at hresult hcanonical
      have hstep := apply_step cfg s
        (.commitResult b (credentialDigest rc) canonical seals, env)
      rw [h] at hstep
      generalize (apply cfg s _).2 = s' at hstep ⊢
      generalize hout : (Except.ok v : Outcome) = out at hstep
      cases hstep with
      | refused => exact nomatch hout
      | lapsed => exact nomatch hout
      | @committed _ _ _ _ _ r m now digest manifest access hb hstate _ _ hbytes _ hdigest hrefs
          hmanifest =>
        subst hb
        have hm := validatedRecordMaterial_eq_ok.mp access.authentic
        have hrecord := hs.record _ _ access.found
        have hpayload := slots_byteCount hm.slots
        have hitems : m.1.length = r.evidence.size := by
          have hids := congrArg List.length (slots_objectIds hm.slots)
          rw [List.length_map] at hids
          exact hids.trans (List.length_map ..)
        have hmax := r.binding.responseBytes_le
        have hvalid : BundleFields.wellFormed ⟨r.binding, canonical, m.1⟩ = true := by
          have hlength := result.length_modelDumpJson_le
          have hsize := hrecord.items
          simp only [BundleFields.wellFormed, Bool.and_eq_true, decide_eq_true_eq]
          refine ⟨⟨⟨⟨json_ne_nil hrefs, hcanonical ▸ hlength⟩, ?_⟩, ?_⟩, ?_⟩
          · rw [hitems]
            exact hsize
          · omega
          · push_cast
            omega
        refine ⟨⟨_, hvalid⟩, rfl, _, Dict.get?_set_self .., ?_⟩
        exact ⟨rfl, (hid r access.found).collection, rfl, by simp [Record.committedWith],
          authentic_committedWith hm hdigest hrefs hmanifest now⟩

/-! ### Delivery -/

/-- Every accepted action is delivered by the claim for it, exactly as it was offered, if and only
if its canonical text is within the bound of the reply; every committed result is delivered. -/
theorem delivery (cfg : Config) (is : List (Request × Env)) (b : ActionBinding)
    (a c k : Bytes) (env₀ : Env) (v₀ : Reply) (js : List (Call × Env))
    (hopen : (serve cfg (run (serve cfg) .empty is) (.openEmpty b a c k, env₀)).1 = .ok v₀)
    (hjs : Never (apply cfg) (fun t j => Opens cfg t j b.mailboxId)
      (serve cfg (run (serve cfg) .empty is) (.openEmpty b a c k, env₀)).2 js) :
    let s := run (apply cfg) (serve cfg (run (serve cfg) .empty is) (.openEmpty b a c k, env₀)).2 js
    (∀ actionJson key issued env₁ v₁,
      (serve cfg s (.offer b actionJson key k issued, env₁)).1 = .ok v₁ →
      let s' := (serve cfg s (.offer b actionJson key k issued, env₁)).2
      ∃ action, cfg.pydantic.validateAction actionJson = some action ∧
        sha256Text (cfg.pydantic.dumpAction action) = b.envelopeDigest ∧
        key.length = actionKeyBytes ∧
        ∀ ks env now,
          Never (apply cfg) (fun t j => ClaimTakesEffect cfg t j b.mailboxId ∨
            Abandons cfg t j b.mailboxId) s' ks →
          env.clock = some now → (run (apply cfg) s' ks).notAfter now →
          now < b.claimDeadlineUtc → (∀ point, env.crashes point = false) →
          ((∃ claimed, (serve cfg (run (apply cfg) s' ks) (.claim b c, env)).1 =
                .ok (.claimed claimed) ∧
              claimed.toClaimedFields = ⟨b, cfg.pydantic.dumpAction action, key, issued⟩) ↔
            (cfg.pydantic.dumpAction action).length ≤ maxActionEnvelopeBytes)) ∧
    (∀ resultJson rc env₁ v₁,
      (serve cfg s (.commitResult b resultJson rc, env₁)).1 = .ok v₁ →
      let s' := (serve cfg s (.commitResult b resultJson rc, env₁)).2
      ∀ ks env now, Never (apply cfg) (fun t j => Acknowledges cfg t j b.mailboxId) s' ks →
        env.clock = some now → (run (apply cfg) s' ks).notAfter now →
        ∃ bundle, (serve cfg (run (apply cfg) s' ks) (.collect b.mailboxId k, env)).1 =
            .ok (.bundle bundle) ∧ bundle.binding = b) := by
  intro s
  have hcoherent : ∀ {t : Repository}, Coherent cfg t → ∀ ks, Coherent cfg (run (apply cfg) t ks) :=
    fun ht ks => run_invariant (fun t j h => (apply_step cfg t j).coherent h) ks ht
  have hopened := coherent_step_serve (coherent_serve cfg is) (.openEmpty b a c k, env₀)
  obtain ⟨⟨r₀, hr₀, hid₀⟩, hc, hk⟩ := identified_of_open hopen
  have hid : ∀ r, s.records.get? b.mailboxId = some r → Identified b c k r := by
    have hstart : ∀ r, (serve cfg (run (serve cfg) .empty is)
        (.openEmpty b a c k, env₀)).2.records.get? b.mailboxId = some r → Identified b c k r := by
      intro r hr
      obtain rfl := Option.some.inj (hr₀.symm.trans hr)
      exact hid₀
    rcases records_until_opened (fun j r r' hr hevolves => hr.evolves hevolves) hstart js with
      h | ⟨js₁, j, js₂, hsplit, hopens⟩
    · exact h
    · exact absurd hopens (hjs js₁ j js₂ hsplit)
  have hs : Coherent cfg s := hcoherent hopened js
  constructor
  · intro actionJson key issued env₁ v₁ hoffer s'
    have hs' : Coherent cfg s' := coherent_step_serve hs _
    obtain ⟨action, haction, hne, hdigest, hkey, hissued, r, hr, hp⟩ := pending_of_offer hid hoffer
    refine ⟨action, haction, hdigest, hkey, fun ks env now hnever hclock hafter hlt hcrash => ?_⟩
    have hpending := run_of_never (fun t j h => (apply_step cfg t j).coherent h)
      (fun t j ht hp => PendingOrLate.step ht hp j) hs' (Or.inl ⟨r, hr, hp⟩) hnever
    rcases hpending with ⟨r', hr', hp'⟩ | ⟨t, ht, hle⟩
    · rw [serve_claim hc, (claim_pending (hcoherent hs' ks) hr' hp' hclock hafter hlt hcrash).1]
      exact claimedAction_make_iff hne hkey hissued
    · exact absurd (hle.trans (hafter t ht)) (not_le.mpr hlt)
  · intro resultJson rc env₁ v₁ hcommit s' ks env now hnever hclock hafter
    have hs' : Coherent cfg s' := coherent_step_serve hs _
    obtain ⟨bundle, hbinding, r, hr, hretains⟩ := retained_of_commit hs hid hcommit
    rcases retains_until_acknowledged hs' hr hretains ks with
      ⟨r', hr', hretains'⟩ | ⟨ks₁, j, ks₂, hsplit, hacknowledges⟩
    · refine ⟨bundle, ?_, hbinding⟩
      rw [serve_collect b.mailboxId_isV4 hk]
      exact collect_repeats (hcoherent hs' ks) hr' hretains' hclock hafter
    · exact absurd hacknowledges (hnever ks₁ j ks₂ hsplit)

namespace Sample

/-- The claim of the sample returns the action as it was offered. -/
theorem delivery_small : ∃ claimed,
    (serve small.config small.offered.2 (.claim small.binding claimCredential, env)).1 =
        .ok (.claimed claimed) ∧
      claimed.toClaimedFields = ⟨small.binding, small.canonical, actionKey, issuedCredential⟩ := by
  obtain ⟨hadmissible, hshort⟩ := And.intro small_admissible small_short
  generalize small = x at hadmissible hshort ⊢
  obtain ⟨v₀, hopened⟩ : ∃ v, x.opened.1 = .ok v := ⟨_, opened_outcome⟩
  obtain ⟨v₁, hoffered⟩ : ∃ v, x.offered.1 = .ok v := ⟨_, (offered_spec hadmissible).1⟩
  have hdelivery := (delivery x.config [] x.binding actionKey claimCredential
    collectionCredential env v₀ [] hopened (never_nil _ _)).1 x.received actionKey issuedCredential
    env v₁
  simp only [run_nil] at hdelivery
  obtain ⟨action, -, -, -, hclaim⟩ := hdelivery hoffered
  have hlt : now < claimDeadline := by decide
  have hclaimed := hclaim [] env now (never_nil _ _) rfl (offered_notAfter hadmissible) hlt
    fun _ => rfl
  simp only [run_nil] at hclaimed
  exact hclaimed.mpr hshort

end Sample

/-! ### An action that outgrows the bound -/

theorem claimedAction_make_raises (h : maxActionEnvelopeBytes < e.length) :
    ClaimedAction.make ⟨b, e, key, rc⟩ = .error .valueError := by
  refine dif_neg fun hvalid => ?_
  simp only [ClaimedFields.wellFormed, Bool.and_eq_true, decide_eq_true_eq] at hvalid
  omega

namespace Oversized

/-- The deadline is received without its seconds, which the canonical text spells out. -/
def sample : Sample where
  attributes := [("a", 1048576), ("b", 1048576), ("c", 1048576), ("d", 1048576), ("e", 1048576),
    ("f", 1048576), ("g", 1048576), ("h", 1047787)]
  deadlineText := "2030-01-01T00:00Z"

theorem length_attributes : (attributesText sample.attributes).length = 8388130 := by
  have hattributes := length_attributesText ("a", 1048576) sample.attributes.tail
  have hsum : (sample.attributes.map fun a => 38 + a.1.length + a.2).sum = 8388131 := by
    decide +kernel
  have hlength : (attributesText sample.attributes).length + 1 = 8388131 := hattributes.trans hsum
  omega

theorem length_received : sample.received.length = 8388608 := by
  have hdeadline : sample.deadlineText.length = 17 := by decide
  rw [Sample.received, length_actionText, length_attributes, hdeadline]

theorem length_canonical : sample.canonical.length = 8388611 := by
  have hdeadline : "2030-01-01T00:00:00Z".length = 20 := by decide
  rw [Sample.canonical, length_actionText, length_attributes, hdeadline]

theorem admissible : sample.Admissible where
  received := by
    rw [length_received]
    decide
  quota := by
    rw [length_canonical]
    decide

/-- An action of the greatest admissible length is bound and offered, and destroyed by its claim. -/
theorem claim_destroys :
    bindAction sample.config (sampleUuid 1) sample.received Sample.artifactDigest 1
        Sample.claimDeadline = .ok sample.binding ∧
      (∃ v, sample.opened.1 = .ok v) ∧ (∃ v, sample.offered.1 = .ok v) ∧
      Sample.env.clock = some Sample.now ∧ sample.offered.2.notAfter Sample.now ∧
      Sample.now < sample.binding.claimDeadlineUtc ∧
      sample.claimed.1 = .error .valueError ∧
      ∃ r, sample.claimed.2.records.get? (sampleUuid 1) = some r ∧ r.state = .claimedOnce ∧
        r.envelopeJson = none := by
  obtain ⟨hclaimed, hrecord⟩ := Sample.claimed_spec admissible
  have hlong : maxActionEnvelopeBytes < sample.canonical.length := by
    rw [length_canonical]
    decide
  have hlt : Sample.now < Sample.claimDeadline := by decide
  rw [claimedAction_make_raises hlong] at hclaimed
  exact ⟨Sample.bindAction_received admissible.received, ⟨_, Sample.opened_outcome⟩,
    ⟨_, (Sample.offered_spec admissible).1⟩, rfl, Sample.offered_notAfter admissible, hlt, hclaimed,
    _, hrecord, rfl, rfl⟩

end Oversized
end MyCogni.Mailbox
