import MyCogni.Mailbox.Progress

/-! What the mailbox is for: the result and the evidence that a runner delivered reach the trusted
core as they were, as often as it asks, until it acknowledges them. The ledger is the abstract
account of a run; every record of the repository agrees with its entry. -/

namespace MyCogni.Mailbox

/-- The uploads staged in the present life of a mailbox, and the result committed over them. -/
structure Entry where
  staged : List EvidenceUpload
  committed : Option (Bytes × List EvidenceUpload)

abbrev Ledger := Uuid → Entry

/-- The call changed the repository, whether or not its reply arrived. -/
def tookEffect : Outcome → Bool
  | .ok _ => true
  | .error (.injectedCrash point) => point.isAfter
  | .error _ => false

/-- The ledger after a call with the given outcome. -/
def Ledger.note (l : Ledger) (call : Call) (out : Outcome) : Ledger :=
  if tookEffect out then
    match call with
    | .create b _ _ _ => Function.update l b.mailboxId ⟨[], none⟩
    | .stageEvidence b _ u =>
      Function.update l b.mailboxId { l b.mailboxId with staged := (l b.mailboxId).staged ++ [u] }
    | .commitResult b _ j _ =>
      Function.update l b.mailboxId
        { l b.mailboxId with committed := some (j, (l b.mailboxId).staged) }
    | _ => l
  else l

/-- The ledger after a request: what is committed is the canonical form of the result. -/
def Ledger.observe (cfg : Config) (l : Ledger) (request : Request) (out : Outcome) : Ledger :=
  if tookEffect out then
    match request with
    | .openEmpty b _ _ _ => Function.update l b.mailboxId ⟨[], none⟩
    | .stageEvidence b _ u =>
      Function.update l b.mailboxId { l b.mailboxId with staged := (l b.mailboxId).staged ++ [u] }
    | .commitResult b json _ =>
      Function.update l b.mailboxId
        { l b.mailboxId with
          committed := (cfg.pydantic.validateResult json).map fun result =>
            (result.modelDumpJson, (l b.mailboxId).staged) }
    | _ => l
  else l

/-- The service with its ledger. -/
def serveNoted (cfg : Config) (p : Repository × Ledger) (i : Request × Env) :
    Outcome × Repository × Ledger :=
  ((serve cfg p.1 i).1, (serve cfg p.1 i).2, p.2.observe cfg i.1 (serve cfg p.1 i).1)

variable {cfg : Config} {s s' : Repository} {l : Ledger} {i : Call × Env} {out : Outcome}
  {id : Uuid} {r : Record}

/-! ### Entries and records -/

structure Entry.Describes (cfg : Config) (e : Entry) (r : Record) : Prop where
  unclaimed : r.state = .empty ∨ r.state = .offered → e = ⟨[], none⟩
  claimed : r.state = .claimedOnce →
    validatedEvidenceSlots cfg r = .ok e.staged ∧ e.committed = none
  committed : r.state = .resultCommitted → r.collectionState ≠ .acknowledged →
    ∃ j, e.committed = some (j, e.staged) ∧ Authentic cfg r (e.staged, some j)

def Agrees (cfg : Config) (s : Repository) (l : Ledger) : Prop :=
  ∀ id r, s.records.get? id = some r → (l id).Describes cfg r

theorem Agrees.assign (h : Agrees cfg s l) {l' : Ledger} {r' : Record}
    (hrecords : s'.records = s.records.set id r') (hl : ∀ id', id' ≠ id → l' id' = l id')
    (hr' : (l' id).Describes cfg r') : Agrees cfg s' l' := by
  intro id' r'' hr''
  rw [hrecords, Dict.get?_set] at hr''
  split_ifs at hr'' with hid
  · obtain rfl := Option.some.inj hr''
    exact hid ▸ hr'
  · rw [hl id' hid]
    exact h id' r'' hr''

theorem Entry.Describes.seen {e : Entry} (h : e.Describes cfg r) (now : Datetime) :
    e.Describes cfg (r.seen now) where
  unclaimed := h.unclaimed
  claimed := h.claimed
  committed := fun hstate hcollection =>
    (h.committed hstate hcollection).elim fun j hj => ⟨j, hj.1, authentic_seen hj.2 now⟩

theorem describes_ended {e : Entry} (hstate : r.state = .expired ∨ r.state = .abandoned) :
    e.Describes cfg r := by
  constructor
  · rintro (h | h) <;> rcases hstate with h' | h' <;> simp [h] at h'
  · intro h
    rcases hstate with h' | h' <;> simp [h] at h'
  · intro h
    rcases hstate with h' | h' <;> simp [h] at h'

theorem Entry.Describes.swept {e : Entry} (h : e.Describes cfg r) (now : Datetime) :
    e.Describes cfg (r.swept now) := by
  unfold Record.swept
  split_ifs
  · exact describes_ended (Or.inl rfl)
  · exact h.seen now

theorem Lapse.describes {e : Entry} {now : Datetime} {r' : Record} (h : Lapse now r r')
    (hr : e.Describes cfg r) : e.Describes cfg r' := by
  cases h with
  | again => exact hr.seen now
  | due => exact describes_ended (Or.inl rfl)

theorem tookEffect_guarded {env : Env} {point : CrashPoint} (h : point.isAfter = true)
    (v : Reply) : tookEffect (guarded env point (.ok v)) = true := by
  unfold guarded
  split_ifs
  · exact h
  · rfl

theorem tookEffect_of_isPlain {e : Failure} (h : e.isPlain = true) :
    tookEffect (.error e) = false := by
  cases e with
  | denied => rfl
  | injectedCrash point => simpa [tookEffect, Failure.isPlain] using h
  | valueError => rfl

theorem note_of_not_tookEffect {call : Call} (h : tookEffect out = false) :
    l.note call out = l := by
  unfold Ledger.note
  rw [if_neg (by simp [h])]

/-- The calls that the ledger accounts for. -/
def Call.isNoted : Call → Bool
  | .create .. | .stageEvidence .. | .commitResult .. => true
  | _ => false

theorem note_of_not_isNoted {call : Call} (h : call.isNoted = false) (l : Ledger)
    (out : Outcome) : l.note call out = l := by
  unfold Ledger.note
  split_ifs
  · cases call <;> first | rfl | exact nomatch h
  · rfl

/-- Every call keeps the repository and the ledger in agreement. -/
theorem Step.agrees (h : Step cfg s i out s') (hs : Coherent cfg s) (hl : Agrees cfg s l) :
    Agrees cfg s' (l.note i.1 out) := by
  cases h with
  | refused hplain =>
    rw [note_of_not_tookEffect]
    · exact hl
    · rcases hplain with h | ⟨rfl, -⟩
      · exact tookEffect_of_isPlain h
      · rfl
  | @created b a c k env now _ _ hnone =>
    refine hl.assign rfl (fun id' hid => Function.update_of_ne hid _ _) ?_
    constructor
    · intro _
      exact Function.update_self ..
    · intro hstate
      cases hstate
    · intro hstate
      cases hstate
  | lapsed _ _ access hlapse =>
    rw [note_of_not_tookEffect rfl]
    exact hl.assign rfl (fun _ _ => rfl) (hlapse.describes (hl _ _ access.found))
  | viewed access _ hview =>
    rw [note_of_not_isNoted rfl]
    refine hl.assign rfl (fun _ _ => rfl) ?_
    rcases hview with hlapse | ⟨rfl, -⟩
    · exact hlapse.describes (hl _ _ access.found)
    · exact (hl _ _ access.found).seen _
  | offered access _ _ _ hstate =>
    rw [note_of_not_isNoted rfl]
    refine hl.assign rfl (fun _ _ => rfl) ?_
    constructor
    · intro _
      exact (hl _ _ access.found).unclaimed (Or.inl hstate)
    · intro h
      cases h
    · intro h
      cases h
  | claimed access _ _ hstate =>
    rw [note_of_not_isNoted rfl]
    refine hl.assign rfl (fun _ _ => rfl) ?_
    have hentry := (hl _ _ access.found).unclaimed (Or.inr hstate)
    have hlife := (hs.record _ _ access.found).lifecycle
    simp only [Record.validLifecycle, hstate, Bool.and_eq_true, decide_eq_true_eq] at hlife
    constructor
    · rintro (h | h) <;> cases h
    · intro _
      rw [hentry]
      exact ⟨slots_empty (Dict.eq_empty_of_size hlife.1.1.2), rfl⟩
    · intro h
      cases h
  | @staged b d u env r m now access hb hstate _ _ hnew _ _ _ hdigest _ =>
    subst hb
    rw [Ledger.note, if_pos (tookEffect_guarded rfl _)]
    refine hl.assign rfl (fun id' hid => Function.update_of_ne hid _ _) ?_
    obtain ⟨hslots, hnone⟩ := (hl _ _ access.found).claimed hstate
    rw [Function.update_self]
    constructor
    · rintro (h | h) <;> simp [Record.withEvidence, hstate] at h
    · intro _
      exact ⟨slots_withEvidence hslots hnew hdigest rfl rfl, hnone⟩
    · intro h
      simp [Record.withEvidence, hstate] at h
  | @committed b d j seals env r m now digest manifest access hb hstate _ _ _ _ hdigest hrefs
      hmanifest _ =>
    subst hb
    rw [Ledger.note, if_pos (tookEffect_guarded rfl _)]
    refine hl.assign rfl (fun id' hid => Function.update_of_ne hid _ _) ?_
    obtain ⟨hslots, -⟩ := (hl _ _ access.found).claimed hstate
    have hm := validatedRecordMaterial_eq_ok.mp access.authentic
    have hstaged : m.1 = (l r.binding.mailboxId).staged :=
      Except.ok.inj (hm.slots.symm.trans hslots)
    rw [Function.update_self]
    constructor
    · rintro (h | h) <;> cases h
    · intro h
      cases h
    · intro _ _
      exact ⟨j, rfl, hstaged ▸ authentic_committedWith hm hdigest hrefs hmanifest now⟩
  | @delivered id d env r uploads j now access _ hstate _ hcollection =>
    rw [note_of_not_isNoted rfl]
    refine hl.assign rfl (fun _ _ => rfl) ?_
    have hack : r.collectionState ≠ .acknowledged := by
      rcases hcollection with h | h <;> simp [h]
    obtain ⟨j, hj, hauthentic⟩ := (hl _ _ access.found).committed hstate hack
    constructor
    · rintro (h | h) <;> simp [Record.delivering, hstate] at h
    · intro h
      simp [Record.delivering, hstate] at h
    · intro _ _
      exact ⟨j, hj, authentic_delivering hauthentic hstate hcollection _⟩
  | acknowledgedAgain access =>
    rw [note_of_not_isNoted rfl]
    exact hl.assign rfl (fun _ _ => rfl) ((hl _ _ access.found).seen _)
  | acknowledged access _ hstate =>
    rw [note_of_not_isNoted rfl]
    refine hl.assign rfl (fun _ _ => rfl) ?_
    constructor
    · rintro (h | h) <;> simp [Record.acknowledged, hstate] at h
    · intro h
      simp [Record.acknowledged, hstate] at h
    · intro _ h
      exact absurd rfl h
  | abandoned access =>
    rw [note_of_not_isNoted rfl]
    exact hl.assign rfl (fun _ _ => rfl) (describes_ended (Or.inr rfl))
  | swept _ _ _ _ hswept =>
    rw [note_of_not_isNoted rfl]
    intro id r' hr'
    rw [hswept.records] at hr'
    obtain ⟨r, hr, hr'⟩ := Option.bind_eq_some_iff.mp hr'
    obtain rfl := Option.some.inj hr'
    exact (hl id r hr).swept _
  | collected _ _ _ _ _ _ hswept =>
    rw [note_of_not_isNoted rfl]
    intro id r' hr'
    rw [hswept.records] at hr'
    obtain ⟨r, hr, hr'⟩ := Option.bind_eq_some_iff.mp hr'
    split_ifs at hr'
    obtain rfl := Option.some.inj hr'
    exact (hl id r hr).seen _

/-! ### Runs of the service -/

theorem Request.Makes.observe_eq {request : Request} {call : Call} (h : request.Makes cfg call)
    (l : Ledger) (out : Outcome) : l.observe cfg request out = l.note call out := by
  cases h with
  | @commitResult b resultJson c canonical result seals hparse =>
    obtain ⟨-, -, hresult, hcanonical⟩ := parseResult_eq_ok hparse
    dsimp only at hresult hcanonical
    simp only [Ledger.observe, Ledger.note, hresult, Option.map_some, hcanonical]
  | _ => rfl

theorem observe_of_not_tookEffect {request : Request} (h : tookEffect out = false) :
    l.observe cfg request out = l := by
  unfold Ledger.observe
  rw [if_neg (by simp [h])]

/-- Whatever is committed is the canonical form of some result. -/
def Ledger.Canonical (cfg : Config) (l : Ledger) : Prop :=
  ∀ id j uploads, (l id).committed = some (j, uploads) →
    ∃ result, cfg.pydantic.validateResult j = some result ∧ result.modelDumpJson = j

theorem Ledger.Canonical.observe (h : l.Canonical cfg) (request : Request) (out : Outcome) :
    (l.observe cfg request out).Canonical cfg := by
  have hupdate : ∀ (m : Uuid) (e : Entry), (∀ j uploads, e.committed = some (j, uploads) →
      ∃ result, cfg.pydantic.validateResult j = some result ∧
        result.modelDumpJson = j) → Ledger.Canonical cfg (Function.update l m e) := by
    intro m e he id j uploads hid
    rcases eq_or_ne id m with rfl | hne
    · rw [Function.update_self] at hid
      exact he j uploads hid
    · rw [Function.update_of_ne hne] at hid
      exact h id j uploads hid
  unfold Ledger.observe
  split_ifs
  · cases request with
    | openEmpty b => exact hupdate _ _ (fun _ _ h => nomatch h)
    | stageEvidence b c u => exact hupdate _ _ (h b.mailboxId)
    | commitResult b json c =>
      refine hupdate _ _ ?_
      intro j uploads hj
      obtain ⟨result, hresult, hpair⟩ := Option.map_eq_some_iff.mp hj
      obtain ⟨rfl, -⟩ := Prod.mk.inj hpair
      exact ⟨result, cfg.pydantic.result_round_trip json result hresult, rfl⟩
    | _ => exact h
  · exact h

/-- The repository is coherent and the ledger accounts for it. -/
structure Accounted (cfg : Config) (p : Repository × Ledger) : Prop where
  coherent : Coherent cfg p.1
  agrees : Agrees cfg p.1 p.2
  canonical : p.2.Canonical cfg

theorem accounted_serveNoted (p : Repository × Ledger) (i : Request × Env)
    (h : Accounted cfg p) : Accounted cfg (serveNoted cfg p i).2 := by
  refine ⟨coherent_step_serve h.coherent i, ?_, h.canonical.observe i.1 _⟩
  show Agrees cfg (serve cfg p.1 i).2 (p.2.observe cfg i.1 (serve cfg p.1 i).1)
  rcases serve_cases p.1 i with ⟨e, he, hserve⟩ | ⟨call, hcall, hserve⟩
  · rw [hserve, observe_of_not_tookEffect (tookEffect_of_isPlain (i.1.quiet_call e he))]
    exact h.agrees
  · rw [hserve, (Request.call_makes hcall).observe_eq]
    exact (apply_step cfg p.1 (call, i.2)).agrees h.coherent h.agrees

/-- The service and its ledger from the beginning. -/
def noted (cfg : Config) (is : List (Request × Env)) : Repository × Ledger :=
  run (serveNoted cfg) (.empty, fun _ => ⟨[], none⟩) is

theorem accounted_noted (cfg : Config) (is : List (Request × Env)) :
    Accounted cfg (noted cfg is) := by
  refine run_invariant accounted_serveNoted is ⟨coherent_empty cfg, ?_, ?_⟩
  · intro _ _ h
    exact nomatch h
  · intro _ _ _ h
    exact nomatch h

/-- The ledger does not influence the service. -/
theorem noted_fst (cfg : Config) (is : List (Request × Env)) :
    (noted cfg is).1 = run (serve cfg) .empty is := by
  have hall : ∀ p : Repository × Ledger, (run (serveNoted cfg) p is).1 = run (serve cfg) p.1 is := by
    induction is with
    | nil => exact fun p => rfl
    | cons i is ih => exact fun p => ih _
  exact hall _

/-! ### Collection -/

theorem validateResultReferences_eq_ok {b : ActionBinding} {j : Bytes}
    {uploads : List EvidenceUpload} (h : validateResultReferences cfg b j uploads = .ok ()) :
    ∃ result, cfg.pydantic.validateResult j = some result ∧
      (result.evidence.map EvidenceReference.mailboxObjectId).Nodup ∧
      (∀ id, id ∈ result.evidence.map EvidenceReference.mailboxObjectId ↔
        id ∈ uploads.map fun u => u.objectId) ∧
      ∀ item ∈ result.evidence, ∀ u ∈ uploads, item.mailboxObjectId = u.objectId →
        referenceMatches item u = true := by
  unfold validateResultReferences at h
  split at h
  · exact nomatch h
  · next result hresult =>
    simp only [bind_eq_ok_iff, ensure_eq_ok, exists_const] at h
    obtain ⟨-, ⟨hnodup, hsub, hsup⟩, hmatch⟩ := h
    exact ⟨result, hresult, hnodup, fun id => ⟨hsub id, hsup id⟩, hmatch⟩

theorem Authentic.references {j : Bytes} {uploads : List EvidenceUpload}
    (h : Authentic cfg r (uploads, some j)) :
    validateResultReferences cfg r.binding j uploads = .ok () := by
  cases h with
  | retained _ _ _ _ _ _ _ hrefs => exact hrefs

theorem Request.Makes.of_collect {request : Request} {d : Bytes}
    (h : request.Makes cfg (.collect id d)) :
    ∃ c, request = .collect id c ∧ d = credentialDigest c := by
  cases h with
  | collect => exact ⟨_, rfl, rfl⟩

/-- A bundle is only ever returned by a collection, and holds what the record retains. -/
theorem collect_of_reply {bundle : CommittedBundle}
    (h : (apply cfg s i).1 = .ok (.bundle bundle)) :
    ∃ id d r now, i.1 = .collect id d ∧
      Access cfg s i.2 id r (bundle.evidence, some bundle.resultJson) now ∧
      r.collectionCredentialDigest = d ∧ r.state = .resultCommitted ∧
      (r.collectionState = .ready ∨ r.collectionState = .delivering) ∧
      bundle.binding = r.binding ∧
      (apply cfg s i).2.records.get? id = some (r.delivering now) := by
  have hstep := apply_step cfg s i
  generalize (apply cfg s i).2 = s' at hstep ⊢
  rw [h] at hstep
  generalize hout : (Except.ok (.bundle bundle) : Outcome) = out at hstep
  cases hstep with
  | @delivered id d env r uploads j now access hd hstate _ hcollection =>
    obtain ⟨bundle', hbundle, hfields⟩ := committedBundle_make_ok hout.symm
    obtain rfl := Reply.bundle.inj hbundle
    have hj : bundle.resultJson = j := congrArg BundleFields.resultJson hfields
    have huploads : bundle.evidence = uploads := congrArg BundleFields.evidence hfields
    rw [hj, huploads]
    exact ⟨id, d, r, now, rfl, access, hd, hstate, hcollection,
      congrArg BundleFields.binding hfields, Dict.get?_set_self ..⟩
  | claimed =>
    obtain ⟨action, haction, -⟩ := claimedAction_make_ok (guarded_eq_ok hout.symm)
    exact nomatch haction
  | staged => exact nomatch guarded_eq_ok hout.symm
  | committed => exact nomatch guarded_eq_ok hout.symm
  | acknowledged => exact nomatch guarded_eq_ok hout.symm
  | _ => exact nomatch hout

/-- What a collection answers for a record with a retained result. -/
theorem collect_retained {env : Env} {d j : Bytes} {uploads : List EvidenceUpload}
    {now : Datetime} (access : Access cfg s env id r (uploads, some j) now)
    (hd : r.collectionCredentialDigest = d) :
    (apply cfg s (.collect id d, env)).1 =
      (CommittedBundle.make ⟨r.binding, j, uploads⟩).map .bundle := by
  have hauthentic := validatedRecordMaterial_eq_ok.mp access.authentic
  have haccess : collectionAccess cfg s id d env = .ok (r, (uploads, some j), now) :=
    collectionAccess_eq_ok.mpr ⟨access, hd⟩
  cases hauthentic with
  | retained _ hstate _ hcollection hresult =>
    have hack : r.collectionState ≠ .acknowledged := by
      rcases hcollection with h | h <;> simp [h]
    show (collect cfg s id d env).1.map Reply.bundle = _
    unfold collect
    rw [haccess, ok_bind]
    dsimp only
    rw [ensure_bind hack, ensure_bind ⟨hstate, by simp [hresult]⟩, ensure_bind hcollection]
    rfl

/-- What stays of a record from one collection to the next. -/
structure Retains (cfg : Config) (bundle : CommittedBundle) (d : Bytes) (r : Record) : Prop where
  binding : r.binding = bundle.binding
  credential : r.collectionCredentialDigest = d
  state : r.state = .resultCommitted
  unacknowledged : r.collectionState ≠ .acknowledged
  authentic : Authentic cfg r (bundle.evidence, some bundle.resultJson)

theorem Retains.evolves {bundle : CommittedBundle} {d : Bytes} {r' : Record}
    (h : Retains cfg bundle d r) (hevolves : Evolves i id r r')
    (hr' : (apply cfg s i).2.records.get? id = some r') :
    Retains cfg bundle d r' ∨ Acknowledges cfg s i id := by
  have hstate := h.state
  cases hevolves with
  | same => exact Or.inl h
  | seen now => exact Or.inl { h with authentic := authentic_seen h.authentic now }
  | closed _ hopen => simp [hstate, MailboxState.isOpen] at hopen
  | offered _ _ _ _ _ hstate' => simp [hstate] at hstate'
  | claimed _ _ _ hstate' => simp [hstate] at hstate'
  | staged _ _ hstate' => simp [hstate] at hstate'
  | committed _ _ _ _ _ hstate' => simp [hstate] at hstate'
  | delivering now _ hcollection =>
    exact Or.inl
      { h with
        unacknowledged := by simp [Record.delivering]
        authentic := authentic_delivering h.authentic hstate hcollection now }
  | acknowledged _ hi => exact Or.inr ⟨_, _, hi, hr', hstate, rfl⟩

/-- A retained result stays retained until it is acknowledged. -/
theorem retains_until_acknowledged {bundle : CommittedBundle} {d : Bytes} (hs : Coherent cfg s)
    (hr : s.records.get? id = some r) (h : Retains cfg bundle d r) (js : List (Call × Env)) :
    (∃ r', (run (apply cfg) s js).records.get? id = some r' ∧ Retains cfg bundle d r') ∨
      ∃ js₁ j js₂, js = js₁ ++ j :: js₂ ∧ Acknowledges cfg (run (apply cfg) s js₁) j id := by
  have huntil := record_until (q := fun t j => Acknowledges cfg t j id)
    (p := Retains cfg bundle d)
    (fun t j r₁ r₂ _ _ hp hr₂ hevolves => hp.evolves hevolves hr₂) hs hr h js
  rcases huntil with hstay | ⟨js₁, j, js₂, hsplit, ⟨r₁, hr₁, hp⟩, hcollected | hack⟩
  · exact Or.inl hstay
  · have ht := run_invariant (fun t i h => (apply_step cfg t i).coherent h) js₁ hs
    obtain ⟨d, r₂, now, expiresAt, -, -, hr₂, hdue, -⟩ := hcollected
    obtain rfl := Option.some.inj (hr₁.symm.trans hr₂)
    have hnone := lifecycle_unacknowledged (ht.record id r₁ hr₁).lifecycle hp.state
      hp.unacknowledged
    simp [terminalDue, hnone] at hdue
  · exact Or.inr ⟨js₁, j, js₂, hsplit, hack⟩

theorem collect_repeats {bundle : CommittedBundle} {d : Bytes} (hs : Coherent cfg s)
    (hr : s.records.get? id = some r) (h : Retains cfg bundle d r) {env : Env} {now : Datetime}
    (hclock : env.clock = some now) (hafter : s.notAfter now) :
    (apply cfg s (.collect id d, env)).1 = .ok (.bundle bundle) := by
  obtain ⟨m, access⟩ := hs.access hr hclock hafter
  have hm : m = (bundle.evidence, some bundle.resultJson) :=
    Except.ok.inj (access.authentic.symm.trans (validatedRecordMaterial_eq_ok.mpr h.authentic))
  subst hm
  have hmake : CommittedBundle.make bundle.toBundleFields = .ok bundle := dif_pos bundle.valid
  rw [collect_retained access h.credential, h.binding]
  exact congrArg (Except.map Reply.bundle) hmake

/-! ### After the acknowledgement -/

/-- The mailbox holds nothing to be collected any more. -/
def Emptied (id : Uuid) (s : Repository) : Prop :=
  ∀ r, s.records.get? id = some r → r.state = .resultCommitted ∧ r.collectionState = .acknowledged

/-- What evolution preserves of a record holds of the mailbox until it is opened anew. -/
theorem records_until_opened {p : Record → Prop}
    (hp : ∀ j r r', p r → Evolves j id r r' → p r') (h : ∀ r, s.records.get? id = some r → p r)
    (js : List (Call × Env)) :
    (∀ r, (run (apply cfg) s js).records.get? id = some r → p r) ∨
      ∃ js₁ j js₂, js = js₁ ++ j :: js₂ ∧ Opens cfg (run (apply cfg) s js₁) j id := by
  have huntil := run_until (v := fun _ => True) (q := fun t j => Opens cfg t j id)
    (p := fun t : Repository => ∀ r, t.records.get? id = some r → p r) (fun _ _ _ => trivial)
    (by
      intro t j _ ht
      cases hr : t.records.get? id with
      | none =>
        rcases apply_absent cfg t j hr with hnone | hopens
        · refine Or.inl fun r' hr' => ?_
          exact absurd (hnone.symm.trans hr') (by simp)
        · exact Or.inr hopens
      | some r =>
        refine Or.inl fun r' hr' => ?_
        rcases apply_record cfg t j hr with ⟨r'', hr'', hevolves⟩ | hcollected
        · obtain rfl := Option.some.inj (hr'.symm.trans hr'')
          exact hp j r r' (ht r hr) hevolves
        · obtain ⟨_, _, _, _, _, _, _, _, _, hnone, _⟩ := hcollected
          exact absurd (hnone.symm.trans hr') (by simp))
    js trivial h
  rcases huntil with h | ⟨js₁, j, js₂, hsplit, -, hopens⟩
  · exact Or.inl h
  · exact Or.inr ⟨js₁, j, js₂, hsplit, hopens⟩

/-- Nothing is collected from an acknowledged mailbox until it is opened anew. -/
theorem emptied_until_opened (h : Emptied id s) (js : List (Call × Env)) :
    Emptied id (run (apply cfg) s js) ∨
      ∃ js₁ j js₂, js = js₁ ++ j :: js₂ ∧ Opens cfg (run (apply cfg) s js₁) j id := by
  refine records_until_opened ?_ h js
  intro j r r' hr hevolves
  obtain ⟨hstate, hcollection⟩ := hevolves.ended (Or.inr (Or.inr hr))
  exact ⟨hstate.trans hr.1, hcollection.trans hr.2⟩

theorem Acknowledges.emptied (h : Acknowledges cfg s i id) : Emptied id (apply cfg s i).2 := by
  obtain ⟨-, r, -, hr, hstate, hcollection⟩ := h
  intro r' hr'
  obtain rfl := Option.some.inj (hr.symm.trans hr')
  exact ⟨hstate, hcollection⟩

theorem validatedRecordNow_error {clock : Option Datetime} {e : Failure}
    (h : validatedRecordNow s r clock = .error e) : e = uncertain := by
  unfold validatedRecordNow validatedInstallationNow at h
  cases clock with
  | none => exact (Except.error.inj h).symm
  | some now =>
    simp only [bind_eq_error_iff, ensure_eq_error, pure_ne_error, and_false, exists_const,
      or_false] at h
    rcases h with ⟨-, rfl⟩ | ⟨_, -, -, rfl⟩ <;> rfl

/-- Access for a collector of a coherent repository fails with a denial only. -/
theorem collectionAccess_error (hs : Coherent cfg s) {d : Bytes} {env : Env} {e : Failure}
    (h : collectionAccess cfg s id d env = .error e) : ∃ denial, e = .denied denial := by
  unfold collectionAccess at h
  rw [bind_eq_error_iff] at h
  rcases h with h | ⟨r, hr, h⟩
  · unfold record at h
    split at h
    · exact nomatch h
    · exact ⟨_, (Except.error.inj h).symm⟩
  · rw [bind_eq_error_iff] at h
    rcases h with h | ⟨_, -, h⟩
    · exact ⟨_, (ensure_eq_error.mp h).2.symm⟩
    · have hfound : s.records.get? id = some r := record_eq_ok.mp hr
      obtain ⟨m, hm⟩ := (hs.record id r hfound).material
      rw [validatedRecordMaterial_eq_ok.mpr hm, ok_bind, bind_eq_error_iff] at h
      rcases h with h | ⟨now, -, h⟩
      · exact ⟨_, validatedRecordNow_error h⟩
      · exact nomatch h

/-- An emptied mailbox denies every collection. -/
theorem collect_emptied (hs : Coherent cfg s) (h : Emptied id s) (d : Bytes) (env : Env) :
    ∃ denial, (apply cfg s (.collect id d, env)).1 = .error (.denied denial) := by
  show ∃ denial, (collect cfg s id d env).1.map Reply.bundle = _
  unfold collect
  cases haccess : collectionAccess cfg s id d env with
  | error e =>
    obtain ⟨denial, rfl⟩ := collectionAccess_error hs haccess
    exact ⟨denial, rfl⟩
  | ok x =>
    obtain ⟨r, m, now⟩ := x
    obtain ⟨access, -⟩ := collectionAccess_eq_ok.mp haccess
    rw [ok_bind]
    dsimp only
    rw [ensure, if_neg (not_not.mpr (h r access.found).2)]
    exact ⟨.replay, rfl⟩

theorem serve_emptied (hs : Coherent cfg s) (h : Emptied id s) (c : Bytes) (env : Env) :
    ∃ denial, (serve cfg s (.collect id c, env)).1 = .error (.denied denial) := by
  rcases serve_cases s (.collect id c, env) with ⟨e, he, hserve⟩ | ⟨call, hcall, hserve⟩
  · rw [hserve]
    simp only [Request.call, requireMailboxId, requireCredentialBytes, bind_eq_error_iff,
      ensure_eq_error, pure_ne_error, and_false, exists_const, or_false] at he
    rcases he with ⟨-, rfl⟩ | ⟨_, -, -, rfl⟩ <;> exact ⟨_, rfl⟩
  · rw [hserve]
    cases Request.call_makes hcall with
    | collect => exact collect_emptied hs h _ env

/-! ### Faithful collection -/

/-- Collections return the committed result with the uploads staged before it, each referenced
once, again and again until the acknowledgement, and nothing afterwards. -/
theorem collect_faithful (cfg : Config) (is : List (Request × Env)) (i : Request × Env)
    (bundle : CommittedBundle)
    (hreply : (serve cfg (noted cfg is).1 i).1 = .ok (.bundle bundle)) :
    let id := bundle.binding.mailboxId
    let s := (serve cfg (noted cfg is).1 i).2
    ((noted cfg is).2 id).committed = some (bundle.resultJson, bundle.evidence) ∧
      (bundle.evidence.map fun u => u.objectId).Nodup ∧
      (∃ result, cfg.pydantic.validateResult bundle.resultJson = some result ∧
        result.modelDumpJson = bundle.resultJson ∧
        (result.evidence.map EvidenceReference.mailboxObjectId).Perm
          (bundle.evidence.map fun u => u.objectId) ∧
        ∀ item ∈ result.evidence, ∀ u ∈ bundle.evidence, item.mailboxObjectId = u.objectId →
          referenceMatches item u = true) ∧
      (∃ c, i.1 = .collect id c ∧ ∀ js,
        (∀ env now, env.clock = some now → (run (apply cfg) s js).notAfter now →
          (serve cfg (run (apply cfg) s js) (.collect id c, env)).1 = .ok (.bundle bundle)) ∨
        ∃ js₁ j js₂, js = js₁ ++ j :: js₂ ∧ Acknowledges cfg (run (apply cfg) s js₁) j id) ∧
      ∀ js j, Acknowledges cfg (run (apply cfg) s js) j id → ∀ ks,
        (∀ c env, ∃ denial, (serve cfg (run (apply cfg) s (js ++ j :: ks))
          (.collect id c, env)).1 = .error (.denied denial)) ∨
        ∃ ks₁ k ks₂, ks = ks₁ ++ k :: ks₂ ∧
          Opens cfg (run (apply cfg) s (js ++ j :: ks₁)) k id := by
  intro id s
  have haccounted := accounted_noted cfg is
  have hs : Coherent cfg s := (accounted_serveNoted _ i haccounted).coherent
  obtain ⟨call, hcall, hserve⟩ : ∃ call, i.1.call cfg = .ok call ∧
      serve cfg (noted cfg is).1 i = apply cfg (noted cfg is).1 (call, i.2) := by
    rcases serve_cases (noted cfg is).1 i with ⟨e, -, hserve⟩ | h
    · rw [hserve] at hreply
      exact nomatch hreply
    · exact h
  rw [hserve] at hreply
  obtain ⟨m, d, r, now, hcollect, access, hd, hstate, hcollection, hbinding, hnext⟩ :=
    collect_of_reply hreply
  dsimp only at hcollect
  subst hcollect
  have hid : m = id := by
    rw [← (haccounted.coherent.record m r access.found).key]
    exact congrArg (fun b => b.mailboxId) hbinding.symm
  subst hid
  have hack : r.collectionState ≠ .acknowledged := by
    rcases hcollection with h | h <;> simp [h]
  have hauthentic := validatedRecordMaterial_eq_ok.mp access.authentic
  -- what was committed is what the record retains
  obtain ⟨j, hj, hentry⟩ := (haccounted.agrees _ r access.found).committed hstate hack
  have hsame := Except.ok.inj
    ((validatedRecordMaterial_eq_ok.mpr hentry).symm.trans access.authentic)
  obtain ⟨hstaged, hjson⟩ := Prod.mk.inj hsame
  obtain rfl := Option.some.inj hjson
  have hcommitted : ((noted cfg is).2 id).committed = some (bundle.resultJson, bundle.evidence) := by
    rw [hj, hstaged]
  have hobjects : (bundle.evidence.map fun u => u.objectId).Nodup := by
    rw [slots_objectIds hauthentic.slots]
    exact r.evidence.nodup
  refine ⟨hcommitted, hobjects, ?_, ?_, ?_⟩
  · obtain ⟨result, hresult, hnodup, hmem, hmatch⟩ :=
      validateResultReferences_eq_ok hauthentic.references
    obtain ⟨result', hresult', hdump⟩ := haccounted.canonical _ _ _ hcommitted
    obtain rfl := Option.some.inj (hresult.symm.trans hresult')
    refine ⟨result, hresult, hdump, ?_, hmatch⟩
    exact (List.perm_ext_iff_of_nodup hnodup hobjects).mpr hmem
  · obtain ⟨c, hi, rfl⟩ := (Request.call_makes hcall).of_collect
    refine ⟨c, hi, fun js => ?_⟩
    have hretains : Retains cfg bundle (credentialDigest c) (r.delivering now) :=
      ⟨hbinding.symm, hd, hstate, by simp [Record.delivering],
        authentic_delivering hauthentic hstate hcollection now⟩
    have hserved : s = (apply cfg (noted cfg is).1 (.collect id (credentialDigest c), i.2)).2 :=
      congrArg Prod.snd hserve
    rw [← hserved] at hnext
    rcases retains_until_acknowledged hs hnext hretains js with ⟨r', hr', hretains'⟩ | hacked
    · refine Or.inl fun env now' hclock hafter => ?_
      have ht := run_invariant (fun t i h => (apply_step cfg t i).coherent h) js hs
      rw [hi] at hcall
      show (attempt _ _ _).1 = _
      rw [hcall, attempt_ok]
      exact collect_repeats ht hr' hretains' hclock hafter
    · exact Or.inr hacked
  · intro js j hacknowledges ks
    rw [run_append, run_cons]
    rcases emptied_until_opened hacknowledges.emptied ks with h | ⟨ks₁, k, ks₂, hsplit, hopens⟩
    · refine Or.inl fun c env => serve_emptied ?_ h c env
      refine run_invariant (fun t i h => (apply_step cfg t i).coherent h) ks ?_
      refine (apply_step cfg _ j).coherent ?_
      exact run_invariant (fun t i h => (apply_step cfg t i).coherent h) js hs
    · refine Or.inr ⟨ks₁, k, ks₂, hsplit, ?_⟩
      rw [run_append, run_cons]
      exact hopens

namespace Sample

/-- What is collected of the sample. -/
def bundle (x : Sample) : CommittedBundle where
  binding := x.binding
  resultJson := result.modelDumpJson
  evidence := [upload]
  valid := by
    have hlength : result.modelDumpJson.length ≤ 1048576 := result.length_modelDumpJson_le
    have hne := modelDumpJson_ne_nil result
    have hbytes : evidencePayloadBytes [upload] = 9 := rfl
    have hresponse : x.binding.responseBytes = 2097152 := rfl
    generalize result.modelDumpJson = j at hlength hne ⊢
    simp only [BundleFields.wellFormed, hbytes, hresponse, Bool.and_eq_true, decide_eq_true_eq]
    exact ⟨⟨⟨⟨hne, hlength⟩, by decide⟩, by decide⟩, by omega⟩

theorem collected_outcome {x : Sample} (h : x.Admissible)
    (hshort : x.canonical.length ≤ maxActionEnvelopeBytes) :
    (serve x.config x.committed.2 (.collect (sampleUuid 1) collectionCredential, env)).1 =
      .ok (.bundle x.bundle) := by
  obtain ⟨item, manifest, -, hr, hauthentic⟩ := committed_spec h hshort
  obtain ⟨m, access⟩ := coherent_committed.access hr (show env.clock = some now from rfl)
    (committed_notAfter h hshort)
  obtain rfl := Except.ok.inj
    ((validatedRecordMaterial_eq_ok.mpr hauthentic).symm.trans access.authentic)
  have hmake : CommittedBundle.make x.bundle.toBundleFields = .ok x.bundle := dif_pos x.bundle.valid
  have hcredential : (x.filled.committedWith item manifest now).collectionCredentialDigest =
      credentialDigest collectionCredential := rfl
  rw [serve_collect (by decide) (by decide), collect_retained access hcredential]
  exact congrArg (Except.map Reply.bundle) hmake

/-- The sample is collected as it was committed. -/
theorem collect_small :
    (serve small.config (noted small.config small.course).1
        (.collect (sampleUuid 1) collectionCredential, env)).1 = .ok (.bundle small.bundle) ∧
      ((noted small.config small.course).2 (sampleUuid 1)).committed =
        some (result.modelDumpJson, [upload]) := by
  have hreply : (serve small.config (noted small.config small.course).1
      (.collect (sampleUuid 1) collectionCredential, env)).1 = .ok (.bundle small.bundle) := by
    rw [noted_fst, run_course]
    exact collected_outcome small_admissible small_short
  exact ⟨hreply, (collect_faithful _ _ _ _ hreply).1⟩

end Sample
end MyCogni.Mailbox
