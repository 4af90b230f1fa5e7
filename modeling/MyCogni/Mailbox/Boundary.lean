import MyCogni.Mailbox.Deliverable

/-! Which exceptions leave the service. Besides the denials and the injected crashes, a plain
`ValueError` escapes on three branches; everywhere else the constructors of the value objects are
called on values that earlier checks made well-formed. -/

namespace MyCogni.Mailbox
variable {cfg : Config} {s : Repository} {b : ActionBinding} {id : Uuid} {r : Record}
  {m : List EvidenceUpload × Option Bytes} {env : Env} {now : Datetime}

/-! ### Checks that raise no `ValueError` -/

def Proper {α : Type} (x : Except Failure α) : Prop := x ≠ .error .valueError

section Proper
variable {α β : Type}

theorem proper_ok (a : α) : Proper (.ok a : Except Failure α) := nofun

theorem proper_pure (a : α) : Proper (pure a : Except Failure α) := nofun

theorem proper_bind {x : Except Failure α} {f : α → Except Failure β} (hx : Proper x)
    (hf : ∀ a, x = .ok a → Proper (f a)) : Proper (x >>= f) := by
  intro he
  rcases bind_eq_error_iff.mp he with he | ⟨a, ha, he⟩
  · exact hx he
  · exact hf a ha he

theorem proper_ensure {c : Prop} [Decidable c] {e : Failure} (h : e ≠ .valueError) :
    Proper (ensure c e) := by
  intro he
  exact h (ensure_eq_error.mp he).2

theorem proper_mapM {f : α → Except Failure β} {l : List α} (hf : ∀ a ∈ l, Proper (f a)) :
    Proper (l.mapM f) := by
  induction l with
  | nil => exact proper_pure []
  | cons a l ih =>
    obtain ⟨ha, hl⟩ := List.forall_mem_cons.mp hf
    rw [List.mapM_cons]
    exact proper_bind ha fun b _ => proper_bind (ih hl) fun bs _ => proper_pure _

theorem proper_map {x : Except Failure α} (f : α → β) (hx : Proper x) : Proper (x.map f) := by
  cases x with
  | ok a => exact proper_ok _
  | error e =>
    intro he
    exact hx (congrArg Except.error (Except.error.inj he))

theorem proper_attempt {σ : Type} {s : σ} {x : Except Failure α} {k : α → Except Failure β × σ}
    (hx : Proper x) (hk : ∀ a, x = .ok a → Proper (k a).1) : Proper (attempt s x k).1 := by
  cases x with
  | ok a => exact hk a rfl
  | error e => exact fun he => hx (congrArg Except.error (Except.error.inj he))

end Proper

theorem proper_hit (env : Env) (point : CrashPoint) : Proper (hit env point) :=
  proper_ensure (by simp)

theorem proper_record (s : Repository) (id : Uuid) : Proper (record s id) := by
  unfold record
  split
  · exact proper_ok _
  · split_ifs
    all_goals (intro h; cases h)

theorem proper_validatedInstallationNow (s : Repository) (clock : Option Datetime) :
    Proper (validatedInstallationNow s clock) := by
  unfold validatedInstallationNow
  split
  · nofun
  · exact proper_bind (proper_ensure (by simp [uncertain])) fun _ _ => proper_pure _

theorem proper_validatedRecordNow (s : Repository) (r : Record) (clock : Option Datetime) :
    Proper (validatedRecordNow s r clock) :=
  proper_bind (proper_validatedInstallationNow s clock) fun _ _ =>
    proper_bind (proper_ensure (by simp [uncertain])) fun _ _ => proper_pure _

theorem proper_requireResultAccess (r : Record) (b : ActionBinding) (d : Bytes) :
    Proper (requireResultAccess r b d) := by
  unfold requireResultAccess
  refine proper_bind (proper_ensure (by simp)) fun _ _ =>
    proper_bind (proper_ensure (by simp)) fun _ _ => ?_
  split
  · nofun
  · exact proper_ensure (by simp)

/-- What a coherent repository retains authenticates. -/
theorem Coherent.proper_material (h : Coherent cfg s) (hr : s.records.get? id = some r) :
    Proper (validatedRecordMaterial cfg r) := by
  obtain ⟨m, hm⟩ := (h.record id r hr).material
  rw [validatedRecordMaterial_eq_ok.mpr hm]
  exact proper_ok m

theorem Coherent.proper_collectionAccess (h : Coherent cfg s) (id : Uuid) (d : Bytes) (env : Env) :
    Proper (collectionAccess cfg s id d env) :=
  proper_bind (proper_record s id) fun _ hr => proper_bind (proper_ensure (by simp)) fun _ _ =>
    proper_bind (h.proper_material (record_eq_ok.mp hr)) fun _ _ =>
    proper_bind (proper_validatedRecordNow s _ _) fun _ _ => proper_pure _

theorem Coherent.proper_maintenanceAccess (h : Coherent cfg s) (d : Bytes) (env : Env) :
    Proper (maintenanceAccess cfg s d env) := by
  refine proper_bind (proper_ensure (by simp)) fun _ _ => proper_bind (proper_mapM fun r hr => ?_)
    fun _ _ => proper_bind (proper_validatedInstallationNow s _) fun _ _ =>
    proper_bind (proper_ensure (by simp [uncertain])) fun _ _ => proper_pure _
  obtain ⟨id, hid⟩ := Dict.mem_values.mp hr
  exact h.proper_material hid

/-! ### What the service hands to the repository -/

/-- What a record holds can be delivered, apart from the length of its envelope. -/
structure Record.Presentable (r : Record) : Prop where
  envelope : ∀ e ∈ r.envelopeJson, e ≠ []
  actionKey : ∀ key ∈ r.actionKey, key.length = actionKeyBytes
  resultCredential : ∀ c ∈ r.resultCredential,
    minCredentialBytes ≤ c.length ∧ c.length ≤ maxCredentialBytes
  result : r.resultBytes ≤ maxResultEnvelopeBytes

def Call.presentable : Call → Prop
  | .offer _ e key _ _ rc _ => e ≠ [] ∧ key.length = actionKeyBytes ∧
      minCredentialBytes ≤ rc.length ∧ rc.length ≤ maxCredentialBytes
  | .commitResult _ _ j _ => j.length ≤ maxResultEnvelopeBytes
  | _ => True

theorem Request.Makes.presentable {request : Request} {call : Call} (h : request.Makes cfg call) :
    call.presentable := by
  cases h with
  | offer hparse _ hkey hissued =>
    obtain ⟨-, -, -, -, hne⟩ := parseAction_eq_ok hparse
    exact ⟨hne, hkey, hissued⟩
  | @commitResult _ _ _ _ result _ hparse =>
    obtain ⟨-, -, -, hcanonical⟩ := parseResult_eq_ok hparse
    dsimp only at hcanonical
    subst hcanonical
    exact result.length_modelDumpJson_le
  | _ => trivial

theorem Record.Presentable.closed (r : Record) (state : MailboxState) (now : Datetime) :
    (r.closed state now).Presentable :=
  ⟨nofun, nofun, nofun, Int.natCast_nonneg _⟩

theorem Lapse.presentable {r' : Record} (h : r.Presentable) (hlapse : Lapse now r r') :
    r'.Presentable := by
  cases hlapse with
  | again => exact ⟨h.envelope, h.actionKey, h.resultCredential, h.result⟩
  | due => exact .closed r _ now

def AllPresentable (s : Repository) : Prop :=
  ∀ id r, s.records.get? id = some r → r.Presentable

theorem AllPresentable.set {s' : Repository} (h : AllPresentable s) {id : Uuid} {r : Record}
    (hrecords : s'.records = s.records.set id r) (hr : r.Presentable) : AllPresentable s' := by
  intro id' r' hr'
  rw [hrecords, Dict.get?_set] at hr'
  split_ifs at hr'
  · exact Option.some.inj hr' ▸ hr
  · exact h id' r' hr'

theorem Step.allPresentable {i : Call × Env} {out : Outcome} {s' : Repository}
    (h : Step cfg s i out s') (hs : AllPresentable s) (hcall : i.1.presentable) :
    AllPresentable s' := by
  cases h with
  | refused => exact hs
  | created => exact hs.set rfl ⟨nofun, nofun, nofun, Int.natCast_nonneg _⟩
  | lapsed _ _ access hlapse => exact hs.set rfl (hlapse.presentable (hs _ _ access.found))
  | viewed access _ hr' =>
    have hr := hs _ _ access.found
    rcases hr' with hlapse | ⟨rfl, -⟩
    · exact hs.set rfl (hlapse.presentable hr)
    · exact hs.set rfl ⟨hr.envelope, hr.actionKey, hr.resultCredential, hr.result⟩
  | offered access =>
    obtain ⟨he, hkey, hrc⟩ := hcall
    refine hs.set rfl ⟨?_, ?_, ?_, (hs _ _ access.found).result⟩
    · exact fun _ h => Option.some.inj h ▸ he
    · exact fun _ h => Option.some.inj h ▸ hkey
    · exact fun _ h => Option.some.inj h ▸ hrc
  | claimed access => exact hs.set rfl ⟨nofun, nofun, nofun, (hs _ _ access.found).result⟩
  | staged access =>
    have hr := hs _ _ access.found
    exact hs.set rfl ⟨hr.envelope, hr.actionKey, hr.resultCredential, hr.result⟩
  | committed access =>
    have hr := hs _ _ access.found
    refine hs.set rfl ⟨hr.envelope, hr.actionKey, hr.resultCredential, ?_⟩
    exact Int.ofNat_le.mpr hcall
  | delivered access =>
    have hr := hs _ _ access.found
    exact hs.set rfl ⟨hr.envelope, hr.actionKey, hr.resultCredential, hr.result⟩
  | acknowledgedAgain access =>
    have hr := hs _ _ access.found
    exact hs.set rfl ⟨hr.envelope, hr.actionKey, hr.resultCredential, hr.result⟩
  | acknowledged access =>
    have hr := hs _ _ access.found
    exact hs.set rfl ⟨hr.envelope, hr.actionKey, hr.resultCredential, Int.natCast_nonneg _⟩
  | abandoned access => exact hs.set rfl (.closed _ _ _)
  | swept _ _ _ _ hswept =>
    intro id r' hr'
    rw [hswept.records] at hr'
    obtain ⟨r, hr, h⟩ := Option.bind_eq_some_iff.mp hr'
    obtain rfl := Option.some.inj h
    unfold Record.swept
    split_ifs
    · exact .closed _ _ _
    · have hr := hs _ _ hr
      exact ⟨hr.envelope, hr.actionKey, hr.resultCredential, hr.result⟩
  | collected _ _ _ _ _ _ hswept =>
    intro id r' hr'
    rw [hswept.records] at hr'
    obtain ⟨r, hr, h⟩ := Option.bind_eq_some_iff.mp hr'
    split_ifs at h
    obtain rfl := Option.some.inj h
    have hr := hs _ _ hr
    exact ⟨hr.envelope, hr.actionKey, hr.resultCredential, hr.result⟩

theorem allPresentable_serve (cfg : Config) (is : List (Request × Env)) :
    AllPresentable (run (serve cfg) .empty is) := by
  have hempty : AllPresentable .empty := fun _ _ h => nomatch h
  refine run_invariant (fun s i hs => ?_) is hempty
  rcases serve_cases s i with ⟨e, -, hserve⟩ | ⟨call, hcall, hserve⟩
  · rw [hserve]
    exact hs
  · rw [hserve]
    exact (apply_step cfg s (call, i.2)).allPresentable hs (Request.call_makes hcall).presentable

/-! ### The calls -/

theorem Access.bundle_wellFormed (hs : Coherent cfg s) (hr : r.Presentable) {j : Bytes}
    {uploads : List EvidenceUpload} (access : Access cfg s env id r (uploads, some j) now) :
    BundleFields.wellFormed ⟨r.binding, j, uploads⟩ = true := by
  have hm := validatedRecordMaterial_eq_ok.mp access.authentic
  have hrecord := hs.record _ _ access.found
  have hpayload : (evidencePayloadBytes uploads : Int) = r.evidenceBytes := slots_byteCount hm.slots
  have hitems : uploads.length = r.evidence.size := by
    have hids := congrArg List.length (slots_objectIds hm.slots)
    rw [List.length_map] at hids
    exact hids.trans (List.length_map ..)
  have hmax := r.binding.responseBytes_le
  have hlifecycle := hrecord.lifecycle
  cases hm with
  | @retained _ result _ _ hstate _ hready hresult _ hunwrap =>
    obtain ⟨hlength, hpos⟩ := unwrapResult_length hunwrap
    have hsize := hr.result
    simp only [Record.resultBytes, hresult, Option.map_some, Option.getD_some] at hsize
    have hack : r.collectionState ≠ .acknowledged := by
      rcases hready with h | h <;> simp [h]
    have hbound : result.byteCount + r.evidenceBytes ≤ r.binding.responseBytes := by
      simp only [Record.validLifecycle, hstate, Bool.and_eq_true, Bool.or_eq_true,
        decide_eq_true_eq, hack, hresult] at hlifecycle
      simpa [hack] using hlifecycle.2
    have hcount := hrecord.items
    simp only [BundleFields.wellFormed, Bool.and_eq_true, decide_eq_true_eq]
    refine ⟨⟨⟨⟨List.ne_nil_of_length_pos hpos, ?_⟩, hitems ▸ hcount⟩, ?_⟩, ?_⟩
    · omega
    · omega
    · push_cast
      omega

theorem proper_collect (hs : Coherent cfg s) (hp : AllPresentable s) (id : Uuid) (d : Bytes)
    (env : Env) : Proper (collect cfg s id d env).1 := by
  refine proper_attempt ?_ ?_
  · refine proper_bind (hs.proper_collectionAccess id d env) fun _ _ => ?_
    refine proper_bind (proper_ensure (by simp)) fun _ _ => proper_bind (proper_ensure (by simp))
      fun _ _ => proper_bind (proper_ensure (by simp [uncertain])) fun _ _ => ?_
    split
    · nofun
    · exact proper_pure _
  · rintro ⟨r, fields, now⟩ hok
    rw [bind_eq_ok_iff] at hok
    obtain ⟨⟨r', ⟨uploads, json⟩, now'⟩, haccess, hok⟩ := hok
    obtain ⟨access, -⟩ := collectionAccess_eq_ok.mp haccess
    simp only [bind_eq_ok_iff, ensure_eq_ok, exists_const] at hok
    obtain ⟨-, -, -, hok⟩ := hok
    cases json with
    | none => exact nomatch hok
    | some j =>
      obtain ⟨rfl, rfl, rfl⟩ := Prod.mk.injEq .. ▸ pure_eq_ok_iff.mp hok
      have hvalid := access.bundle_wellFormed hs (hp _ _ access.found)
      show Proper (CommittedBundle.make _)
      rw [CommittedBundle.make, dif_pos hvalid]
      exact proper_ok _

theorem proper_unwrap_wrap {u : EvidenceUpload} (h : sha256Text u.payload = u.payloadDigest)
    (id : Uuid) (nonce : Nonce) : Proper (unwrap cfg id u.objectId (wrap cfg id u nonce)) := by
  rw [unwrap_wrap id u nonce h]
  exact proper_ok u

theorem proper_create (b : ActionBinding) (a c k : Bytes) (env : Env) :
    Proper (create cfg s b a c k env).1 := by
  refine proper_attempt ?_ fun _ _ => proper_ok _
  refine proper_bind (proper_validatedInstallationNow s _) fun _ _ => ?_
  iterate 7 refine proper_bind (proper_ensure (by simp)) fun _ _ => ?_
  exact proper_pure _

theorem proper_offer (hs : Coherent cfg s) (b : ActionBinding) (e key a k rc rd : Bytes)
    (env : Env) : Proper (offer cfg s b e key a k rc rd env).1 := by
  refine proper_attempt ?_ fun p _ => ?_
  · refine proper_bind (proper_record s _) fun r hr => ?_
    iterate 3 refine proper_bind (proper_ensure (by simp)) fun _ _ => ?_
    refine proper_bind (hs.proper_material (record_eq_ok.mp hr)) fun _ _ =>
      proper_bind (proper_validatedRecordNow s r _) fun _ _ => ?_
    iterate 3 refine proper_bind (proper_ensure (by simp)) fun _ _ => ?_
    exact proper_pure _
  · obtain ⟨r, now⟩ := p
    dsimp only
    split
    · nofun
    · exact proper_attempt (proper_bind (proper_ensure (by simp)) fun _ _ =>
        proper_ensure (by simp)) fun _ _ => proper_ok _

theorem proper_stageEvidence (hs : Coherent cfg s) (b : ActionBinding) (d : Bytes)
    (u : EvidenceUpload) (env : Env) : Proper (stageEvidence cfg s b d u env).1 := by
  refine proper_attempt ?_ fun p _ => ?_
  · exact proper_bind (proper_record s _) fun r hr =>
      proper_bind (proper_requireResultAccess r b d) fun _ _ =>
      proper_bind (hs.proper_material (record_eq_ok.mp hr)) fun _ _ =>
      proper_bind (proper_validatedRecordNow s r _) fun _ _ => proper_pure _
  · obtain ⟨r, now⟩ := p
    dsimp only
    split
    · nofun
    · refine proper_attempt ?_ fun _ _ => proper_bind (proper_hit env _) fun _ _ => proper_ok _
      iterate 4 refine proper_bind (proper_ensure (by simp)) fun _ _ => ?_
      refine proper_bind (proper_ensure (by simp)) fun _ hdigest => ?_
      -- the digest was just compared, so that the item unwraps to the upload
      rw [unwrap_wrap _ _ _ (ensure_eq_ok.mp hdigest)]
      exact proper_bind (proper_ok u) fun _ _ => proper_hit env _

theorem proper_acknowledgeCollection (hs : Coherent cfg s) (id : Uuid) (d : Bytes) (env : Env) :
    Proper (acknowledgeCollection cfg s id d env).1 := by
  refine proper_attempt (hs.proper_collectionAccess id d env) fun p _ => ?_
  obtain ⟨r, m, now⟩ := p
  dsimp only
  split_ifs
  · exact proper_ok _
  · refine proper_attempt ?_ fun _ _ => proper_bind (proper_hit env _) fun _ _ => proper_ok _
    exact proper_bind (proper_ensure (by simp)) fun _ _ => proper_hit env _

theorem proper_abandon (hs : Coherent cfg s) (id : Uuid) (d : Bytes) (env : Env) :
    Proper (abandon cfg s id d env).1 := by
  refine proper_attempt (hs.proper_collectionAccess id d env) fun p _ => ?_
  obtain ⟨r, m, now⟩ := p
  dsimp only
  split
  · nofun
  · exact proper_attempt (proper_ensure (by simp)) fun _ _ => proper_ok _

theorem proper_garbageCollect (hs : Coherent cfg s) (d : Bytes) (env : Env) :
    Proper (garbageCollect cfg s d env).1 := by
  refine proper_attempt (proper_bind (hs.proper_maintenanceAccess d env) fun now _ => ?_)
    fun _ _ => proper_ok _
  split
  · nofun
  · exact proper_pure _

/-! ### Claims -/

theorem claimedAction_make_valueError {fields : ClaimedFields} (hr : r.Presentable)
    (he : r.envelopeJson = some fields.envelopeJson) (hkey : r.actionKey = some fields.actionKey)
    (hrc : r.resultCredential = some fields.resultCredential) :
    ClaimedAction.make fields = .error .valueError ↔
      maxActionEnvelopeBytes < fields.envelopeJson.length := by
  have hformed : fields.wellFormed = true ↔
      fields.envelopeJson.length ≤ maxActionEnvelopeBytes := by
    simp only [ClaimedFields.wellFormed, Bool.and_eq_true, decide_eq_true_eq]
    have hcredential := hr.resultCredential _ hrc
    exact ⟨fun h => h.1.1.2, fun h => ⟨⟨⟨hr.envelope _ he, h⟩, hr.actionKey _ hkey⟩, hcredential⟩⟩
  unfold ClaimedAction.make
  split_ifs with h
  · simpa using hformed.mp h
  · simpa using mt hformed.mpr h

/-- The state and the time admit a claim, and no crash is injected. -/
structure ClaimAdmitted (cfg : Config) (s : Repository) (env : Env) (b : ActionBinding) (d e : Bytes) :
    Prop where
  admitted : ∃ r m now, Access cfg s env b.mailboxId r m now ∧ r.claimCredentialDigest = d ∧
    r.binding = b ∧ r.state = .offered ∧ now < b.claimDeadlineUtc ∧ r.envelopeJson = some e
  before : env.crashes .beforeClaimCommit = false
  after : env.crashes .afterClaimCommit = false

theorem claim_valueError (hs : Coherent cfg s) (hp : AllPresentable s) (b : ActionBinding)
    (d : Bytes) (env : Env) :
    (apply cfg s (.claim b d, env)).1 = .error .valueError ↔
      ∃ e, ClaimAdmitted cfg s env b d e ∧ maxActionEnvelopeBytes < e.length := by
  constructor
  · intro h
    replace h : (claim cfg s b d env).1 = .error .valueError := by
      by_contra hne
      exact proper_map Reply.claimed hne h
    generalize hx : claim cfg s b d env = x at h
    rcases attempt_cases hx with ⟨f, hf, rfl⟩ | ⟨⟨r, now⟩, hok, hk⟩
    · obtain rfl := Except.error.inj h
      refine absurd hf ?_
      exact proper_bind (proper_record s _) fun r hr => proper_bind (proper_ensure (by simp))
        fun _ _ => proper_bind (proper_ensure (by simp)) fun _ _ =>
        proper_bind (hs.proper_material (record_eq_ok.mp hr)) fun _ _ =>
        proper_bind (proper_validatedRecordNow s r _) fun _ _ => proper_pure _
    · simp only [bind_eq_ok_iff, record_eq_ok, requireBinding, requireCredential, ensure_eq_ok,
        validatedRecordNow_eq_ok, pure_eq_ok_iff, exists_const, Prod.mk.injEq] at hok
      obtain ⟨r', hr, hd, hb, m, hm, now', ⟨hclock, hafter, hseen⟩, rfl, rfl⟩ := hok
      have access : Access cfg s env b.mailboxId r' m now' := ⟨hr, hm, hclock, hafter, hseen⟩
      dsimp only at hk
      split at hk
      · subst hk
        cases h
      · next hdue =>
        rcases attempt_cases hk with ⟨f, hf, rfl⟩ | ⟨fields, hok, rfl⟩
        · obtain rfl := Except.error.inj h
          refine absurd hf (proper_bind (proper_ensure (by simp)) fun _ _ => ?_)
          split
          · exact proper_bind (proper_hit env _) fun _ _ => proper_pure _
          · (intro h; cases h)
        · simp only [bind_eq_ok_iff, ensure_eq_ok, exists_const] at hok
          obtain ⟨hstate, hok⟩ := hok
          split at hok
          · next e key rc he hkey hrc =>
            simp only [bind_eq_ok_iff, hit_eq_ok, pure_eq_ok_iff, exists_const] at hok
            obtain ⟨hbefore, rfl⟩ := hok
            have hlt := (expireIfDue_none hdue).2 (by simp [hstate, MailboxState.isOpen])
            rw [deadline_unclaimed hb (Or.inr hstate)] at hlt
            dsimp only at h
            rcases bind_eq_error_iff.mp h with h | ⟨_, hpoint, h⟩
            · exact absurd h (proper_hit env _)
            · have hlong := (claimedAction_make_valueError (hp _ _ hr) he hkey hrc).mp h
              exact ⟨e, ⟨⟨r', m, now', access, hd, hb, hstate, hlt, he⟩, hbefore,
                hit_eq_ok.mp hpoint⟩, hlong⟩
          · cases hok
  · rintro ⟨e, ⟨⟨r, m, now, access, hd, hb, hstate, hlt, he⟩, hbefore, hafter⟩, hlong⟩
    obtain ⟨key, rc, hkey, hrc⟩ : ∃ key rc, r.actionKey = some key ∧ r.resultCredential = some rc := by
      have hlifecycle := (hs.record _ _ access.found).lifecycle
      simp only [Record.validLifecycle, hstate, Bool.and_eq_true] at hlifecycle
      obtain ⟨key, hkey⟩ := Option.isSome_iff_exists.mp hlifecycle.1.1.1.1.2.1.2
      obtain ⟨rc, hrc⟩ := Option.isSome_iff_exists.mp hlifecycle.1.1.1.1.2.2
      exact ⟨key, rc, hkey, hrc⟩
    rw [(claim_ok access hd hb hstate hlt he hkey hrc hbefore hafter).1,
      (@claimedAction_make_valueError r ⟨b, e, key, rc⟩ (hp _ _ access.found) he hkey
        hrc).mpr hlong]
    rfl

/-! ### Commitments -/

/-- `str` renders the three unbounded integers of the binding. -/
def ActionBinding.renders (b : ActionBinding) : Bool :=
  strDigitsOk b.dispatchEpoch && strDigitsOk b.fence && strDigitsOk b.authorizationEpoch

theorem strDigitsOk_of_bounded {i : Int} (h : 0 < i ∧ i ≤ maxEvidenceBytes) :
    strDigitsOk i = true := by
  have hlength : (Nat.toDigits 10 i.natAbs).length ≤ 8 := by
    refine (Nat.length_toDigits_le_iff (by decide) (by decide)).mpr ?_
    have hle := h.2
    simp only [maxEvidenceBytes] at hle
    omega
  exact decide_eq_true (hlength.trans (by decide))

theorem ActionBinding.budget_digits (b : ActionBinding) :
    strDigitsOk b.wallSeconds = true ∧ strDigitsOk b.responseBytes = true := by
  have h := b.valid
  simp only [BindingFields.wellFormed, Bool.and_eq_true, decide_eq_true_eq] at h
  obtain ⟨⟨-, hwall, hresponse⟩, hwall', hresponse'⟩ := h
  have hmax : maxWallSeconds ≤ maxEvidenceBytes := by decide
  exact ⟨strDigitsOk_of_bounded ⟨hwall, hwall'.trans (by exact_mod_cast hmax)⟩,
    strDigitsOk_of_bounded ⟨hresponse, hresponse'⟩⟩

theorem bindingDigest_valueError :
    bindingDigest b = .error .valueError ↔ b.renders = false := by
  obtain ⟨hwall, hresponse⟩ := b.budget_digits
  unfold bindingDigest ActionBinding.renders
  simp only [strInt, hwall, hresponse, if_true]
  cases strDigitsOk b.dispatchEpoch <;> cases strDigitsOk b.fence <;>
    cases strDigitsOk b.authorizationEpoch <;> simp

theorem proper_validateResultReferences (b : ActionBinding) (j : Bytes)
    (evidence : List EvidenceUpload) : Proper (validateResultReferences cfg b j evidence) := by
  unfold validateResultReferences
  split
  · nofun
  · exact proper_bind (proper_ensure (by simp [uncertain])) fun _ _ =>
      proper_bind (proper_ensure (by simp [uncertain])) fun _ _ =>
      proper_ensure (by simp [uncertain])

theorem proper_buildCommittedManifest {digest : Bytes} (h : bindingDigest b = .ok digest)
    (ids : List Uuid) (item : WrappedResult) : Proper (buildCommittedManifest cfg b ids item) := by
  unfold buildCommittedManifest
  rw [h]
  exact proper_bind (proper_ensure (by simp [uncertain])) fun _ _ => proper_ok _

/-- The checks of `commit_result` in front of the digest of the binding pass. -/
structure CommitAdmitted (cfg : Config) (s : Repository) (env : Env) (b : ActionBinding) (d j : Bytes)
    (seals : List EvidenceSeal) (r : Record) (m : List EvidenceUpload × Option Bytes)
    (now : Datetime) : Prop where
  access : Access cfg s env b.mailboxId r m now
  binding : r.binding = b
  state : r.state = .claimedOnce
  credential : r.resultCredentialDigest = some d
  inTime : now < b.deadlineUtc
  staged : ∀ id ∈ seals.map fun item => item.objectId, r.evidence.contains id = true
  referenced : ∀ id ∈ r.evidence.keys, id ∈ seals.map fun item => item.objectId
  same : ∀ item ∈ seals, ∀ upload ∈ m.1, upload.objectId = item.objectId →
    sealMatches item upload = true
  bytes : (j.length : Int) + r.evidenceBytes ≤ b.responseBytes
  quota : s.totalCommittedBytes + (j.length + r.evidenceBytes) ≤ cfg.limits.maxTotalCommittedBytes

theorem commitResult_valueError (hs : Coherent cfg s) (b : ActionBinding) (d j : Bytes)
    (seals : List EvidenceSeal) (env : Env) :
    (apply cfg s (.commitResult b d j seals, env)).1 = .error .valueError ↔
      (∃ r m now, CommitAdmitted cfg s env b d j seals r m now) ∧ b.renders = false := by
  constructor
  · intro h
    replace h : (commitResult cfg s b d j seals env).1 = .error .valueError := by
      by_contra hne
      exact proper_map Reply.snapshot hne h
    generalize hx : commitResult cfg s b d j seals env = x at h
    rcases attempt_cases hx with ⟨f, hf, rfl⟩ | ⟨⟨r, evidence, now⟩, hok, hk⟩
    · obtain rfl := Except.error.inj h
      refine absurd hf ?_
      exact proper_bind (proper_record s _) fun r hr =>
        proper_bind (proper_requireResultAccess r b d) fun _ _ =>
        proper_bind (hs.proper_material (record_eq_ok.mp hr)) fun _ _ =>
        proper_bind (proper_validatedRecordNow s r _) fun _ _ => proper_pure _
    · simp only [bind_eq_ok_iff, record_eq_ok, requireResultAccess_eq_ok, validatedRecordNow_eq_ok,
        pure_eq_ok_iff, exists_const, Prod.mk.injEq] at hok
      obtain ⟨r', hr, ⟨rfl, hstate, hd⟩, m, hm, now', ⟨hclock, hafter, hseen⟩, rfl, rfl, rfl⟩ := hok
      have access : Access cfg s env r'.binding.mailboxId r' m now' :=
        ⟨hr, hm, hclock, hafter, hseen⟩
      dsimp only at hk
      split at hk
      · subst hk
        cases h
      · next hdue =>
        have hlt := (expireIfDue_none hdue).2 (by simp [hstate, MailboxState.isOpen])
        rw [deadline_claimed rfl hstate] at hlt
        rcases attempt_cases hk with ⟨f, hf, rfl⟩ | ⟨⟨item, manifest⟩, hok, rfl⟩
        · obtain rfl := Except.error.inj h
          simp only [bind_eq_error_iff, ensure_eq_error, ensure_eq_ok, exists_const, reduceCtorEq,
            and_false, false_or] at hf
          obtain ⟨hstaged, hreferenced, hsame, hbytes, hquota, hf⟩ := hf
          refine ⟨⟨r', m, now', access, rfl, hstate, hd, hlt, hstaged, hreferenced, hsame, hbytes,
            hquota⟩, ?_⟩
          rcases hf with hf | ⟨digest, hdigest, hf⟩
          · exact bindingDigest_valueError.mp hf
          · rcases hf with hf | ⟨_, -, hf | ⟨_, -, hf | ⟨_, -, hf⟩⟩⟩
            · exact absurd hf (proper_validateResultReferences _ _ _)
            · exact absurd hf (proper_buildCommittedManifest hdigest _ _)
            · exact absurd hf (proper_hit env _)
            · cases hf
        · exact absurd h (proper_bind (proper_hit env _) fun _ _ => proper_ok _)
  · rintro ⟨⟨r, m, now, h⟩, hrenders⟩
    obtain rfl := h.binding
    have hdue : expireIfDue (s, r) now = none :=
      expireIfDue_eq_none (by simp [h.state, MailboxState.isOpen])
        (deadline_claimed rfl h.state ▸ h.inTime)
    show (commitResult cfg s r.binding d j seals env).1.map Reply.snapshot = _
    unfold commitResult
    rw [record_eq_ok.mpr h.access.found, ok_bind,
      (requireResultAccess_eq_ok (u := ())).mpr ⟨rfl, h.state, h.credential⟩, ok_bind,
      h.access.authentic, ok_bind,
      validatedRecordNow_eq_ok.mpr ⟨h.access.clock, h.access.notAfter, h.access.seen⟩, ok_bind,
      attempt_pure]
    dsimp only
    rw [hdue]
    dsimp only
    rw [ensure_bind h.staged, ensure_bind h.referenced, ensure_bind h.same, ensure_bind h.bytes,
      ensure_bind h.quota, bindingDigest_valueError.mpr hrenders]
    rfl

/-! ### The service -/

theorem ResultEnvelope.wellFormed_of_mem {result : ResultEnvelope} {item : EvidenceReference}
    (h : item ∈ result.evidence) : item.wellFormed = true := by
  have hvalid := result.valid
  simp only [ResultFields.wellFormed, Bool.and_eq_true, decide_eq_true_eq, List.all_eq_true] at hvalid
  exact hvalid.1.1.1.2.1.2 item h

theorem seal_wellFormed {item : EvidenceReference} (h : item.wellFormed = true) :
    SealFields.wellFormed ⟨item.mailboxObjectId, item.kind, item.payloadDigest, item.byteCount⟩ =
      true := by
  simp only [EvidenceReference.wellFormed, Bool.and_eq_true] at h
  simp only [SealFields.wellFormed, Bool.and_eq_true]
  exact ⟨⟨⟨h.1.1.2, h.1.1.1⟩, h.1.2⟩, h.2⟩

/-- The seals that `commit_result` makes of the references of a validated result. -/
def ResultEnvelope.seals (result : ResultEnvelope) : List EvidenceSeal :=
  result.evidence.pmap (fun item h => ⟨_, @seal_wellFormed item h⟩) fun _ h =>
    ResultEnvelope.wellFormed_of_mem h

theorem mapM_makeSeal (result : ResultEnvelope) :
    (result.evidence.mapM fun item =>
      EvidenceSeal.make ⟨item.mailboxObjectId, item.kind, item.payloadDigest, item.byteCount⟩) =
      .ok result.seals := by
  rw [mapM_eq_ok_iff, ResultEnvelope.seals]
  generalize_proofs hmem
  generalize result.evidence = items at hmem
  induction items with
  | nil => exact .nil
  | cons item items ih => exact .cons (dif_pos _) (ih _)

/-- The branches on which a `ValueError` leaves the service. -/
inductive Escapes (cfg : Config) (s : Repository) : Request × Env → Prop where
  /-- A result is committed under a binding whose capability is not one of the protocol. -/
  | capability {b : ActionBinding} {j c canonical : Bytes} {result : ResultEnvelope} {env : Env} :
      requireCredentialBytes c = .ok () → parseResult cfg j = .ok (result, canonical) →
      result.actionId = b.actionId ∧ result.attemptId = b.attemptId →
      Capability.ofText b.capability = none → Escapes cfg s (.commitResult b j c, env)
  /-- The repository would commit under a binding with an integer that `str` does not render. -/
  | integer {b : ActionBinding} {j c canonical : Bytes} {result : ResultEnvelope} {env : Env}
      {r : Record} {m : List EvidenceUpload × Option Bytes} {now : Datetime} :
      requireCredentialBytes c = .ok () → parseResult cfg j = .ok (result, canonical) →
      result.actionId = b.actionId ∧ result.attemptId = b.attemptId →
      requireResultPolicy b result = .ok () →
      CommitAdmitted cfg s env b (credentialDigest c) canonical result.seals r m now →
      b.renders = false → Escapes cfg s (.commitResult b j c, env)
  /-- A claim takes effect for an envelope longer than its reply can hold. -/
  | envelope {b : ActionBinding} {c e : Bytes} {env : Env} :
      requireCredentialBytes c = .ok () → ClaimAdmitted cfg s env b (credentialDigest c) e →
      maxActionEnvelopeBytes < e.length → Escapes cfg s (.claim b c, env)

theorem proper_requireCredentialBytes (c : Bytes) : Proper (requireCredentialBytes c) :=
  proper_ensure (by simp)

theorem proper_requirePairwiseCredentials (cs : List Bytes) :
    Proper (requirePairwiseCredentials cs) :=
  proper_bind (proper_mapM fun c _ => proper_requireCredentialBytes c) fun _ _ =>
    proper_ensure (by simp)

theorem proper_parseAction (j : Bytes) : Proper (parseAction cfg j) := by
  refine proper_bind (proper_ensure (by simp)) fun _ _ => ?_
  split
  · nofun
  · exact proper_pure _

theorem proper_parseResult (j : Bytes) : Proper (parseResult cfg j) := by
  refine proper_bind (proper_ensure (by simp)) fun _ _ => ?_
  split
  · nofun
  · exact proper_pure _

theorem proper_bindAction (mailboxId : Uuid) (j : Bytes) (artifact : Text) (dispatchEpoch : Int)
    (claimDeadline : Datetime) :
    Proper (bindAction cfg mailboxId j artifact dispatchEpoch claimDeadline) := by
  refine proper_bind (proper_parseAction j) fun p _ => ?_
  obtain ⟨action, canonical⟩ := p
  dsimp only
  split
  · nofun
  · exact proper_pure _

theorem requireResultPolicy_valueError {result : ResultEnvelope} :
    requireResultPolicy b result = .error .valueError ↔ Capability.ofText b.capability = none := by
  unfold requireResultPolicy
  split
  · next h => simp [h]
  · next capability h =>
    have hproper : Proper (do
        ensure (result.result ∈ resultsByCapability capability) (.denied .capabilityMismatch)
        ensure (result.next ∈ nextByResult result.result) (.denied .capabilityMismatch)) :=
      proper_bind (proper_ensure (by simp)) fun _ _ => proper_ensure (by simp)
    constructor
    · exact fun he => absurd he hproper
    · rw [h]
      exact fun he => nomatch he

theorem Request.call_commitResult {b : ActionBinding} {j c : Bytes} {out : Except Failure Call}
    (hout : (Request.commitResult b j c).call cfg = out) :
    (out = .error .valueError ↔ ∃ result canonical, requireCredentialBytes c = .ok () ∧
      parseResult cfg j = .ok (result, canonical) ∧
      (result.actionId = b.actionId ∧ result.attemptId = b.attemptId) ∧
      Capability.ofText b.capability = none) := by
  subst hout
  constructor
  · intro h
    rcases bind_eq_error_iff.mp h with h | ⟨⟨⟩, hc, h⟩
    · exact absurd h (proper_requireCredentialBytes c)
    rcases bind_eq_error_iff.mp h with h | ⟨⟨result, canonical⟩, hparse, h⟩
    · exact absurd h (proper_parseResult j)
    rcases bind_eq_error_iff.mp h with h | ⟨_, hids, h⟩
    · exact absurd h (proper_ensure (by simp))
    rcases bind_eq_error_iff.mp h with h | ⟨_, _, h⟩
    · exact ⟨result, canonical, hc, hparse, ensure_eq_ok.mp hids,
        requireResultPolicy_valueError.mp h⟩
    · rw [mapM_makeSeal] at h
      exact nomatch h
  · rintro ⟨result, canonical, hc, hparse, hids, hcapability⟩
    rw [Request.call, hc, ok_bind, hparse, ok_bind]
    dsimp only
    rw [ensure_bind hids, requireResultPolicy_valueError.mpr hcapability]
    rfl

/-- No request but a commitment is refused with `ValueError` in front of the repository. -/
theorem Request.proper_call {request : Request} (h : ∀ b j c, request ≠ .commitResult b j c) :
    Proper (request.call cfg) := by
  cases request with
  | openEmpty =>
    exact proper_bind (proper_requirePairwiseCredentials _) fun _ _ =>
      proper_bind (proper_ensure (by simp)) fun _ _ => proper_pure _
  | offer =>
    exact proper_bind (proper_parseAction _) fun _ _ => proper_bind (proper_ensure (by simp))
      fun _ _ => proper_bind (proper_requireCredentialBytes _) fun _ _ =>
      proper_bind (proper_ensure (by simp)) fun _ _ =>
      proper_bind (proper_requireCredentialBytes _) fun _ _ =>
      proper_bind (proper_requirePairwiseCredentials _) fun _ _ => proper_pure _
  | stageEvidence =>
    exact proper_bind (proper_requireCredentialBytes _) fun _ _ =>
      proper_bind (proper_ensure (by simp)) fun _ _ => proper_bind (proper_ensure (by simp))
      fun _ _ => proper_pure _
  | commitResult b j c => exact absurd rfl (h b j c)
  | claim | expireDue | garbageCollect =>
    exact proper_bind (proper_requireCredentialBytes _) fun _ _ => proper_pure _
  | collect | acknowledgeCollection | abandon | snapshot =>
    exact proper_bind (proper_ensure (by simp)) fun _ _ =>
      proper_bind (proper_requireCredentialBytes _) fun _ _ => proper_pure _

/-- The call of a commitment that the service lets through. -/
theorem Request.call_commitResult_ok {b : ActionBinding} {j c : Bytes} {call : Call} :
    (Request.commitResult b j c).call cfg = .ok call ↔ ∃ result canonical,
      requireCredentialBytes c = .ok () ∧ parseResult cfg j = .ok (result, canonical) ∧
      (result.actionId = b.actionId ∧ result.attemptId = b.attemptId) ∧
      requireResultPolicy b result = .ok () ∧
      .commitResult b (credentialDigest c) canonical result.seals = call := by
  simp only [Request.call, bind_eq_ok_iff, pure_eq_ok_iff, ensure_eq_ok, exists_const,
    mapM_makeSeal, Except.ok.injEq, exists_eq_left']
  constructor
  · rintro ⟨⟨⟩, hc, ⟨result, canonical⟩, hparse, hids, ⟨⟩, hpolicy, rfl⟩
    exact ⟨result, canonical, hc, hparse, hids, hpolicy, rfl⟩
  · rintro ⟨result, canonical, hc, hparse, hids, hpolicy, rfl⟩
    exact ⟨(), hc, (result, canonical), hparse, hids, (), hpolicy, rfl⟩

/-- No call but a claim and a commitment can raise `ValueError`. -/
theorem proper_apply (hs : Coherent cfg s) (hp : AllPresentable s) (env : Env) {call : Call}
    (hclaim : ∀ b d, call ≠ .claim b d)
    (hcommit : ∀ b d j seals, call ≠ .commitResult b d j seals) :
    Proper (apply cfg s (call, env)).1 := by
  cases call with
  | create b a c k => exact proper_map _ (proper_create b a c k env)
  | offer b e key a k rc rd => exact proper_map _ (proper_offer hs b e key a k rc rd env)
  | claim b d => exact absurd rfl (hclaim b d)
  | stageEvidence b d u => exact proper_map _ (proper_stageEvidence hs b d u env)
  | commitResult b d j seals => exact absurd rfl (hcommit b d j seals)
  | collect id d => exact proper_map _ (proper_collect hs hp id d env)
  | acknowledgeCollection id d => exact proper_map _ (proper_acknowledgeCollection hs id d env)
  | abandon id d => exact proper_map _ (proper_abandon hs id d env)
  | expire d =>
    exact proper_map _ (proper_attempt (hs.proper_maintenanceAccess d env) fun _ _ => proper_ok _)
  | garbageCollect d => exact proper_map _ (proper_garbageCollect hs d env)
  | snapshot id d =>
    exact proper_map _ (proper_attempt (hs.proper_collectionAccess id d env) fun _ _ => proper_ok _)

theorem serve_valueError (hs : Coherent cfg s) (hp : AllPresentable s) (i : Request × Env) :
    (serve cfg s i).1 = .error .valueError ↔ Escapes cfg s i := by
  obtain ⟨request, env⟩ := i
  constructor
  · intro h
    rcases serve_cases s (request, env) with ⟨e, he, hserve⟩ | ⟨call, hcall, hserve⟩
    · rw [hserve] at h
      obtain rfl := Except.error.inj h
      cases request with
      | commitResult b j c =>
        obtain ⟨result, canonical, hc, hparse, hids, hcapability⟩ :=
          (Request.call_commitResult he).mp rfl
        exact .capability hc hparse hids hcapability
      | _ => exact absurd he (Request.proper_call (fun _ _ _ h => by cases h))
    · rw [hserve] at h
      cases Request.call_makes hcall with
      | @claim b c =>
        obtain ⟨e, hadmitted, hlong⟩ := (claim_valueError hs hp b _ env).mp h
        simp only [Request.call, bind_eq_ok_iff] at hcall
        obtain ⟨⟨⟩, hc, -⟩ := hcall
        exact .envelope hc hadmitted hlong
      | @commitResult b j c canonical result seals _ =>
        obtain ⟨result, canonical, hc, hparse, hids, hpolicy, hcall⟩ :=
          Request.call_commitResult_ok.mp hcall
        rw [← hcall] at h
        obtain ⟨⟨r, m, now, hadmitted⟩, hrenders⟩ := (commitResult_valueError hs _ _ _ _ env).mp h
        exact .integer hc hparse hids hpolicy hadmitted hrenders
      | _ => exact absurd h (proper_apply hs hp env (fun _ _ h => by cases h)
          (fun _ _ _ _ h => by cases h))
  · intro h
    cases h with
    | capability hc hparse hids hcapability =>
      have hcall := (@Request.call_commitResult cfg _ _ _ _ rfl).mpr
        ⟨_, _, hc, hparse, hids, hcapability⟩
      unfold serve
      rw [hcall]
      rfl
    | integer hc hparse hids hpolicy hadmitted hrenders =>
      have hcall := Request.call_commitResult_ok.mpr ⟨_, _, hc, hparse, hids, hpolicy, rfl⟩
      unfold serve
      rw [hcall, attempt_ok]
      exact (commitResult_valueError hs _ _ _ _ env).mpr ⟨⟨_, _, _, hadmitted⟩, hrenders⟩
    | envelope hc hadmitted hlong =>
      rw [serve_claim hc]
      exact (claim_valueError hs hp _ _ env).mpr ⟨_, hadmitted, hlong⟩

/-- A call returned, was denied, or met an injected crash. -/
def Outcome.isProper (out : Outcome) : Prop :=
  (∃ v, out = .ok v) ∨ (∃ denial, out = .error (.denied denial)) ∨
    ∃ point, out = .error (.injectedCrash point)

theorem Outcome.isProper_iff {out : Outcome} : out.isProper ↔ out ≠ .error .valueError := by
  unfold isProper
  rcases out with (denial | point | _) | v <;> simp

/-- In every state that requests can reach, a request returns, is denied or meets an injected crash,
if and only if it takes none of the three branches; binding an action never raises otherwise. -/
theorem service_boundary (cfg : Config) (is : List (Request × Env)) :
    let s := run (serve cfg) .empty is
    (∀ i : Request × Env, (serve cfg s i).1.isProper ↔ ¬Escapes cfg s i) ∧
      ∀ mailboxId j artifact dispatchEpoch claimDeadline,
        bindAction cfg mailboxId j artifact dispatchEpoch claimDeadline ≠ .error .valueError := by
  intro s
  have hs : Coherent cfg s := coherent_serve cfg is
  have hp : AllPresentable s := allPresentable_serve cfg is
  constructor
  · intro i
    rw [Outcome.isProper_iff, ← serve_valueError hs hp i]
  · exact proper_bindAction

namespace Sample

/-- The binding of the sample, for a capability that the protocol does not know. -/
def foreignFields : BindingFields := { small.bindingFields with capability := "inspect".toList }

theorem foreignFields_wellFormed : foreignFields.wellFormed = true := by
  have htexts : (isConnectorRelease "demo@1.0.0".toList && isCapabilityText "inspect".toList &&
      isDigest artifactDigest) = true := by decide +kernel
  simp only [Bool.and_eq_true] at htexts
  simp only [BindingFields.wellFormed, foreignFields, bindingFields, isDigest_sha256Text, htexts]
  rfl

def foreign : ActionBinding := ⟨foreignFields, foreignFields_wellFormed⟩

/-- A result for it leaves the empty installation with a `ValueError`. -/
theorem foreign_capability_escapes :
    ¬(serve small.config .empty (.commitResult foreign result.modelDumpJson issuedCredential,
      Sample.env)).1.isProper := by
  have hparse : parseResult small.config result.modelDumpJson = .ok (result, result.modelDumpJson) := by
    unfold parseResult
    rw [ensure_bind ⟨modelDumpJson_ne_nil _, result.length_modelDumpJson_le⟩, validateResult_of_eq rfl]
    rfl
  have hids : result.actionId = foreign.actionId ∧ result.attemptId = foreign.attemptId :=
    ⟨rfl, rfl⟩
  have hcapability : Capability.ofText foreign.capability = none := by decide
  have hc : requireCredentialBytes issuedCredential = .ok () := rfl
  rw [Outcome.isProper_iff, not_not]
  exact (serve_valueError (coherent_empty _) (fun _ _ h => nomatch h) _).mpr
    (.capability hc hparse hids hcapability)

end Sample

end MyCogni.Mailbox
