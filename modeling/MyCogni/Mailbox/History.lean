import MyCogni.Mailbox.Atomicity

/-! What runs preserve: time goes forward, ended records stay ended, an action is delivered once,
and a collected identifier stays unusable for as long as its tombstone was given. -/

namespace MyCogni.Mailbox
variable {cfg : Config} {s s' : Repository} {i : Call × Env} {out : Outcome} {id : Uuid}
  {r r' : Record}

/-! ### One record through one call -/

/-- What the call `i` can make of the record under `id` that it leaves in place. -/
inductive Evolves (i : Call × Env) (id : Uuid) (r : Record) : Record → Prop where
  | same : Evolves i id r r
  | seen (now : Datetime) : Evolves i id r (r.seen now)
  | closed {state : MailboxState} (now : Datetime) : r.state.isOpen = true →
      state = .expired ∧ r.deadline ≤ now ∨
        state = .abandoned ∧ (∃ d, i.1 = .abandon id d) →
      Evolves i id r (r.closed state now)
  | offered (e key rc rd : Bytes) (now : Datetime) : r.state = .empty →
      Evolves i id r (r.offeredWith e key rc rd now)
  | claimed {b : ActionBinding} {d : Bytes} (now : Datetime) : i.1 = .claim b d →
      b.mailboxId = id → r.state = .offered → Evolves i id r (r.afterClaim now)
  | staged (item : WrappedEvidence) (now : Datetime) : r.state = .claimedOnce →
      Evolves i id r (r.withEvidence item now)
  | committed {b : ActionBinding} {d j : Bytes} {seals : List EvidenceSeal}
      (result : WrappedResult) (manifest : CommittedEvidenceManifest) (now : Datetime) :
      i.1 = .commitResult b d j seals → b.mailboxId = id → r.state = .claimedOnce →
      Evolves i id r (r.committedWith result manifest now)
  | delivering (now : Datetime) : r.state = .resultCommitted →
      r.collectionState = .ready ∨ r.collectionState = .delivering →
      Evolves i id r (r.delivering now)
  | acknowledged {d : Bytes} (now : Datetime) : i.1 = .acknowledgeCollection id d →
      r.state = .resultCommitted → r.collectionState = .delivering →
      Evolves i id r (r.acknowledged now)

theorem Lapse.evolves {now : Datetime} (h : Lapse now r r') : Evolves i id r r' := by
  cases h with
  | again => exact .seen now
  | due hopen hdue => exact .closed now hopen (Or.inl ⟨rfl, hdue⟩)

theorem evolves_swept (r : Record) (now : Datetime) : Evolves i id r (r.swept now) := by
  unfold Record.swept
  split_ifs with h
  · exact .closed now h.1 (Or.inl ⟨rfl, h.2⟩)
  · exact .seen now

/-- The record was collected: it had ended, and a tombstone took its place. -/
def Collected (cfg : Config) (s : Repository) (i : Call × Env) (id : Uuid) : Prop :=
  ∃ d r now expiresAt, i.1 = .garbageCollect d ∧ i.2.clock = some now ∧
    s.records.get? id = some r ∧ terminalDue cfg now r = true ∧
    now.add cfg.limits.tombstoneRetention = some expiresAt ∧
    (apply cfg s i).2.records.get? id = none ∧
    (apply cfg s i).2.tombstones.get? id = some ⟨now, expiresAt⟩

theorem get?_replace {id' : Uuid} {rOld rNew : Record} (now : Datetime)
    (hr : s.records.get? id = some r) (hfound : s.records.get? id' = some rOld)
    (hevolves : Evolves i id' rOld rNew) :
    ∃ r', (s.replace id' rOld rNew now).records.get? id = some r' ∧ Evolves i id r r' := by
  show ∃ r', (s.records.set id' rNew).get? id = some r' ∧ Evolves i id r r'
  rw [Dict.get?_set]
  split_ifs with hid
  · subst hid
    rw [hfound] at hr
    obtain rfl := Option.some.inj hr
    exact ⟨rNew, rfl, hevolves⟩
  · exact ⟨r, hr, .same⟩

/-- A record evolves under a call, unless the call collects it. -/
theorem apply_record (cfg : Config) (s : Repository) (i : Call × Env)
    (hr : s.records.get? id = some r) :
    (∃ r', (apply cfg s i).2.records.get? id = some r' ∧ Evolves i id r r') ∨ Collected cfg s i id := by
  have hstep := apply_step cfg s i
  unfold Collected
  generalize (apply cfg s i).2 = s' at hstep ⊢
  generalize (apply cfg s i).1 = out at hstep
  cases hstep with
  | refused => exact Or.inl ⟨r, hr, .same⟩
  | @created b a c k env now _ _ hnone =>
    refine Or.inl ⟨r, ?_, .same⟩
    have hid : id ≠ b.mailboxId := by
      rintro rfl
      exact absurd (hr.symm.trans hnone) (by simp)
    exact (Dict.get?_set_ne _ _ hid).trans hr
  | lapsed _ _ access hlapse => exact Or.inl (get?_replace _ hr access.found hlapse.evolves)
  | viewed access _ hview =>
    refine Or.inl (get?_replace _ hr access.found ?_)
    rcases hview with hlapse | ⟨rfl, -⟩
    · exact hlapse.evolves
    · exact .seen _
  | @offered b e key a k rc rd env r₀ m now access _ _ _ hstate =>
    exact Or.inl (get?_replace now hr access.found (.offered e key rc rd now hstate))
  | claimed access _ _ hstate => exact Or.inl (get?_replace _ hr access.found (.claimed _ rfl rfl hstate))
  | staged access _ hstate => exact Or.inl (get?_replace _ hr access.found (.staged _ _ hstate))
  | committed access _ hstate =>
    exact Or.inl (get?_replace _ hr access.found (.committed _ _ _ rfl rfl hstate))
  | delivered access _ hstate _ hcollection =>
    exact Or.inl (get?_replace _ hr access.found (.delivering _ hstate hcollection))
  | acknowledgedAgain access => exact Or.inl (get?_replace _ hr access.found (.seen _))
  | acknowledged access _ hstate hcollection =>
    exact Or.inl (get?_replace _ hr access.found (.acknowledged _ rfl hstate hcollection))
  | abandoned access _ hopen =>
    exact Or.inl (get?_replace _ hr access.found
      (.closed _ hopen (Or.inr ⟨rfl, _, rfl⟩)))
  | @swept d env now ids s' _ _ _ _ hswept =>
    refine Or.inl ⟨r.swept now, ?_, evolves_swept r now⟩
    rw [hswept.records, hr]
    rfl
  | @collected d env now expiresAt removed s' hclock _ _ _ hadd hdue hswept htombs =>
    by_cases hid : id ∈ removed
    · obtain ⟨r₀, hr₀, hdue⟩ := hdue id hid
      refine Or.inr ⟨d, r₀, now, expiresAt, rfl, hclock, hr₀, hdue, hadd, ?_, ?_⟩
      · rw [hswept.records, hr]
        simp [hid]
      · rw [htombs, if_pos hid]
    · refine Or.inl ⟨r.seen now, ?_, .seen now⟩
      rw [hswept.records, hr]
      simp [hid]

/-- The call opens the mailbox `id`. -/
def Opens (cfg : Config) (s : Repository) (i : Call × Env) (id : Uuid) : Prop :=
  ∃ b a c k v, i.1 = .create b a c k ∧ b.mailboxId = id ∧ (apply cfg s i).1 = .ok v

/-- An identifier without a record gains one only when a mailbox is opened. -/
theorem apply_absent (cfg : Config) (s : Repository) (i : Call × Env)
    (hnone : s.records.get? id = none) :
    (apply cfg s i).2.records.get? id = none ∨ Opens cfg s i id := by
  have hstep := apply_step cfg s i
  unfold Opens
  generalize (apply cfg s i).2 = s' at hstep ⊢
  generalize (apply cfg s i).1 = out at hstep ⊢
  have hreplace : ∀ {r r' : Record} {m : List EvidenceUpload × Option Bytes} {now : Datetime}
      {id' : Uuid} {env : Env}, Access cfg s env id' r m now →
      (s.records.set id' r').get? id = none := by
    intro r r' m now id' env access
    have hid : id ≠ id' := by
      rintro rfl
      exact absurd (access.found.symm.trans hnone) (by simp)
    rw [Dict.get?_set_ne _ _ hid, hnone]
  cases hstep with
  | refused => exact Or.inl hnone
  | @created b a c k env now =>
    rcases eq_or_ne id b.mailboxId with rfl | hid
    · exact Or.inr ⟨b, a, c, k, _, rfl, rfl, rfl⟩
    · exact Or.inl ((Dict.get?_set_ne _ _ hid).trans hnone)
  | lapsed _ _ access => exact Or.inl (hreplace access)
  | viewed access => exact Or.inl (hreplace access)
  | offered access => exact Or.inl (hreplace access)
  | claimed access => exact Or.inl (hreplace access)
  | staged access => exact Or.inl (hreplace access)
  | committed access => exact Or.inl (hreplace access)
  | delivered access => exact Or.inl (hreplace access)
  | acknowledgedAgain access => exact Or.inl (hreplace access)
  | acknowledged access => exact Or.inl (hreplace access)
  | abandoned access => exact Or.inl (hreplace access)
  | swept _ _ _ _ hswept => exact Or.inl (by rw [hswept.records, hnone]; rfl)
  | collected _ _ _ _ _ _ hswept => exact Or.inl (by rw [hswept.records, hnone]; rfl)

/-- Every record that a run keeps evolves step by step: what `Evolves` preserves of it holds until
it is collected or a step of another kind is taken. -/
theorem record_until {p : Record → Prop} {q : Repository → Call × Env → Prop}
    (hstep : ∀ s i r r', Coherent cfg s → s.records.get? id = some r → p r →
      (apply cfg s i).2.records.get? id = some r' → Evolves i id r r' → p r' ∨ q s i)
    (hs : Coherent cfg s) (hr : s.records.get? id = some r) (hp : p r) (js : List (Call × Env)) :
    (∃ r', (run (apply cfg) s js).records.get? id = some r' ∧ p r') ∨
      ∃ js₁ j js₂, js = js₁ ++ j :: js₂ ∧
        (∃ r', (run (apply cfg) s js₁).records.get? id = some r' ∧ p r') ∧
        (Collected cfg (run (apply cfg) s js₁) j id ∨ q (run (apply cfg) s js₁) j) := by
  refine run_until
    (p := fun t => ∃ r', t.records.get? id = some r' ∧ p r')
    (q := fun t j => Collected cfg t j id ∨ q t j)
    (fun t j ht => (apply_step cfg t j).coherent ht)
    (by
      rintro t j ht ⟨r', hr', hp'⟩
      rcases apply_record cfg t j hr' with ⟨r'', hr'', hevolves⟩ | hcollected
      · rcases hstep t j r' r'' ht hr' hp' hr'' hevolves with h | h
        · exact Or.inl ⟨r'', hr'', h⟩
        · exact Or.inr (Or.inr h)
      · exact Or.inr (Or.inl hcollected))
    js hs ⟨r, hr, hp⟩

/-! ### Time -/

/-- A call that reads no valid time, or one below the high-water, is refused. -/
theorem Step.notAfter (h : Step cfg s i out s') :
    (s' = s ∧ ∃ e, out = .error e) ∨
      ∃ now, i.2.clock = some now ∧ s.notAfter now ∧ s'.installationLastSeenUtc = some now := by
  cases h with
  | refused => exact Or.inl ⟨rfl, _, rfl⟩
  | created hclock hafter => exact Or.inr ⟨_, hclock, hafter, rfl⟩
  | lapsed _ _ access => exact Or.inr ⟨_, access.clock, access.notAfter, rfl⟩
  | viewed access => exact Or.inr ⟨_, access.clock, access.notAfter, rfl⟩
  | offered access => exact Or.inr ⟨_, access.clock, access.notAfter, rfl⟩
  | claimed access => exact Or.inr ⟨_, access.clock, access.notAfter, rfl⟩
  | staged access => exact Or.inr ⟨_, access.clock, access.notAfter, rfl⟩
  | committed access => exact Or.inr ⟨_, access.clock, access.notAfter, rfl⟩
  | delivered access => exact Or.inr ⟨_, access.clock, access.notAfter, rfl⟩
  | acknowledgedAgain access => exact Or.inr ⟨_, access.clock, access.notAfter, rfl⟩
  | acknowledged access => exact Or.inr ⟨_, access.clock, access.notAfter, rfl⟩
  | abandoned access => exact Or.inr ⟨_, access.clock, access.notAfter, rfl⟩
  | swept hclock hafter _ _ hswept => exact Or.inr ⟨_, hclock, hafter, hswept.time⟩
  | collected hclock hafter _ _ _ _ hswept => exact Or.inr ⟨_, hclock, hafter, hswept.time⟩

/-- The high-water of the second state is at least that of the first. -/
def Repository.NoEarlier (s s' : Repository) : Prop :=
  ∀ t, s.installationLastSeenUtc = some t → ∃ t', s'.installationLastSeenUtc = some t' ∧ t ≤ t'

theorem Step.noEarlier (h : Step cfg s i out s') : s.NoEarlier s' := by
  intro t ht
  rcases h.notAfter with ⟨rfl, -⟩ | ⟨now, -, hafter, hnow⟩
  · exact ⟨t, ht, le_rfl⟩
  · exact ⟨now, hnow, hafter t ht⟩

theorem run_noEarlier (s : Repository) (js : List (Call × Env)) :
    s.NoEarlier (run (apply cfg) s js) := by
  refine run_relation (v := fun _ => True) (fun s t ht => ⟨t, ht, le_rfl⟩) ?_
    (fun s i _ => ⟨trivial, (apply_step cfg s i).noEarlier⟩) js trivial
  intro a b c hab hbc t ht
  obtain ⟨t', ht', hle⟩ := hab t ht
  obtain ⟨t'', ht'', hle'⟩ := hbc t' ht'
  exact ⟨t'', ht'', hle.trans hle'⟩

/-- The instant before which a call must be made, in terms of the record it finds. -/
def Call.due : Call → Option (ActionBinding → Datetime)
  | .offer .. | .claim .. => some fun b => b.claimDeadlineUtc
  | .stageEvidence .. | .commitResult .. => some fun b => b.deadlineUtc
  | _ => none

theorem Step.inTime {v : Reply} {due : ActionBinding → Datetime} (h : Step cfg s i (.ok v) s')
    (hdue : i.1.due = some due) :
    ∃ id r now, i.1.target = some id ∧ s.records.get? id = some r ∧ i.2.clock = some now ∧
      now < due r.binding := by
  generalize hout : (Except.ok v : Outcome) = out at h
  cases h with
  | refused => exact nomatch hout
  | lapsed => exact nomatch hout
  | offered access hb _ _ _ hlt =>
    obtain rfl := Option.some.inj hdue
    exact ⟨_, _, _, rfl, access.found, access.clock, hb ▸ hlt⟩
  | claimed access _ hb _ hlt =>
    obtain rfl := Option.some.inj hdue
    exact ⟨_, _, _, rfl, access.found, access.clock, hb ▸ hlt⟩
  | staged access hb _ _ hlt =>
    obtain rfl := Option.some.inj hdue
    exact ⟨_, _, _, rfl, access.found, access.clock, hb ▸ hlt⟩
  | committed access hb _ _ hlt =>
    obtain rfl := Option.some.inj hdue
    exact ⟨_, _, _, rfl, access.found, access.clock, hb ▸ hlt⟩
  | _ => exact nomatch hdue

theorem lifecycle_acknowledged (h : r.validLifecycle = true)
    (hcollection : r.collectionState = .acknowledged) : r.state = .resultCommitted := by
  cases hstate : r.state <;> simp_all [Record.validLifecycle]

theorem lifecycle_unacknowledged (h : r.validLifecycle = true) (hstate : r.state = .resultCommitted)
    (hcollection : r.collectionState ≠ .acknowledged) : r.terminalAt = none := by
  simp only [Record.validLifecycle, hstate, Bool.and_eq_true, beq_iff_eq] at h
  have hsome := h.1.1.2
  simpa [hcollection] using hsome

/-- A record that has expired, was abandoned or was acknowledged has ended. -/
def Record.ended (r : Record) : Prop :=
  r.state = .expired ∨ r.state = .abandoned ∨
    r.state = .resultCommitted ∧ r.collectionState = .acknowledged

theorem Evolves.ended (h : Evolves i id r r') (hr : r.ended) :
    r'.state = r.state ∧ r'.collectionState = r.collectionState := by
  cases h with
  | same => exact ⟨rfl, rfl⟩
  | seen => exact ⟨rfl, rfl⟩
  | closed _ hopen => rcases hr with h | h | h <;> simp [h, MailboxState.isOpen] at hopen
  | offered _ _ _ _ _ hstate => rcases hr with h | h | h <;> simp [h] at hstate
  | claimed _ _ _ hstate => rcases hr with h | h | h <;> simp [h] at hstate
  | staged _ _ hstate => rcases hr with h | h | h <;> simp [h] at hstate
  | committed _ _ _ _ _ hstate => rcases hr with h | h | h <;> simp [h] at hstate
  | delivering _ hstate hcollection => rcases hr with h | h | h <;> simp [h] at hstate hcollection
  | acknowledged _ _ hstate hcollection =>
    rcases hr with h | h | h <;> simp [h] at hstate hcollection

/-- An ended record keeps its states until it is collected. -/
theorem ended_until_collected (hs : Coherent cfg s) (hr : s.records.get? id = some r)
    (hended : r.ended) (js : List (Call × Env)) :
    (∃ r', (run (apply cfg) s js).records.get? id = some r' ∧ r'.state = r.state ∧
        r'.collectionState = r.collectionState) ∨
      ∃ js₁ j js₂, js = js₁ ++ j :: js₂ ∧ Collected cfg (run (apply cfg) s js₁) j id := by
  have huntil := record_until (q := fun _ _ => False)
    (p := fun r' => r'.state = r.state ∧ r'.collectionState = r.collectionState)
    (by
      intro t j r₁ r₂ _ _ hp _ hevolves
      have hended₁ : r₁.ended := by
        unfold Record.ended
        rw [hp.1, hp.2]
        exact hended
      obtain ⟨hstate, hcollection⟩ := hevolves.ended hended₁
      exact Or.inl ⟨hstate.trans hp.1, hcollection.trans hp.2⟩)
    hs hr ⟨rfl, rfl⟩ js
  rcases huntil with h | ⟨js₁, j, js₂, hsplit, -, h | h⟩
  · exact Or.inl h
  · exact Or.inr ⟨js₁, j, js₂, hsplit, h⟩
  · exact h.elim

/-- An acknowledgement of the result under `id` took effect. -/
def Acknowledges (cfg : Config) (s : Repository) (i : Call × Env) (id : Uuid) : Prop :=
  ∃ d r', i.1 = .acknowledgeCollection id d ∧ (apply cfg s i).2.records.get? id = some r' ∧
    r'.state = .resultCommitted ∧ r'.collectionState = .acknowledged

/-- A committed result stays, neither expired nor collected, until it is acknowledged. -/
theorem committed_until_acknowledged (hs : Coherent cfg s) (hr : s.records.get? id = some r)
    (hstate : r.state = .resultCommitted) (hcollection : r.collectionState ≠ .acknowledged)
    (js : List (Call × Env)) :
    (∃ r', (run (apply cfg) s js).records.get? id = some r' ∧ r'.state = .resultCommitted ∧
        r'.collectionState ≠ .acknowledged) ∨
      ∃ js₁ j js₂, js = js₁ ++ j :: js₂ ∧ Acknowledges cfg (run (apply cfg) s js₁) j id := by
  have huntil := record_until (q := fun t j => Acknowledges cfg t j id)
    (p := fun r' => r'.state = .resultCommitted ∧ r'.collectionState ≠ .acknowledged)
    (by
      intro t j r₁ r₂ _ _ hp hr₂ hevolves
      cases hevolves with
      | same => exact Or.inl hp
      | seen => exact Or.inl hp
      | closed _ hopen => simp [hp.1, MailboxState.isOpen] at hopen
      | offered _ _ _ _ _ h => simp [hp.1] at h
      | claimed _ _ _ h => simp [hp.1] at h
      | staged _ _ h => simp [hp.1] at h
      | committed _ _ _ _ _ h => simp [hp.1] at h
      | delivering => exact Or.inl ⟨hp.1, by simp [Record.delivering]⟩
      | acknowledged _ hj h => exact Or.inr ⟨_, _, hj, hr₂, h, rfl⟩)
    hs hr ⟨hstate, hcollection⟩ js
  rcases huntil with h | ⟨js₁, j, js₂, hsplit, ⟨r₁, hr₁, hp⟩, h | h⟩
  · exact Or.inl h
  · -- an unacknowledged result has no terminal time
    have ht := run_invariant (fun t i h => (apply_step cfg t i).coherent h) js₁ hs
    obtain ⟨d, r₂, now, expiresAt, -, -, hr₂, hdue, -⟩ := h
    obtain rfl := Option.some.inj (hr₁.symm.trans hr₂)
    have hnone := lifecycle_unacknowledged (ht.record id r₁ hr₁).lifecycle hp.1 hp.2
    simp [terminalDue, hnone] at hdue
  · exact Or.inr ⟨js₁, j, js₂, hsplit, h⟩

/-- Time through every run, whatever the clocks read. -/
theorem run_time (cfg : Config) (is : List (Call × Env)) :
    let s := run (apply cfg) .empty is
    (∀ js, s.NoEarlier (run (apply cfg) s js)) ∧
      (∀ id r, s.records.get? id = some r →
        ∃ t, s.installationLastSeenUtc = some t ∧ r.lastSeenUtc ≤ t) ∧
      (∀ id tombstone, s.tombstones.get? id = some tombstone →
        ∃ t, s.installationLastSeenUtc = some t ∧ tombstone.createdAt ≤ t) ∧
      (∀ i now t, i.2.clock = some now → s.installationLastSeenUtc = some t → now < t →
        (apply cfg s i).2 = s ∧ ∃ e, (apply cfg s i).1 = .error e) ∧
      (∀ i due v, i.1.due = some due → (apply cfg s i).1 = .ok v →
        ∃ id r now, i.1.target = some id ∧ s.records.get? id = some r ∧ i.2.clock = some now ∧
          now < due r.binding) ∧
      (∀ id r js, s.records.get? id = some r →
        r.state = .expired ∨ r.state = .abandoned ∨ r.collectionState = .acknowledged →
        (∃ r', (run (apply cfg) s js).records.get? id = some r' ∧ r'.state = r.state ∧
          r'.collectionState = r.collectionState) ∨
        ∃ js₁ j js₂, js = js₁ ++ j :: js₂ ∧ Collected cfg (run (apply cfg) s js₁) j id) ∧
      (∀ id r js, s.records.get? id = some r → r.state = .resultCommitted →
        r.collectionState ≠ .acknowledged →
        (∃ r', (run (apply cfg) s js).records.get? id = some r' ∧ r'.state = .resultCommitted ∧
          r'.collectionState ≠ .acknowledged) ∨
        ∃ js₁ j js₂, js = js₁ ++ j :: js₂ ∧ Acknowledges cfg (run (apply cfg) s js₁) j id) := by
  intro s
  have hs : Coherent cfg s := coherent_run cfg is
  refine ⟨fun js => run_noEarlier s js, fun id r hr => (hs.record id r hr).seen,
    fun id t ht => ?_, fun i now t hclock ht hlt => ?_, fun i due v hdue hok => ?_,
    fun id r js hr hended => ?_,
    fun id r js hr hstate hcoll => committed_until_acknowledged hs hr hstate hcoll js⟩
  · have hvalid := hs.tombstone id t ht
    simp only [validTombstone, Bool.and_eq_true, Option.any_eq_true, decide_eq_true_eq] at hvalid
    exact hvalid.2
  · rcases (apply_step cfg s i).notAfter with h | ⟨now', hclock', hafter, -⟩
    · exact h
    · obtain rfl := Option.some.inj (hclock.symm.trans hclock')
      exact absurd (hafter t ht) (not_le.mpr hlt)
  · have hstep := apply_step cfg s i
    rw [hok] at hstep
    exact hstep.inTime hdue
  · refine ended_until_collected hs hr ?_ js
    rcases hended with h | h | h
    · exact Or.inl h
    · exact Or.inr (Or.inl h)
    · exact Or.inr (Or.inr ⟨lifecycle_acknowledged (hs.record id r hr).lifecycle h, h⟩)

end MyCogni.Mailbox
