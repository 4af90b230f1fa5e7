import MyCogni.Auth.OneUse
import MyCogni.Ceremonies.AuthSpike
import MyCogni.Terminal.Disclosure

/-! What the ceremonies do to the authority that is in the store. The operator is asked, and shown
codes, without touching it; a code that was not handed out is burned. -/

namespace MyCogni.Ceremonies

open Command Terminal Auth

/-! ### The terminal alone -/

/-- The ceremony leaves the store as it is, however it ends. -/
abbrev Aloof {α : Type} (c : Ceremony α) : Prop := Respects (fun p p' => p'.2 = p.2) c

section Aloof
variable {α β : Type} {name : String}

theorem aloof_pure (a : α) : Aloof (pure a : Ceremony α) := fun _ => rfl

theorem aloof_stop (e : Raised) : Aloof (stop e : Ceremony α) := fun _ => rfl

theorem Aloof.bind {c : Ceremony β} {f : β → Ceremony α} (hc : Aloof c) (hf : ∀ b, Aloof (f b)) :
    Aloof (c >>= f) :=
  Respects.bind (fun _ _ _ h h' => h'.trans h) hc hf

theorem Aloof.handle {c : Ceremony α} {handler : Raised → Ceremony α} (hc : Aloof c)
    (hhandler : ∀ e, Aloof (handler e)) : Aloof (handle c handler) :=
  Respects.handle (fun _ _ _ h h' => h'.trans h) hc hhandler

theorem aloof_onTerminal (m : Method α) : Aloof (onTerminal m) := respects_onFirst m

theorem aloof_comes (typed : Bytes) : Aloof (comes typed) := fun _ => rfl

theorem Aloof.suppress {c : Ceremony Unit} (hc : Aloof c) : Aloof (suppress c) := by
  refine hc.handle fun e => ?_
  cases e with
  | service r => exact aloof_stop _
  | terminal e =>
    cases e with
    | operator x => exact aloof_pure ()
    | osError k => exact aloof_pure ()
    | _ => exact aloof_stop _

theorem aloof_secretDelivery (fields : List SecretField) : Aloof (secretDelivery fields) := by
  have hshown : Aloof (onTerminal (disclose fields) >>= fun _ => pure SecretDeliveryState.complete) :=
    (aloof_onTerminal _).bind fun _ => aloof_pure _
  refine hshown.handle fun e => ?_
  cases e with
  | service r => exact aloof_stop _
  | terminal e =>
    cases e with
    | operator x => exact aloof_pure _
    | osError k => exact aloof_pure _
    | _ => exact aloof_stop _

theorem aloof_safeDeny (denial : AuthDenial) (guidance : Option String) :
    Aloof (safeDeny name denial guidance) :=
  Aloof.suppress (aloof_onTerminal _)

theorem aloof_denyTerminalInput (e : OperatorTerminalError) : Aloof (denyTerminalInput name e) :=
  (Aloof.suppress (aloof_onTerminal _)).bind fun _ => aloof_pure _

theorem aloof_terminalDenial (e : Raised) :
    Aloof (terminalDenial name e : Ceremony (AuthOutcome α)) := by
  cases e with
  | service r => exact aloof_stop _
  | terminal e =>
    cases e with
    | operator x => exact (aloof_denyTerminalInput x).bind fun _ => aloof_pure _
    | osError k => exact (aloof_denyTerminalInput _).bind fun _ => aloof_pure _
    | _ => exact aloof_stop _

theorem aloof_writeWarnings (warnings : List Text) : Aloof (writeWarnings warnings) := by
  induction warnings with
  | nil => exact aloof_pure ()
  | cons warning warnings ih => exact (aloof_onTerminal _).bind fun _ => ih

theorem aloof_askOperator (warnings : List Text) (confirmation : Text) (typed : Bytes) :
    Aloof (askOperator warnings confirmation typed) := by
  refine (aloof_onTerminal _).bind fun _ => (aloof_writeWarnings warnings).bind fun _ => ?_
  exact (aloof_comes typed).bind fun _ => (aloof_onTerminal _).bind fun _ => aloof_pure _

theorem aloof_prepareOperatorTerminal (warnings : List Text) (confirmation : Text) (typed : Bytes) :
    Aloof (prepareOperatorTerminal name warnings confirmation typed) := by
  refine (Aloof.handle (aloof_askOperator _ _ _) aloof_terminalDenial).bind fun answer => ?_
  cases answer with
  | error denial => exact aloof_pure _
  | ok confirmed =>
    cases confirmed with
    | true => exact aloof_pure _
    | false => exact (aloof_safeDeny _ _).bind fun _ => aloof_pure _

theorem aloof_readCredential (prompt : Text) (typed : Bytes) :
    Aloof (readCredential name prompt typed) := by
  have hread : Aloof (do
      comes typed
      let raw ← onTerminal (readSecret prompt SECRET_BYTES)
      pure (.ok raw) : Ceremony (AuthOutcome Text)) :=
    (aloof_comes typed).bind fun _ => (aloof_onTerminal _).bind fun _ => aloof_pure _
  refine (hread.handle aloof_terminalDenial).bind fun outcome => ?_
  cases outcome with
  | error denial => exact aloof_pure _
  | ok raw =>
    dsimp only
    cases parseOperatorCode raw with
    | none => exact (aloof_safeDeny _ _).bind fun _ => aloof_pure _
    | some credential => exact aloof_pure _

theorem aloof_writePublicAfterComplete (value : Text) : Aloof (writePublicAfterComplete value) :=
  Aloof.suppress (aloof_onTerminal _)

theorem aloof_handOff (fields : List SecretField) (succeeded : String) :
    Aloof (handOff fields succeeded) := by
  refine (aloof_secretDelivery fields).bind fun delivery => ?_
  split_ifs
  · exact (Aloof.suppress (aloof_onTerminal _)).bind fun _ => aloof_pure _
  · exact (aloof_writePublicAfterComplete _).bind fun _ => aloof_pure _

theorem aloof_burnt (h : Handout) : Aloof (burnt h) :=
  Aloof.suppress ((aloof_onTerminal _).bind fun _ => aloof_onTerminal _)

end Aloof

/-! ### Another display -/

section Redisplays
variable {redisplay : OperatorResult → Bytes → Ceremony OperatorResult}
  (hstep : ∀ r confirmation p, wp (redisplay r confirmation)
    (fun r' p' => r'.exchange = r.exchange ∧ p'.2 = p.2 ∧ (r.delivery = .complete → r' = r ∧ p' = p))
    (fun _ p' => p'.2 = p.2) p)
include hstep

end Redisplays

section Service
variable {α β : Type} {post : AuthOutcome α → Tty × Store → Prop} {halt : Raised → Tty × Store → Prop}
  {p : Tty × Store}

/-- A call of the store that the service makes, with what the call ends with. -/
theorem wp_consult {c : Decision α} {f : α → Value} (op : Auth.Op) (hop : op.decide = do return f (← c))
    (s : Store) :
    wp (consult c) (fun _ s' => s' = (apply s op).2)
      (fun e s' => s' = (apply s op).2 ∧ ∃ h, e = .store h ∧ (apply s op).1 = .error h) s := by
  rw [apply, hop]
  unfold wp consult consultAs
  simp only [Bind.bind]
  rcases c s with ⟨e | a, s'⟩
  · exact ⟨rfl, e, rfl, rfl⟩
  · rfl

theorem wp_onService {c : ServiceCall α} {known : α → Store → Prop} {stopped : Refusal → Store → Prop}
    (hc : wp c known stopped p.2) (hpost : ∀ a s', known a s' → post (.ok a) (p.1, s'))
    (hdenied : ∀ d s', stopped (.store (.denied d)) s' → post (.error d) (p.1, s'))
    (hhalt : ∀ e s', stopped e s' → halt (.service e) (p.1, s')) : wp (onService c) post halt p := by
  have hcall : wp (onSecond Raised.service c >>= fun a => pure (.ok a)) post
      (fun e p' => ∃ r s', e = .service r ∧ p' = (p.1, s') ∧ stopped r s') p := by
    rw [wp_bind]
    refine wp_onSecond.mpr (wp_mono hc hpost fun r s' h => ?_)
    exact ⟨r, s', rfl, rfl, h⟩
  refine wp_try hcall (fun _ _ h => h) ?_
  rintro e p' ⟨r, s', rfl, rfl, h⟩
  have hstop : wp (stop (.service r) : Ceremony (AuthOutcome α)) post halt (p.1, s') := hhalt r s' h
  cases r with
  | store h' =>
    cases h' with
    | denied d => exact hdenied d s' h
    | _ => exact hstop
  | _ => exact hstop

theorem wp_andThen {c : Ceremony (AuthOutcome β)} {f : β → Ceremony (AuthOutcome α)}
    {known : AuthOutcome β → Tty × Store → Prop} {stopped : Raised → Tty × Store → Prop}
    (hc : wp c known stopped p) (hdenied : ∀ d p', known (.error d) p' → post (.error d) p')
    (hgo : ∀ b p', known (.ok b) p' → wp (f b) post halt p')
    (hhalt : ∀ e p', stopped e p' → halt e p') : wp (andThen c f) post halt p := by
  refine wp_seq hc (fun outcome p' h => ?_) hhalt
  cases outcome with
  | error d => exact hdenied d p' h
  | ok b => exact hgo b p' h

/-- What the operator learns of a denial changes nothing in the store. -/
theorem wp_consultOrDeny {name : String} {guidance : AuthDenial → Option String}
    {c : Ceremony (AuthOutcome α)} {known : AuthOutcome α → Store → Prop}
    {stopped : Raised → Tty × Store → Prop} (hc : wp c (fun outcome p' => known outcome p'.2) stopped p)
    (hpost : ∀ outcome p', known outcome p'.2 → post outcome p')
    (hhalt : ∀ e p', stopped e p' → halt e p')
    (hdeny : ∀ e d p', known (.error d) p'.2 → halt e p') :
    wp (consultOrDeny name guidance c) post halt p := by
  refine wp_seq hc (fun outcome p₁ h₁ => ?_) hhalt
  cases outcome with
  | ok a => exact hpost _ p₁ h₁
  | error d =>
    refine wp_seq ((aloof_safeDeny d (guidance d)).wp p₁) (fun _ p₂ h₂ => ?_) fun e p₂ h₂ => ?_
    · exact hpost _ p₂ (h₂ ▸ h₁)
    · exact hdeny e d p₂ (h₂ ▸ h₁)

end Service

/-! ### Bootstraps that were begun -/

section Begun
variable {s : Store} {k : OpaqueId} {p : Tty × Store} {sv : AuthService}

/-- Nothing is issued by a call that is denied. -/
theorem dead_of_denied {op : Auth.Op} {d : AuthDenial} (h : Dead s (.bootstrap k))
    (hdenied : (apply s op).1 = .error (.denied d)) : Dead (apply s op).2 (.bootstrap k) := by
  intro b' hb'
  have hnone : ∀ {b : BootstrapRecord}, ¬Issues s op (.bootstrap b) := by
    rintro b ⟨-, ⟨v, hv⟩ | ⟨hv, -⟩⟩
    · cases hdenied.symm.trans hv
    · cases hdenied.symm.trans hv
  obtain ⟨b, hb, u, hu, rfl⟩ := (apply_descent s op).bootstraps.kept (fun _ hr _ => hnone hr) hb'
  exact hu.spent (h b hb)

/-- No later call exchanges the bootstrap, as long as nothing new is issued under its handle. -/
def NeverExchanged (s : Store) (k : OpaqueId) : Prop :=
  ∀ (ops : List Auth.Op) (op : Auth.Op), k ∉ ops.flatMap Auth.Op.issues →
    ¬Consumed (run apply s ops) op (.bootstrap k)

theorem never_exchanged (h : Dead s (.bootstrap k)) : NeverExchanged s k := by
  intro ops op hfresh hconsumed
  exact hconsumed.live.2 (h.run hfresh)

/-- The call issues a bootstrap, as it was drawn, and no other. -/
def IssuesDrawn (drawn : Drawn) (c : ServiceCall OpaqueCredential) : Prop :=
  ∀ s, wp c
    (fun credential s' => credential = drawn.credential ∧
      ∃ op : Auth.Op, op.issues = [drawn.handle] ∧ s' = (apply s op).2)
    (fun e s' => s' = s ∨ ∃ op : Auth.Op, op.issues = [drawn.handle] ∧ s' = (apply s op).2 ∧
      ∃ h, e = .store h ∧ (apply s op).1 = .error h) s

theorem issuesDrawn_beginBootstrap (root : RootCapability) (now : Datetime) (drawn : Drawn) :
    IssuesDrawn drawn (sv.beginBootstrap root now drawn) := by
  intro s
  refine wp_seq ((still_require _ _).wp s) (fun _ s₁ h₁ => ?_) fun _ _ => Or.inl
  refine wp_seq ((still_window sv _ _).wp s₁) (fun times s₂ h₂ => ?_) fun _ _ h => Or.inl (h.trans h₁)
  refine wp_seq ((still_require _ _).wp s₂) (fun _ s₃ h₃ => ?_)
    fun _ _ h => Or.inl (h.trans (h₂.trans h₁))
  obtain rfl : s₃ = s := h₃.trans (h₂.trans h₁)
  refine wp_seq (wp_consult (.createRootBootstrap _ _ _ _) rfl s₃) (fun _ s₄ h₄ => ?_) ?_
  · exact ⟨rfl, _, rfl, h₄⟩
  · rintro e s' ⟨h, hstop⟩
    exact Or.inr ⟨_, rfl, h, hstop⟩

theorem issuesDrawn_beginReprovision (reprovision : OpaqueCredential) (now : Datetime) (drawn : Drawn) :
    IssuesDrawn drawn (sv.beginReprovision reprovision now drawn) := by
  intro s
  refine wp_seq ((still_require _ _).wp s) (fun _ s₁ h₁ => ?_) fun _ _ => Or.inl
  refine wp_seq ((still_window sv _ _).wp s₁) (fun times s₂ h₂ => ?_) fun _ _ h => Or.inl (h.trans h₁)
  refine wp_seq ((still_require _ _).wp s₂) (fun _ s₃ h₃ => ?_)
    fun _ _ h => Or.inl (h.trans (h₂.trans h₁))
  obtain rfl : s₃ = s := h₃.trans (h₂.trans h₁)
  refine wp_seq (wp_consult (.createReprovisionBootstrap _ _ _ _) rfl s₃) (fun _ s₄ h₄ => ?_) ?_
  · exact ⟨rfl, _, rfl, h₄⟩
  · rintro e s' ⟨h, hstop⟩
    exact Or.inr ⟨_, rfl, h, hstop⟩

/-- A cancelled bootstrap is spent. -/
theorem cancelled_dead (now : Datetime) : Dead (s.spendBootstraps (fun b => b.handle = k) now)
    (.bootstrap k) := by
  intro b' hb'
  have hkey : b'.handle = k := Table.key_of_get? hb'
  rw [Store.spendBootstraps_bootstraps, Table.get?_map, Option.map_eq_some_iff] at hb'
  obtain ⟨b, -, rfl⟩ := hb'
  rw [BootstrapRecord.handle_sweep] at hkey
  unfold BootstrapRecord.sweep
  split_ifs with hswept
  · rfl
  · have hlive : ¬b.consumed = false := fun h => hswept ⟨decide_eq_true hkey, h⟩
    exact eq_true_of_ne_false hlive

/-- The cancellation always returns; it leaves what is dead, and what it cancels is dead. -/
theorem wp_cancelBootstrap {handle : OpaqueId} (now : Datetime)
    (hdead : k ≠ handle → Dead p.2 (.bootstrap k)) :
    wp (onSecond Raised.service (AuthService.cancelBootstrap handle now))
      (fun _ p' => Dead p'.2 (.bootstrap k)) (fun _ _ => False) p := by
  refine wp_onSecond.mpr ?_
  have hspent : Dead (p.2.spendBootstraps (fun b => b.handle = handle) now) (.bootstrap k) := by
    by_cases hk : k = handle
    · subst hk
      exact cancelled_dead now
    · have hnone : k ∉ (Auth.Op.cancelBootstrap handle now).issues := List.not_mem_nil
      exact (hdead hk).apply hnone
  exact hspent

theorem wp_handOut (h : Handout) (credential : OpaqueCredential) (now : Datetime)
    (hdead : k ≠ credential.handle → Dead p.2 (.bootstrap k)) :
    wp (handOut h credential now)
      (fun outcome p' => (∃ d, outcome = .error d) → Dead p'.2 (.bootstrap k))
      (fun _ p' => k ≠ credential.handle → Dead p'.2 (.bootstrap k)) p := by
  refine wp_seq ((aloof_secretDelivery _).wp p) (fun delivery p₁ h₁ => ?_)
    fun _ p₁ (h₁ : p₁.2 = p.2) => h₁ ▸ hdead
  have hdead₁ : k ≠ credential.handle → Dead p₁.2 (.bootstrap k) := h₁ ▸ hdead
  split_ifs
  · refine wp_seq (wp_cancelBootstrap now hdead₁) (fun _ p₂ h₂ => ?_) fun _ _ => False.elim
    refine wp_seq ((aloof_burnt h).wp p₂) (fun _ p₃ h₃ => ?_) fun _ p₃ h₃ _ => ?_
    · exact fun _ => h₃ ▸ h₂
    · exact h₃ ▸ h₂
  · refine wp_seq ((aloof_writePublicAfterComplete _).wp p₁) (fun _ p₂ h₂ => ?_) fun _ p₂ h₂ => ?_
    · rintro ⟨d, hd⟩
      cases hd
    · have hsame : p₂.2 = p₁.2 := h₂
      exact hsame ▸ hdead₁

/-- After the call that issues a bootstrap: one that is denied has issued none. -/
def Answered (k : OpaqueId) (drawn : Drawn) : AuthOutcome OpaqueCredential → Store → Prop
  | .error _, s => Dead s (.bootstrap k)
  | .ok credential, s => credential = drawn.credential ∧ (k ≠ drawn.handle → Dead s (.bootstrap k))

theorem wp_issuing {drawn : Drawn} {c : ServiceCall OpaqueCredential} (hc : IssuesDrawn drawn c)
    (hdead : Dead p.2 (.bootstrap k)) :
    wp (onService c) (fun outcome p' => Answered k drawn outcome p'.2)
      (fun _ p' => k ≠ drawn.handle → Dead p'.2 (.bootstrap k)) p := by
  have hissued : ∀ {op : Auth.Op}, op.issues = [drawn.handle] → k ≠ drawn.handle →
      Dead (apply p.2 op).2 (.bootstrap k) := by
    intro op hop hk
    have hfresh : k ∉ op.issues := by
      rw [hop]
      exact fun hmem => hk (List.mem_singleton.mp hmem)
    exact hdead.apply hfresh
  refine wp_onService (hc p.2) ?_ ?_ ?_
  · rintro a s' ⟨rfl, op, hop, rfl⟩
    exact ⟨rfl, hissued hop⟩
  · rintro d s' (rfl | ⟨op, hop, rfl, h', hh, hdenied⟩)
    · exact hdead
    · cases hh
      exact dead_of_denied hdead hdenied
  · rintro e s' (rfl | ⟨op, hop, rfl, -⟩)
    · exact fun _ => hdead
    · exact hissued hop

/-- From the call to the disclosure. -/
theorem wp_begun {name : String} {guidance : AuthDenial → Option String} {drawn : Drawn}
    {c : ServiceCall OpaqueCredential} (hc : IssuesDrawn drawn c) (h : Handout) (now : Datetime)
    (hdead : Dead p.2 (.bootstrap k)) :
    wp (andThen (consultOrDeny name guidance (onService c)) fun credential => handOut h credential now)
      (fun outcome p' => (∃ d, outcome = .error d) → Dead p'.2 (.bootstrap k))
      (fun _ p' => k ≠ drawn.handle → Dead p'.2 (.bootstrap k)) p := by
  have hcall : wp (consultOrDeny name guidance (onService c))
      (fun outcome p' => Answered k drawn outcome p'.2)
      (fun _ p' => k ≠ drawn.handle → Dead p'.2 (.bootstrap k)) p :=
    wp_consultOrDeny (wp_issuing hc hdead) (fun _ _ h => h) (fun _ _ h => h)
      fun _ _ _ hanswered _ => hanswered
  refine wp_andThen hcall (fun _ _ hanswered _ => hanswered) ?_ fun _ _ h => h
  rintro a p' ⟨rfl, hdead'⟩
  exact wp_handOut h drawn.credential now hdead'

end Begun

/-! ### The ceremonies that begin -/

section Ceremonies
variable {sv : AuthService} {k : OpaqueId} {p : Tty × Store}

theorem wp_beginBootstrapOnTty (root : RootCapability) (x : Beginning)
    (hdead : Dead p.2 (.bootstrap k)) :
    wp (beginBootstrapOnTty sv root x)
      (fun outcome p' => (∃ d, outcome = .error d) → Dead p'.2 (.bootstrap k))
      (fun _ p' => k ≠ x.drawn.handle → Dead p'.2 (.bootstrap k)) p := by
  unfold beginBootstrapOnTty
  split_ifs
  · refine wp_seq ((aloof_safeDeny _ _).wp p) (fun _ p₁ h₁ _ => ?_) fun _ p₁ h₁ _ => ?_
    · exact h₁ ▸ hdead
    · exact h₁ ▸ hdead
  · refine wp_andThen ((aloof_prepareOperatorTerminal _ _ _).wp p) ?_ ?_ ?_
    · exact fun d p₁ h₁ _ => h₁ ▸ hdead
    · exact fun u p₁ h₁ => wp_begun (issuesDrawn_beginBootstrap root x.now x.drawn) _ _ (h₁ ▸ hdead)
    · exact fun e p₁ h₁ _ => h₁ ▸ hdead

theorem wp_beginReprovisionOnTty (typed : Bytes) (x : Beginning) (hdead : Dead p.2 (.bootstrap k)) :
    wp (beginReprovisionOnTty sv typed x)
      (fun outcome p' => (∃ d, outcome = .error d) → Dead p'.2 (.bootstrap k))
      (fun _ p' => k ≠ x.drawn.handle → Dead p'.2 (.bootstrap k)) p := by
  refine wp_andThen ((aloof_prepareOperatorTerminal _ _ _).wp p) ?_ ?_ ?_
  · exact fun d p₁ h₁ _ => h₁ ▸ hdead
  · intro u p₁ h₁
    have hdead₁ : Dead p₁.2 (.bootstrap k) := h₁ ▸ hdead
    refine wp_andThen ((aloof_readCredential _ _).wp p₁) ?_ ?_ ?_
    · exact fun d p₂ h₂ _ => h₂ ▸ hdead₁
    · intro credential p₂ h₂
      exact wp_begun (issuesDrawn_beginReprovision credential x.now x.drawn) _ _ (h₂ ▸ hdead₁)
    · exact fun e p₂ h₂ _ => h₂ ▸ hdead₁
  · exact fun e p₁ h₁ _ => h₁ ▸ hdead

/-- A ceremony that ends with a denial leaves no bootstrap that a later call exchanges and that was not
there before; one that raises leaves at most the one that it drew. -/
theorem denied_and_burned (root : RootCapability) (typed : Bytes) (x : Beginning) :
    wp (beginBootstrapOnTty sv root x)
      (fun outcome p' => ∀ k, Dead p.2 (.bootstrap k) →
        (∃ d, outcome = .error d) → NeverExchanged p'.2 k)
      (fun _ p' => ∀ k, Dead p.2 (.bootstrap k) → k ≠ x.drawn.handle → NeverExchanged p'.2 k) p ∧
    wp (beginReprovisionOnTty sv typed x)
      (fun outcome p' => ∀ k, Dead p.2 (.bootstrap k) →
        (∃ d, outcome = .error d) → NeverExchanged p'.2 k)
      (fun _ p' => ∀ k, Dead p.2 (.bootstrap k) → k ≠ x.drawn.handle → NeverExchanged p'.2 k) p := by
  refine ⟨wp_forall fun k hdead => ?_, wp_forall fun k hdead => ?_⟩
  · exact wp_mono (wp_beginBootstrapOnTty root x hdead) (fun _ _ h hd => never_exchanged (h hd))
      fun _ _ h hk => never_exchanged (h hk)
  · exact wp_mono (wp_beginReprovisionOnTty typed x hdead) (fun _ _ h hd => never_exchanged (h hd))
      fun _ _ h hk => never_exchanged (h hk)

end Ceremonies

/-! ### Labels that are not shown

The terminal shows a field only if its label has no blank, and the label of a bootstrap code has some. -/

section Labels
variable {w : Tty} {p : Tty × Store}

/-- The error says that nothing was tried. -/
def Untried (e : Exn) : Prop := ∀ x, e = .operator x → x.delivery = .notStarted

theorem untried_refused {e : Exn} {w' : Tty} (h : Refused w e w') : Untried e := by
  obtain ⟨y, rfl, hy, -⟩ := h
  intro x hx
  cases hx
  exact hy

theorem untried_escaped (e : Exn) (w' : Tty) (h : Escaped e w') : Untried e :=
  fun x hx => absurd hx (h.1 x)

/-- Fields that cannot be shown are refused before anything is tried. -/
theorem wp_disclose_refused {fields : List SecretField} (h : payload fields = none) :
    wp (disclose fields) (fun _ _ => False) (fun e _ => Untried e) w := by
  have hraised : Untried (.operator { failure := .ioFailed }) := by
    intro x hx
    cases hx
    rfl
  have hstopped : ∀ e w', Refused w e w' ∨ Escaped e w' → Untried e := by
    rintro e w' (hrefused | hescaped)
    · exact untried_refused hrefused
    · exact untried_escaped e w' hescaped
  unfold disclose discloseUnlocked
  rw [h]
  refine wp_seq (tame_checkedFd.orderly w w (Kept.refl w)) (fun _ w₁ _ => wp_reading ?_) hstopped
  have hthread : ¬(false = true ∧ w₁.mainThread = false) := fun h => by cases h.1
  rw [if_neg hthread]
  split_ifs
  · intro x hx
    cases hx
    rfl
  · refine wp_writing (wp_seq (wp_tick_unguarded (Kept.refl _) untried_escaped) (fun _ w₂ _ => ?_)
      fun _ _ h => h)
    rw [wp_lastly]
    refine wp_seq (wp_tick_unguarded (Kept.refl w₂) untried_escaped) (fun _ w₃ _ => ?_) fun _ _ h => h
    exact hraised

/-- No field with this label is shown. -/
def Unshown (label : String) : Prop := ∀ value, payload [⟨label.toList, value⟩] = none

theorem unshown_of_blank {label : String}
    (h : label.toList.any (fun c => c.toNat < 0x21 || c.toNat > 0x7E || c == ':') = true) :
    Unshown label := by
  intro value
  unfold payload
  refine if_neg fun hvalid => ?_
  have hfield : (SecretField.mk label.toList value).Valid := hvalid.2.1 _ List.mem_cons_self
  cases h.symm.trans hfield.2.1

theorem wp_handOut_unshown {h : Handout} (hlabel : Unshown h.label) (credential : OpaqueCredential)
    (now : Datetime) :
    wp (handOut h credential now) (fun outcome _ => ∃ d, outcome = .error d) (fun _ _ => True) p := by
  have hdelivery : wp (secretDelivery [⟨h.label.toList, credential.operatorCode⟩])
      (fun delivery _ => delivery = .notStarted ∨ delivery = .mayHaveDisclosed) (fun _ _ => True) p := by
    have hrefused : wp (onTerminal (disclose [⟨h.label.toList, credential.operatorCode⟩]))
        (fun _ _ => False) (fun e _ => ∃ e', e = .terminal e' ∧ Untried e') p := by
      refine wp_onFirst.mpr (wp_mono (wp_disclose_refused (hlabel _)) (fun _ _ => id) fun e w' h => ?_)
      exact ⟨e, rfl, h⟩
    refine wp_try (wp_seq hrefused (fun _ _ => False.elim) fun _ _ h => h) (fun _ _ h => h) ?_
    rintro e p' ⟨e', rfl, huntried⟩
    cases e' with
    | operator x => exact Or.inl (huntried x rfl)
    | osError k => exact Or.inr rfl
    | _ => exact True.intro
  refine wp_seq hdelivery (fun delivery p₁ h₁ => ?_) fun _ _ h => h
  have hnot : delivery ≠ .complete := by
    rcases h₁ with rfl | rfl
    · decide
    · decide
  rw [if_pos hnot]
  refine wp_seq (wp_true _) (fun _ p₂ _ => ?_) fun _ _ h => h
  refine wp_seq (wp_true _) (fun _ p₃ _ => ?_) fun _ _ h => h
  exact ⟨_, rfl⟩

theorem wp_begun_unshown {name : String} {guidance : AuthDenial → Option String}
    {c : ServiceCall OpaqueCredential} {h : Handout} (hlabel : Unshown h.label) (now : Datetime) :
    wp (andThen (consultOrDeny name guidance (onService c)) fun credential => handOut h credential now)
      (fun outcome _ => ∃ d, outcome = .error d) (fun _ _ => True) p := by
  refine wp_andThen (wp_true _) (fun d _ _ => ⟨d, rfl⟩) (fun credential p₁ _ => ?_) fun _ _ h => h
  exact wp_handOut_unshown hlabel credential now

/-- Neither ceremony hands out a bootstrap over this terminal: whatever the root, the input and the
fates of the calls are, one that returns returns a denial. -/
theorem never_handed_out (sv : AuthService) (root : RootCapability) (typed : Bytes) (x : Beginning)
    (p : Tty × Store) :
    wp (beginBootstrapOnTty sv root x) (fun outcome _ => ∃ d, outcome = .error d) (fun _ _ => True) p ∧
    wp (beginReprovisionOnTty sv typed x) (fun outcome _ => ∃ d, outcome = .error d)
      (fun _ _ => True) p := by
  have hbootstrap : Unshown "bootstrap-code (one-use, short-lived)" := unshown_of_blank (by decide)
  have hreprovision : Unshown "reprovision-bootstrap-code (one-use, short-lived)" :=
    unshown_of_blank (by decide)
  constructor
  · unfold beginBootstrapOnTty
    split_ifs
    · exact wp_seq (wp_true _) (fun _ _ _ => ⟨_, rfl⟩) fun _ _ h => h
    · refine wp_andThen (wp_true _) (fun d _ _ => ⟨d, rfl⟩) (fun _ p₁ _ => ?_) fun _ _ h => h
      exact wp_begun_unshown (h := bootstrapHandout sv) hbootstrap x.cancelledAt
  · refine wp_andThen (wp_true _) (fun d _ _ => ⟨d, rfl⟩) (fun _ p₁ _ => ?_) fun _ _ h => h
    refine wp_andThen (wp_true _) (fun d _ _ => ⟨d, rfl⟩) (fun credential p₂ _ => ?_) fun _ _ h => h
    exact wp_begun_unshown (h := reprovisionHandout sv) hreprovision x.cancelledAt

end Labels

/-! ### Before the confirmation -/

end MyCogni.Ceremonies
