import MyCogni.Ceremonies.Outcomes
import MyCogni.Terminal.Operations

/-! What leaves the ceremonies, and how they leave the terminal: where no call fails with `termios.error`
and no signal is handled where nothing catches it, only an exception of the service leaves them, and the
terminal is as it was before or its session is latched. -/

namespace MyCogni.Ceremonies

open Command Terminal Auth

/-! ### The judgement -/

/-- The attributes, the handlers and the mask are as they were, or the session is latched. -/
structure Restored (w w' : Tty) : Prop where
  still : Still w w'
  back : Back w.attributes w.handlers w.mask w'

theorem Restored.refl (w : Tty) : Restored w w := ⟨Still.refl w, back_refl w⟩

theorem Restored.trans {a b c : Tty} (h : Restored a b) (h' : Restored b c) : Restored a c := by
  refine ⟨h.still.trans h'.still, ?_⟩
  rcases h'.back with ⟨ha, hh, hm⟩ | hlatched
  · rcases h.back with ⟨ha', hh', hm'⟩ | hlatched
    · exact Or.inl ⟨ha.trans ha', hh.trans hh', hm.trans hm'⟩
    · exact Or.inr (h'.still.latched hlatched)
  · exact Or.inr hlatched

/-- If all events are contained, the ceremony leaves the terminal restored and raises nothing else. -/
def Leaves {α : Type} (raises : Raised → Prop) (c : Ceremony α) : Prop :=
  ∀ p : Tty × Store, wp c
    (fun _ p' => Contained p'.1.history → Contained p.1.history ∧ Restored p.1 p'.1)
    (fun e p' => Contained p'.1.history → Contained p.1.history ∧ Restored p.1 p'.1 ∧ raises e) p

def IsOperator (e : Raised) : Prop := ∃ x, e = .terminal (.operator x)

def IsService (e : Raised) : Prop := ∃ r, e = .service r

section Rules
variable {α β : Type} {raises raised : Raised → Prop}

theorem leaves_pure (a : α) : Leaves raises (pure a : Ceremony α) := fun p hc => ⟨hc, Restored.refl p.1⟩

theorem leaves_stop {e : Raised} (h : raises e) : Leaves raises (stop e : Ceremony α) :=
  fun p hc => ⟨hc, Restored.refl p.1, h⟩

theorem Leaves.bind {c : Ceremony β} {f : β → Ceremony α} (hc : Leaves raises c)
    (hf : ∀ b, Leaves raises (f b)) : Leaves raises (c >>= f) := by
  intro p
  refine wp_seq (hc p) (fun b p₁ h₁ => ?_) fun _ _ h => h
  refine wp_mono (hf b p₁) (fun a p₂ h₂ hlast => ?_) fun e p₂ h₂ hlast => ?_
  · obtain ⟨hmid, hrest⟩ := h₂ hlast
    obtain ⟨hfirst, hthen⟩ := h₁ hmid
    exact ⟨hfirst, hthen.trans hrest⟩
  · obtain ⟨hmid, hrest, he⟩ := h₂ hlast
    obtain ⟨hfirst, hthen⟩ := h₁ hmid
    exact ⟨hfirst, hthen.trans hrest, he⟩

/-- A clause may use what is known of the exceptions that reach it. -/
theorem Leaves.handle {c : Ceremony α} {handler : Raised → Ceremony α} (hc : Leaves raised c)
    (hhandler : ∀ e, Leaves (fun e' => raised e → raises e') (handler e)) :
    Leaves raises (handle c handler) := by
  intro p
  refine wp_try (hc p) (fun _ _ h => h) fun e p₁ h₁ => ?_
  refine wp_mono (hhandler e p₁) (fun a p₂ h₂ hlast => ?_) fun e' p₂ h₂ hlast => ?_
  · obtain ⟨hmid, hrest⟩ := h₂ hlast
    obtain ⟨hfirst, hthen, -⟩ := h₁ hmid
    exact ⟨hfirst, hthen.trans hrest⟩
  · obtain ⟨hmid, hrest, he⟩ := h₂ hlast
    obtain ⟨hfirst, hthen, hraised⟩ := h₁ hmid
    exact ⟨hfirst, hthen.trans hrest, he hraised⟩

theorem leaves_onTerminal {m : Method α} (hm : Restoring m) : Leaves IsOperator (onTerminal m) := by
  intro p
  refine wp_onFirst.mpr (wp_mono (hm p.1) (fun a w' h hlast => ?_) fun e w' h hlast => ?_)
  · obtain ⟨hfirst, hstill, -, hback⟩ := h hlast
    exact ⟨hfirst, hstill, hback⟩
  · obtain ⟨hfirst, hstill, honly, hback⟩ := h hlast
    obtain ⟨x, rfl⟩ := honly e rfl
    exact ⟨hfirst, ⟨hstill, hback⟩, x, rfl⟩

theorem leaves_onService (call : ServiceCall α) : Leaves IsService (onService call) := by
  intro p
  refine wp_onService (wp_true call) (fun a s' _ hc => ?_) (fun d s' _ hc => ?_) fun r s' _ hc => ?_
  · exact ⟨hc, Restored.refl p.1⟩
  · exact ⟨hc, Restored.refl p.1⟩
  · exact ⟨hc, Restored.refl p.1, r, rfl⟩

theorem leaves_cancel (handle : OpaqueId) (now : Datetime) :
    Leaves raises (onSecond Raised.service (AuthService.cancelBootstrap handle now)) :=
  fun p hc => ⟨hc, Restored.refl p.1⟩

theorem leaves_comes (typed : Bytes) : Leaves raises (comes typed) :=
  fun _ hc => ⟨hc, ⟨rfl, rfl, rfl, rfl, rfl, id⟩, Or.inl ⟨rfl, rfl, rfl⟩⟩

end Rules

/-! ### The operations of the terminal -/

theorem restoring_writePublic (value : Text) : Restoring (writePublic value) :=
  restoring_operation (restoring_bind simple_publicBytes fun _ => restoring_of_simple simple_writeUnlocked)

theorem restoring_checkReady : Restoring checkReady :=
  restoring_operation (restoring_of_simple simple_checkedFd)

theorem restoring_confirm (prompt : Text) : Restoring (confirm prompt) :=
  restoring_operation (restoring_then restoring_readSecretUnlocked fun _ => simple_pure)

theorem restoring_readSecret (prompt : Text) (maxBytes : Nat) : Restoring (readSecret prompt maxBytes) :=
  restoring_operation restoring_readSecretUnlocked

theorem restoring_disclose (fields : List SecretField) : Restoring (disclose fields) :=
  restoring_operation restoring_discloseUnlocked

/-! ### The parts of a ceremony -/

section Parts
variable {α β : Type} {raises : Raised → Prop} {name : String} {guidance : AuthDenial → Option String}

/-- An exception that is not an error of the terminal does not reach these clauses. -/
theorem leaves_elsewhere {e : Raised} (he : ¬IsOperator e) :
    Leaves (fun e' => IsOperator e → raises e') (stop e : Ceremony α) :=
  leaves_stop fun h => absurd h he

theorem leaves_suppress {c : Ceremony Unit} (hc : Leaves IsOperator c) : Leaves raises (suppress c) := by
  refine hc.handle fun e => ?_
  cases e with
  | service r => exact leaves_elsewhere (by rintro ⟨x, hx⟩; cases hx)
  | terminal e =>
    cases e with
    | operator x => exact leaves_pure ()
    | osError k => exact leaves_pure ()
    | _ => exact leaves_elsewhere (by rintro ⟨x, hx⟩; cases hx)

theorem leaves_safeDeny (d : AuthDenial) (text : Option String) : Leaves raises (safeDeny name d text) :=
  leaves_suppress (leaves_onTerminal (restoring_writePublic _))

theorem leaves_denyTerminalInput (x : OperatorTerminalError) : Leaves raises (denyTerminalInput name x) :=
  (leaves_suppress (leaves_onTerminal (restoring_writePublic _))).bind fun _ => leaves_pure _

theorem leaves_terminalDenial (e : Raised) :
    Leaves (fun e' => IsOperator e → raises e') (terminalDenial name e : Ceremony (AuthOutcome α)) := by
  cases e with
  | service r => exact leaves_elsewhere (by rintro ⟨x, hx⟩; cases hx)
  | terminal e =>
    cases e with
    | operator x => exact (leaves_denyTerminalInput x).bind fun _ => leaves_pure _
    | osError k => exact (leaves_denyTerminalInput _).bind fun _ => leaves_pure _
    | _ => exact leaves_elsewhere (by rintro ⟨x, hx⟩; cases hx)

theorem leaves_secretDelivery (fields : List SecretField) : Leaves raises (secretDelivery fields) := by
  have hshown : Leaves IsOperator
      (onTerminal (disclose fields) >>= fun _ => pure SecretDeliveryState.complete) :=
    (leaves_onTerminal (restoring_disclose fields)).bind fun _ => leaves_pure _
  refine hshown.handle fun e => ?_
  cases e with
  | service r => exact leaves_elsewhere (by rintro ⟨x, hx⟩; cases hx)
  | terminal e =>
    cases e with
    | operator x => exact leaves_pure _
    | osError k => exact leaves_pure _
    | _ => exact leaves_elsewhere (by rintro ⟨x, hx⟩; cases hx)

theorem leaves_writeWarnings (warnings : List Text) : Leaves IsOperator (writeWarnings warnings) := by
  induction warnings with
  | nil => exact leaves_pure ()
  | cons warning warnings ih => exact (leaves_onTerminal (restoring_writePublic _)).bind fun _ => ih

theorem leaves_prepareOperatorTerminal (warnings : List Text) (confirmation : Text) (typed : Bytes) :
    Leaves raises (prepareOperatorTerminal name warnings confirmation typed) := by
  have hask : Leaves IsOperator (askOperator warnings confirmation typed) := by
    refine (leaves_onTerminal restoring_checkReady).bind fun _ => ?_
    refine (leaves_writeWarnings warnings).bind fun _ => (leaves_comes typed).bind fun _ => ?_
    exact (leaves_onTerminal (restoring_confirm confirmation)).bind fun _ => leaves_pure _
  refine (hask.handle leaves_terminalDenial).bind fun answer => ?_
  cases answer with
  | error d => exact leaves_pure _
  | ok confirmed =>
    cases confirmed with
    | true => exact leaves_pure _
    | false => exact (leaves_safeDeny _ _).bind fun _ => leaves_pure _

theorem Leaves.andThen {c : Ceremony (AuthOutcome β)} {f : β → Ceremony (AuthOutcome α)}
    (hc : Leaves raises c) (hf : ∀ b, Leaves raises (f b)) : Leaves raises (andThen c f) := by
  refine hc.bind fun outcome => ?_
  cases outcome with
  | error d => exact leaves_pure _
  | ok b => exact hf b

theorem Leaves.consultOrDeny {c : Ceremony (AuthOutcome α)} (hc : Leaves raises c) :
    Leaves raises (consultOrDeny name guidance c) := by
  refine hc.bind fun outcome => ?_
  cases outcome with
  | error d => exact (leaves_safeDeny _ _).bind fun _ => leaves_pure _
  | ok a => exact leaves_pure _

theorem leaves_readCredential (prompt : Text) (typed : Bytes) :
    Leaves raises (readCredential name prompt typed) := by
  have hread : Leaves IsOperator (do
      comes typed
      let raw ← onTerminal (readSecret prompt SECRET_BYTES)
      pure (.ok raw) : Ceremony (AuthOutcome Text)) := by
    refine (leaves_comes typed).bind fun _ => ?_
    exact (leaves_onTerminal (restoring_readSecret prompt SECRET_BYTES)).bind fun _ => leaves_pure _
  refine Leaves.andThen (hread.handle leaves_terminalDenial) fun raw => ?_
  cases parseOperatorCode raw with
  | none => exact (leaves_safeDeny _ _).bind fun _ => leaves_pure _
  | some credential => exact leaves_pure _

theorem leaves_handOut (h : Handout) (credential : OpaqueCredential) (now : Datetime) :
    Leaves raises (handOut h credential now) := by
  refine (leaves_secretDelivery _).bind fun delivery => ?_
  have hburnt : Leaves raises (burnt h) :=
    leaves_suppress ((leaves_onTerminal (restoring_writePublic _)).bind fun _ =>
      leaves_onTerminal (restoring_writePublic _))
  split_ifs
  · exact (leaves_cancel _ _).bind fun _ => hburnt.bind fun _ => leaves_pure _
  · exact (leaves_suppress (leaves_onTerminal (restoring_writePublic _))).bind fun _ => leaves_pure _

theorem leaves_handOff (fields : List SecretField) (succeeded : String) :
    Leaves raises (handOff fields succeeded) := by
  refine (leaves_secretDelivery fields).bind fun delivery => ?_
  split_ifs
  · exact (leaves_suppress (leaves_onTerminal (restoring_writePublic _))).bind fun _ => leaves_pure _
  · exact (leaves_suppress (leaves_onTerminal (restoring_writePublic _))).bind fun _ => leaves_pure _

theorem leaves_result {display : BootstrapExchange → Ceremony SecretDeliveryState}
    (hdisplay : ∀ x, Leaves raises (display x)) (x : BootstrapExchange) : Leaves raises (result display x) :=
  (hdisplay x).bind fun _ => leaves_pure _

theorem leaves_exchangeSubmitted {submitted : Text}
    {exchange : OpaqueCredential → Ceremony (AuthOutcome BootstrapExchange)}
    (h : ∀ credential, Leaves raises (exchange credential)) :
    Leaves raises (exchangeSubmitted submitted exchange) := by
  unfold exchangeSubmitted
  cases parseOperatorCode submitted with
  | none => exact leaves_pure _
  | some credential => exact h credential

theorem leaves_redisplayInterrupted {display : BootstrapExchange → Ceremony SecretDeliveryState}
    (hdisplay : ∀ x, Leaves raises (display x)) (r : OperatorResult) (confirmation : Bytes) :
    Leaves raises (redisplayInterrupted name display r confirmation) := by
  unfold redisplayInterrupted
  split_ifs
  · exact leaves_pure r
  · refine (leaves_prepareOperatorTerminal _ _ _).bind fun prepared => ?_
    cases prepared with
    | error d => exact leaves_pure r
    | ok u => exact (hdisplay r.exchange).bind fun delivery => leaves_pure _

end Parts

/-! ### The ceremonies -/

section Ceremonies
variable (sv : AuthService)

theorem leaves_beginBootstrapOnTty (root : RootCapability) (x : Beginning) :
    Leaves IsService (beginBootstrapOnTty sv root x) := by
  unfold beginBootstrapOnTty
  split_ifs
  · exact (leaves_safeDeny _ _).bind fun _ => leaves_pure _
  · refine (leaves_prepareOperatorTerminal _ _ _).andThen fun _ => ?_
    exact (leaves_onService _).consultOrDeny.andThen fun credential => leaves_handOut _ credential _

theorem leaves_beginReprovisionOnTty (typed : Bytes) (x : Beginning) :
    Leaves IsService (beginReprovisionOnTty sv typed x) := by
  refine (leaves_prepareOperatorTerminal _ _ _).andThen fun _ => ?_
  refine (leaves_readCredential _ _).andThen fun reprovision => ?_
  exact (leaves_onService _).consultOrDeny.andThen fun credential => leaves_handOut _ credential _

theorem leaves_exchangeBootstrapOnTty (submitted : Text) (confirmation : Bytes) (now : Datetime)
    (drawn : AuthService.ExchangeMaterial) :
    Leaves IsService (exchangeBootstrapOnTty sv submitted confirmation now drawn) := by
  refine (leaves_prepareOperatorTerminal _ _ _).andThen fun _ => ?_
  refine (leaves_exchangeSubmitted fun credential => leaves_onService _).consultOrDeny.andThen fun x => ?_
  exact leaves_result (fun _ => leaves_handOff _ _) x

theorem leaves_exchangeReprovisionOnTty (submitted : Text) (authority : OpaqueCredential)
    (y : Reprovisioning) : Leaves IsService (exchangeReprovisionOnTty sv submitted authority y) := by
  refine (leaves_prepareOperatorTerminal _ _ _).andThen fun _ => ?_
  have hpermitted : ∀ credential, Leaves IsService (exchangePermitted sv authority y credential) :=
    fun credential => (leaves_onService _).andThen fun authorization => leaves_onService _
  refine (leaves_exchangeSubmitted hpermitted).consultOrDeny.andThen fun x => ?_
  exact leaves_result (fun _ => leaves_handOff _ _) x

theorem leaves_recoverHeadlessOnTty (z : Recovering) : Leaves IsService (recoverHeadlessOnTty sv z) := by
  refine (leaves_prepareOperatorTerminal _ _ _).andThen fun _ => ?_
  refine (leaves_readCredential _ _).andThen fun recovery => ?_
  refine (leaves_onService _).consultOrDeny.andThen fun x => ?_
  exact leaves_result (fun _ => leaves_handOff _ _) x

/-- Whatever fails with an `OSError`, is short or is denied, and whatever signal is handled where it is
caught: only an exception of the service leaves a ceremony, nothing at all leaves another display, and the
terminal is restored or latched. -/
theorem left_restored (root : RootCapability) (submitted : Text) (authority : OpaqueCredential)
    (typed : Bytes) (x : Beginning) (y : Reprovisioning) (z : Recovering) (now : Datetime)
    (drawn : AuthService.ExchangeMaterial) (r : OperatorResult) :
    Leaves IsService (beginBootstrapOnTty sv root x) ∧
    Leaves IsService (beginReprovisionOnTty sv typed x) ∧
    Leaves IsService (exchangeBootstrapOnTty sv submitted typed now drawn) ∧
    Leaves IsService (exchangeReprovisionOnTty sv submitted authority y) ∧
    Leaves IsService (recoverHeadlessOnTty sv z) ∧
    Leaves (fun _ => False) (redisplayInterruptedBootstrap r typed) ∧
    Leaves (fun _ => False) (redisplayInterruptedRecovery r typed) :=
  ⟨leaves_beginBootstrapOnTty sv root x, leaves_beginReprovisionOnTty sv typed x,
    leaves_exchangeBootstrapOnTty sv submitted typed now drawn,
    leaves_exchangeReprovisionOnTty sv submitted authority y, leaves_recoverHeadlessOnTty sv z,
    leaves_redisplayInterrupted (fun _ => leaves_handOff _ _) r typed,
    leaves_redisplayInterrupted (fun _ => leaves_handOff _ _) r typed⟩

end Ceremonies

end MyCogni.Ceremonies
