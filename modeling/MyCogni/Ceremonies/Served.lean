import MyCogni.Ceremonies.Outcomes

/-! The ceremonies that exchange, as the store sees them: each is one call of the service or nothing, and
it returns what the call issued, whatever the terminal does. -/

namespace MyCogni.Ceremonies

open Command Terminal Auth

/-- How a call of the service ends that has this outcome. -/
def ending {α : Type} : AuthOutcome α → Except Refusal α
  | .ok a => .ok a
  | .error d => .error (.store (.denied d))

/-- The ceremony makes the call, and has its outcome. -/
def Calls {α : Type} (call : ServiceCall α) (c : Ceremony (AuthOutcome α)) : Prop :=
  ∀ p, wp c (fun outcome p' => call p.2 = (ending outcome, p'.2))
    (fun _ p' => ∃ r, call p.2 = (.error r, p'.2)) p

/-- On the store the ceremony was the call, and it returns what the call returned. -/
def Served (call : ServiceCall BootstrapExchange) (s : Store) (outcome : AuthOutcome OperatorResult)
    (s' : Store) : Prop :=
  call s = (ending (outcome.map OperatorResult.exchange), s')

/-- The ceremony was denied and touched nothing. -/
def Untouched (s : Store) (outcome : AuthOutcome OperatorResult) (s' : Store) : Prop :=
  s' = s ∧ ∃ d, outcome = .error d

/-- The ceremony is one of these calls or nothing, also where it raises. -/
def Once (calls : ServiceCall BootstrapExchange → Prop) (c : Ceremony (AuthOutcome OperatorResult)) : Prop :=
  ∀ p, wp c
    (fun outcome p' => Untouched p.2 outcome p'.2 ∨ ∃ call, calls call ∧ Served call p.2 outcome p'.2)
    (fun _ p' => p'.2 = p.2 ∨ ∃ call, calls call ∧ p'.2 = (call p.2).2) p

section Calls
variable {α β : Type}

theorem calls_onService (call : ServiceCall α) : Calls call (onService call) := by
  intro p
  exact wp_onService (wp_self call p.2) (fun _ _ h => h) (fun _ _ h => h) fun r _ h => ⟨r, h⟩

theorem Calls.andThen {call : ServiceCall β} {f : β → ServiceCall α} {c : Ceremony (AuthOutcome β)}
    {g : β → Ceremony (AuthOutcome α)} (hc : Calls call c) (hg : ∀ b, Calls (f b) (g b)) :
    Calls (call >>= f) (andThen c g) := by
  intro p
  refine wp_andThen (hc p) (fun d p' h => bind_error h f) (fun b p₁ h₁ => ?_) ?_
  · refine wp_mono (hg b p₁) (fun outcome p₂ h₂ => (bind_ok h₁ f).trans h₂) ?_
    rintro e p₂ ⟨r, h₂⟩
    exact ⟨r, (bind_ok h₁ f).trans h₂⟩
  · rintro e p' ⟨r, h⟩
    exact ⟨r, bind_error h f⟩

end Calls

section Once
variable {name : String} {guidance : AuthDenial → Option String}
  {display : BootstrapExchange → Ceremony SecretDeliveryState}
  {calls : ServiceCall BootstrapExchange → Prop}

/-- After the call the operator learns of a denial or is shown what was issued; neither is a call. -/
theorem wp_served {call : ServiceCall BootstrapExchange} {c : Ceremony (AuthOutcome BootstrapExchange)}
    (hc : Calls call c) (hdisplay : ∀ x, Aloof (display x)) (p : Tty × Store) :
    wp (andThen (consultOrDeny name guidance c) (result display))
      (fun outcome p' => Served call p.2 outcome p'.2) (fun _ p' => p'.2 = (call p.2).2) p := by
  have hconsult : wp (consultOrDeny name guidance c)
      (fun outcome p' => call p.2 = (ending outcome, p'.2)) (fun _ p' => p'.2 = (call p.2).2) p := by
    refine wp_seq (hc p) (fun outcome p₁ h₁ => ?_) ?_
    · cases outcome with
      | ok x => exact h₁
      | error d =>
        refine wp_seq ((aloof_safeDeny d (guidance d)).wp p₁) (fun _ p₂ h₂ => ?_) fun _ p₂ h₂ => ?_
        · have hsame : p₂.2 = p₁.2 := h₂
          have hdenied : call p.2 = (ending (.error d), p₂.2) := h₁.trans (by rw [hsame])
          exact hdenied
        · have hsame : p₂.2 = p₁.2 := h₂
          rw [hsame, h₁]
    · rintro e p' ⟨r, h⟩
      rw [h]
  refine wp_andThen hconsult (fun d p' h => h) (fun x p₁ h₁ => ?_) fun _ _ h => h
  refine wp_seq ((hdisplay x).wp p₁) (fun delivery p₂ h₂ => ?_) fun _ p₂ h₂ => ?_
  · have hsame : p₂.2 = p₁.2 := h₂
    have hreturned : call p.2 = (ending (.ok x), p₂.2) := h₁.trans (by rw [hsame])
    exact hreturned
  · have hsame : p₂.2 = p₁.2 := h₂
    rw [hsame, h₁]

theorem once_served {call : ServiceCall BootstrapExchange} {c : Ceremony (AuthOutcome BootstrapExchange)}
    (hc : Calls call c) (hdisplay : ∀ x, Aloof (display x)) (hcalls : calls call) :
    Once calls (andThen (consultOrDeny name guidance c) (result display)) := by
  intro p
  refine wp_mono (wp_served hc hdisplay p) (fun outcome p' h => ?_) fun _ p' h => ?_
  · exact Or.inr ⟨call, hcalls, h⟩
  · exact Or.inr ⟨call, hcalls, h⟩

/-- What comes before leaves the store alone. -/
theorem Once.after {α : Type} {c : Ceremony (AuthOutcome α)}
    {f : α → Ceremony (AuthOutcome OperatorResult)} (hc : Aloof c) (hf : ∀ a, Once calls (f a)) :
    Once calls (andThen c f) := by
  intro p
  refine wp_andThen (hc.wp p) (fun d p₁ h₁ => Or.inl ⟨h₁, d, rfl⟩) (fun a p₁ h₁ => ?_)
    fun _ _ h => Or.inl h
  have hsame : p₁.2 = p.2 := h₁
  have hrest := hf a p₁
  rw [hsame] at hrest
  exact hrest

/-- A text that is no code is denied before there is a call. -/
theorem once_submitted {submitted : Text}
    {exchange : OpaqueCredential → Ceremony (AuthOutcome BootstrapExchange)}
    (h : ∀ credential, parseOperatorCode submitted = some credential →
      Once calls (andThen (consultOrDeny name guidance (exchange credential)) (result display))) :
    Once calls
      (andThen (consultOrDeny name guidance (exchangeSubmitted submitted exchange)) (result display)) := by
  unfold exchangeSubmitted
  cases hparse : parseOperatorCode submitted with
  | some credential => exact h credential hparse
  | none =>
    intro p
    have hdenied : wp (consultOrDeny name guidance
          (pure (.error .malformedCredential) : Ceremony (AuthOutcome BootstrapExchange)))
        (fun outcome p' => p'.2 = p.2 ∧ ∃ d, outcome = .error d) (fun _ p' => p'.2 = p.2) p := by
      have hparsed : wp (pure (.error .malformedCredential) : Ceremony (AuthOutcome BootstrapExchange))
          (fun outcome p' => p' = p ∧ outcome = .error .malformedCredential) (fun _ _ => False) p :=
        ⟨rfl, rfl⟩
      refine wp_seq hparsed ?_ fun _ _ => False.elim
      rintro outcome p₁ ⟨rfl, rfl⟩
      exact wp_seq ((aloof_safeDeny _ _).wp p₁) (fun _ p₂ h₂ => ⟨h₂, _, rfl⟩) fun _ _ h => h
    refine wp_andThen hdenied ?_ ?_ fun _ _ h => Or.inl h
    · exact fun d p' h => Or.inl ⟨h.1, d, rfl⟩
    · rintro x p' ⟨-, d, hd⟩
      cases hd

end Once

/-- On the store each of these ceremonies is one call of the service, or nothing: one that returns a result
returns exactly what the call issued, one that returns a denial was denied by the call or touched nothing,
and one that raises has made the call or touched nothing. -/
theorem served_once (sv : AuthService) (submitted : Text) (authority : OpaqueCredential)
    (confirmation : Bytes) (now : Datetime) (drawn : AuthService.ExchangeMaterial) (y : Reprovisioning)
    (z : Recovering) :
    Once (fun call => ∃ credential, parseOperatorCode submitted = some credential ∧
        call = sv.exchangeBootstrap credential now drawn)
      (exchangeBootstrapOnTty sv submitted confirmation now drawn) ∧
    Once (fun call => ∃ credential, parseOperatorCode submitted = some credential ∧
        call = (do
          let a ← sv.authorizeReprovisionCeremony credential authority y.authorizedAt y.ceremony
          sv.exchangeConfirmedReprovision credential a y.now y.drawn))
      (exchangeReprovisionOnTty sv submitted authority y) ∧
    Once (fun call => ∃ recovery, call = sv.recover recovery z.now z.session z.replacement)
      (recoverHeadlessOnTty sv z) := by
  have hbootstrap : ∀ x, Aloof (displayBootstrapHandoff x) := fun _ => aloof_handOff _ _
  have hrecovery : ∀ x, Aloof (displayRecovery x) := fun _ => aloof_handOff _ _
  refine ⟨?_, ?_, ?_⟩
  · refine Once.after (aloof_prepareOperatorTerminal _ _ _) fun _ => once_submitted fun credential h => ?_
    exact once_served (calls_onService _) hbootstrap ⟨credential, h, rfl⟩
  · refine Once.after (aloof_prepareOperatorTerminal _ _ _) fun _ => once_submitted fun credential h => ?_
    refine once_served (Calls.andThen (calls_onService _) fun a => calls_onService _) hbootstrap ?_
    exact ⟨credential, h, rfl⟩
  · refine Once.after (aloof_prepareOperatorTerminal _ _ _) fun _ => ?_
    refine Once.after (aloof_readCredential _ _) fun recovery => ?_
    exact once_served (calls_onService _) hrecovery ⟨recovery, rfl⟩

end MyCogni.Ceremonies
