import MyCogni.Auth.Transcript
import MyCogni.Base.Frame
import MyCogni.Ceremonies.Leaving
import MyCogni.Terminal.SecretInput

/-! The ceremonies on a terminal on which nothing fails: what was exchanged is handed off completely, in
codes that parse back. -/

namespace MyCogni.Ceremonies

open Command Terminal Auth

/-! ### The failure of a cleanup -/

/-- The method puts down no failure of a cleanup, however it ends. -/
abbrev Clean {α : Type} (m : Method α) : Prop :=
  Respects (fun w w' => w'.locals.cleanupFailure = w.locals.cleanupFailure) m

section Clean
variable {α β : Type} {place : Place} {secret : Bool}

theorem clean_pure (a : α) : Clean (pure a : Method α) := fun _ => rfl

theorem clean_stop (e : Exn) : Clean (stop e : Method α) := fun _ => rfl

theorem Clean.bind {m : Method β} {f : β → Method α} (hm : Clean m) (hf : ∀ b, Clean (f b)) :
    Clean (m >>= f) :=
  Respects.bind (fun _ _ _ h h' => h'.trans h) hm hf

theorem Clean.handle {m : Method α} {handler : Exn → Method α} (hm : Clean m)
    (hhandler : ∀ e, Clean (handler e)) : Clean (handle m handler) :=
  Respects.handle (fun _ _ _ h h' => h'.trans h) hm hhandler

theorem clean_reading {f : Tty → Method α} (hf : ∀ w, Clean (f w)) : Clean (read >>= f) :=
  fun w => hf w w

theorem clean_step (o : Terminal.Op) : Clean (step place o) := by
  refine respects_of_wp fun w => ?_
  have heffect : ∀ fates f,
      (effect { w with fates } o f).2.locals.cleanupFailure = w.locals.cleanupFailure := by
    intro fates f
    cases o with
    | _ => rfl
  refine wp_step heffect (fun fates e _ => ?_) (fun fates _ => rfl) fun w' fates f hw' => ?_
  · cases o with
    | _ => rfl
  · rcases hw' with rfl | rfl
    · rfl
    · exact heffect fates f

theorem clean_setLocals {f : Locals → Locals} (h : ∀ l, (f l).cleanupFailure = l.cleanupFailure) :
    Clean (setLocals f) := fun w => h w.locals

theorem clean_checkDescriptor : Clean (checkDescriptor place) := by
  refine (clean_step .fstat).bind fun isCharacterDevice => ?_
  have hterminal : Clean (if isCharacterDevice = true then step place .isatty else pure false) := by
    split_ifs
    · exact clean_step .isatty
    · exact clean_pure false
  refine hterminal.bind fun isTerminal => ?_
  split_ifs
  · exact clean_stop _
  · refine (clean_step .inForeground).bind fun inForeground => ?_
    split_ifs
    · exact clean_stop _
    · exact clean_pure ()

theorem clean_checkedFd : Clean (checkedFd place) := by
  refine (clean_step .tick).bind fun _ => clean_reading fun w => ?_
  split_ifs
  · exact clean_stop _
  · exact clean_stop _
  · refine clean_checkDescriptor.handle fun e => ?_
    cases e with
    | osError k => exact (clean_step .tick).bind fun _ => clean_stop _
    | _ => exact clean_stop _

theorem clean_writeLoop {rest : Bytes} {skip : Nat} : Clean (writeLoop secret rest skip) := by
  induction rest generalizing skip with
  | nil => exact clean_pure ()
  | cons b rest ih =>
    cases skip with
    | succ skip => exact ih
    | zero =>
      have hnote : Clean (noteAttempt secret) := by
        unfold noteAttempt
        split_ifs
        · exact clean_setLocals fun _ => rfl
        · exact clean_pure ()
      refine clean_checkedFd.bind fun _ => hnote.bind fun _ => (clean_step _).bind fun count => ?_
      split_ifs
      · exact clean_stop _
      · exact ih

theorem clean_writeError (failure : OperatorTerminalFailure) : Clean (writeError secret failure) := by
  refine clean_reading fun w => ?_
  split_ifs
  · exact clean_stop _
  · exact clean_stop _

theorem clean_writeClauses (e : Exn) : Clean (writeClauses secret place e) := by
  have hclause : ∀ failure, Clean (tick place >>= fun _ => writeError secret failure) :=
    fun failure => (clean_step .tick).bind fun _ => clean_writeError failure
  cases e with
  | operator x =>
    refine (clean_step .tick).bind fun _ => clean_reading fun w => ?_
    split_ifs
    · exact clean_stop _
    · exact clean_stop _
  | cancelled => exact hclause _
  | osError k =>
    cases k with
    | _ => exact hclause _
  | _ => exact clean_stop _

theorem clean_writeUnlocked {bytes : Bytes} : Clean (writeUnlocked bytes secret place) := by
  have hwrite : Clean (writeAndDrain bytes secret) :=
    clean_writeLoop.bind fun _ => clean_checkedFd.bind fun _ => clean_step .tcdrain
  have hreset : Clean (setLocals fun l => { l with secretWriteAttempted := false }) :=
    clean_setLocals fun _ => rfl
  refine (clean_step .tick).bind fun _ => hreset.bind fun _ => ?_
  exact (hwrite.handle clean_writeClauses).bind fun _ => clean_step .tick

theorem clean_activateCancelSession (session : CancelSession) : Clean (activateCancelSession session) := by
  refine (clean_step .tick).bind fun _ => (clean_step _).handle fun e => ?_
  cases e with
  | cancelled => exact clean_stop _
  | _ => exact (clean_step .tick).bind fun _ => clean_stop _

end Clean

/-! ### A disclosure that nothing disturbs -/

/-- Nothing fails, and neither the write nor the cleanup has. -/
structure Untroubled (w : Tty) : Prop where
  undisturbed : w.Undisturbed
  failure : w.locals.failure = none
  cleanup : w.locals.cleanupFailure = none

theorem Untroubled.smooth {α : Type} {known : α → Prop} {m : Method α} {w : Tty} (h : Untroubled w)
    (hsmooth : Smooth known m)
    (hclean : wp m (fun _ w' => w'.locals.cleanupFailure = w.locals.cleanupFailure) (fun _ _ => True) w) :
    wp m (fun _ w' => Untroubled w') (fun _ _ => False) w := by
  refine wp_mono (wp_and (hsmooth w h.undisturbed) hclean) (fun a w' h' => ?_) fun _ _ h' => h'.1
  obtain ⟨⟨hundisturbed, haside, -⟩, hsame⟩ := h'
  exact ⟨hundisturbed, haside.failure.trans h.failure, hsame.trans h.cleanup⟩

theorem Untroubled.clean {α : Type} {known : α → Prop} {m : Method α} {w : Tty} (h : Untroubled w)
    (hsmooth : Smooth known m) (hclean : Clean m) :
    wp m (fun _ w' => Untroubled w') (fun _ _ => False) w :=
  h.smooth hsmooth (wp_mono (hclean.wp w) (fun _ _ h' => h') fun _ _ _ => True.intro)

theorem Untroubled.orderly {α : Type} {known : α → Prop} {m : Method α} {w : Tty} (h : Untroubled w)
    (hsmooth : Smooth known m) (horderly : Orderly m) :
    wp m (fun _ w' => Untroubled w') (fun _ _ => False) w := by
  refine h.smooth hsmooth (wp_mono (horderly w w (Kept.refl w)) (fun _ w' hk => ?_) fun _ _ _ => True.intro)
  rw [hk.locals]

theorem wp_discloseMain_undisturbed {bytes : Bytes} {w : Tty} (hw : w.Undisturbed) :
    wp (discloseMain bytes) (fun _ w' => w'.Undisturbed) (fun _ _ => False) w := by
  refine wp_writing ?_
  have hnew : Untroubled { w with locals := { w.locals with failure := none, cleanupFailure := none } } :=
    ⟨⟨hw.fd, hw.restoreFailed, hw.fates⟩, rfl, rfl⟩
  refine wp_seq (hnew.orderly smooth_beginCancelSession orderly_beginCancelSession)
    (fun session w₁ h₁ => ?_) fun _ _ => False.elim
  have hwrite : wp (activateCancelSession session >>= fun _ => writeUnlocked bytes true .passedOn)
      (fun _ w' => Untroubled w') (fun _ _ => False) w₁ :=
    h₁.clean (smooth_bind smooth_activateCancelSession fun _ _ => smooth_writeUnlocked)
      ((clean_activateCancelSession session).bind fun _ => clean_writeUnlocked)
  have hfinally : ∀ {w₂ : Tty}, Untroubled w₂ →
      wp (discloseFinally session) (fun _ w' => Untroubled w') (fun _ _ => False) w₂ := by
    intro w₂ h₂
    refine wp_seq (h₂.clean smooth_tick (clean_step .tick)) (fun _ w₃ h₃ => ?_) fun _ _ => False.elim
    exact wp_try (h₃.orderly smooth_endCancelSession orderly_endCancelSession) (fun _ _ h => h)
      fun _ _ => False.elim
  have hguarded : wp (handle (activateCancelSession session >>= fun _ => writeUnlocked bytes true .passedOn)
      discloseClauses) (fun _ w' => Untroubled w') (fun _ _ => False) w₁ :=
    wp_try hwrite (fun _ _ h => h) fun _ _ => False.elim
  have hdone : wp (lastly (handle (activateCancelSession session >>= fun _ =>
      writeUnlocked bytes true .passedOn) discloseClauses) (discloseFinally session))
      (fun _ w' => Untroubled w') (fun _ _ => False) w₁ :=
    wp_last hguarded (fun _ _ h => hfinally h) fun _ _ => False.elim
  refine wp_seq hdone (fun _ w₂ h₂ => ?_) fun _ _ => False.elim
  refine wp_seq (h₂.clean smooth_tick (clean_step .tick)) (fun _ w₃ h₃ => wp_reading ?_)
    fun _ _ => False.elim
  rw [h₃.failure, h₃.cleanup]
  exact h₃.undisturbed

theorem wp_discloseUnlocked_undisturbed {fields : List SecretField} {bytes : Bytes}
    (hpayload : payload fields = some bytes) {w : Tty} (hw : w.Undisturbed) :
    wp (discloseUnlocked fields) (fun _ w' => w'.Undisturbed) (fun _ _ => False) w := by
  unfold discloseUnlocked
  rw [hpayload]
  refine wp_reading ?_
  split_ifs
  · exact wp_discloseMain_undisturbed hw
  · exact wp_mono (smooth_writeUnlocked w hw) (fun _ _ h => h.1) fun _ _ => id

/-! ### Operations that nothing disturbs -/

/-- Nothing fails, and no operation is running. -/
def Ready (w : Tty) : Prop := w.Undisturbed ∧ w.operationLock = false

/-- An operation ends as its body does, or is refused outside of the main thread. -/
theorem wp_operation_ready {α : Type} {mainThread : Bool} {body : Method α} {E : Exn → Prop} {w : Tty}
    (hw : Ready w) (hbusy : mainThread = true → E (.operator { failure := .busy }))
    (hbody : ∀ w₁, w₁.Undisturbed →
      wp body (fun _ w' => w'.Undisturbed) (fun e w' => w'.Undisturbed ∧ E e) w₁) :
    wp (operation mainThread body) (fun _ w' => Ready w') (fun e w' => Ready w' ∧ E e) w := by
  refine wp_aside smooth_checkedFd hw.1 (Aside.refl w) fun _ w₁ hw₁ h₁ _ => wp_reading ?_
  have hfree : w₁.operationLock = false := h₁.operationLock.trans hw.2
  have hlock : ¬w₁.operationLock = true := by
    rw [hfree]
    exact Bool.false_ne_true
  by_cases hthread : mainThread = true ∧ w₁.mainThread = false
  · rw [if_pos hthread]
    exact ⟨⟨hw₁, hfree⟩, hbusy hthread.1⟩
  rw [if_neg hthread, if_neg hlock]
  refine wp_writing ?_
  have hlocked : Tty.Undisturbed { w₁ with operationLock := true } :=
    ⟨hw₁.fd, hw₁.restoreFailed, hw₁.fates⟩
  have hlast : ∀ {w₂ : Tty}, w₂.Undisturbed →
      wp (tick .unguarded >>= fun _ => write fun w => { w with operationLock := false })
        (fun _ w' => Ready w') (fun _ _ => False) w₂ := by
    intro w₂ hw₂
    refine wp_aside smooth_tick hw₂ (Aside.refl w₂) fun _ w₃ hw₃ _ _ => ?_
    exact ⟨⟨hw₃.fd, hw₃.restoreFailed, hw₃.fates⟩, rfl⟩
  refine wp_aside smooth_tick hlocked (Aside.refl _) fun _ w₂ hw₂ _ _ => ?_
  refine wp_last (hbody w₂ hw₂) (fun a w₃ hw₃ => ?_) fun e w₃ h₃ => ?_
  · exact wp_mono (hlast hw₃) (fun _ _ h => h) fun _ _ => False.elim
  · exact wp_mono (hlast h₃.1) (fun _ _ h => ⟨h, h₃.2⟩) fun _ _ => False.elim

/-- Undisturbed, the method raises errors of the terminal only. -/
def Civil {α : Type} (m : Method α) : Prop :=
  ∀ w, Ready w → wp m (fun _ w' => Ready w') (fun e w' => Ready w' ∧ ∃ x, e = .operator x) w

section Civil
variable {α : Type} {mainThread : Bool}

theorem civil_operation {body : Method α} (hbody : ∀ w, w.Undisturbed →
    wp body (fun _ w' => w'.Undisturbed) (fun e w' => w'.Undisturbed ∧ ∃ x, e = .operator x) w) :
    Civil (operation mainThread body) :=
  fun _ hw => wp_operation_ready hw (fun _ => ⟨_, rfl⟩) hbody

theorem civil_checkReady : Civil checkReady := by
  refine civil_operation fun w hw => ?_
  exact wp_mono (smooth_checkedFd w hw) (fun _ _ h => h.1) fun _ _ => False.elim

theorem civil_writePublic (value : Text) : Civil (writePublic value) := by
  refine civil_operation fun w hw => ?_
  unfold publicBytes
  split_ifs
  · exact ⟨hw, _, rfl⟩
  · exact wp_mono (smooth_writeUnlocked w hw) (fun _ _ h => h.1) fun _ _ => False.elim

theorem wp_readSecretUnlocked_undisturbed {prompt : Text} {maxBytes : Nat} (hprompt : IsPublic prompt)
    (hmax : 1 ≤ maxBytes ∧ maxBytes ≤ MAX_VALUE_BYTES) {w : Tty} (hw : w.Undisturbed) :
    wp (readSecretUnlocked prompt maxBytes) (fun _ w' => w'.Undisturbed)
      (fun e w' => w'.Undisturbed ∧ ∃ x, e = .operator x) w := by
  refine wp_mono (wp_readSecretUnlocked hw hmax (smooth_publicBytes hprompt)) (fun _ _ h => h.1) ?_
  rintro e w' ⟨hw', -, failure, rfl, -⟩
  exact ⟨hw', _, rfl⟩

theorem civil_readSecret {prompt : Text} {maxBytes : Nat} (hprompt : IsPublic prompt)
    (hmax : 1 ≤ maxBytes ∧ maxBytes ≤ MAX_VALUE_BYTES) : Civil (readSecret prompt maxBytes) :=
  civil_operation fun _ hw => wp_readSecretUnlocked_undisturbed hprompt hmax hw

theorem civil_confirm {prompt : Text} (hprompt : IsPublic prompt) : Civil (confirm prompt) := by
  refine civil_operation fun w hw => ?_
  have hmax : 1 ≤ 3 ∧ 3 ≤ MAX_VALUE_BYTES := by decide
  exact wp_seq (wp_readSecretUnlocked_undisturbed hprompt hmax hw) (fun _ _ h => h) fun _ _ h => h

end Civil

/-! ### Ceremonies that nothing disturbs -/

/-- Undisturbed, the ceremony returns such a value, or raises such an exception. -/
def Runs {α : Type} (E : Raised → Prop) (known : α → Prop) (c : Ceremony α) : Prop :=
  ∀ p : Tty × Store, Ready p.1 →
    wp c (fun a p' => Ready p'.1 ∧ known a) (fun e p' => Ready p'.1 ∧ E e) p

/-- An outcome whose value is such. -/
def Yields {α : Type} (known : α → Prop) (outcome : AuthOutcome α) : Prop :=
  ∀ a, outcome = .ok a → known a

section Runs
variable {α β : Type} {E F : Raised → Prop} {known : α → Prop} {knownb : β → Prop} {name : String}

theorem runs_pure {a : α} (h : known a) : Runs E known (pure a) := fun _ hp => ⟨hp, h⟩

theorem runs_denied (d : AuthDenial) : Runs E (Yields known) (pure (.error d)) := by
  refine runs_pure fun a ha => ?_
  cases ha

theorem runs_allowed {a : α} (h : known a) : Runs E (Yields known) (pure (.ok a)) := by
  refine runs_pure fun b hb => ?_
  cases hb
  exact h

theorem Runs.bind {c : Ceremony β} {f : β → Ceremony α} (hc : Runs E knownb c)
    (hf : ∀ b, knownb b → Runs E known (f b)) : Runs E known (c >>= f) :=
  fun p hp => wp_seq (hc p hp) (fun b p' h => hf b h.2 p' h.1) fun _ _ h => h

theorem Runs.handle {c : Ceremony α} {handler : Raised → Ceremony α} (hc : Runs F known c)
    (hhandler : ∀ e, F e → Runs E known (handler e)) : Runs E known (handle c handler) :=
  fun p hp => wp_try (hc p hp) (fun _ _ h => h) fun e p' h => hhandler e h.2 p' h.1

theorem runs_onTerminal {m : Method α} (hm : Civil m) :
    Runs IsOperator (fun _ => True) (onTerminal m) := by
  intro p hp
  refine wp_onFirst.mpr (wp_mono (hm p.1 hp) (fun _ _ h => ⟨h, True.intro⟩) ?_)
  rintro e w' ⟨hw', x, rfl⟩
  exact ⟨hw', x, rfl⟩

theorem runs_suppress {c : Ceremony Unit} (hc : Runs IsOperator (fun _ => True) c) :
    Runs E (fun _ => True) (suppress c) := by
  refine hc.handle ?_
  rintro e ⟨x, rfl⟩
  exact runs_pure True.intro

theorem runs_safeDeny (d : AuthDenial) (guidance : Option String) :
    Runs E (fun _ => True) (safeDeny name d guidance) :=
  runs_suppress (runs_onTerminal (civil_writePublic _))

theorem runs_terminalDenial {e : Raised} (he : IsOperator e) :
    Runs E (Yields known) (terminalDenial name e) := by
  obtain ⟨x, rfl⟩ := he
  have hdeny : Runs E (fun _ => True) (denyTerminalInput name x) :=
    (runs_suppress (runs_onTerminal (civil_writePublic _))).bind fun _ _ => runs_pure True.intro
  exact hdeny.bind fun d _ => runs_denied d

theorem runs_writeWarnings (warnings : List Text) :
    Runs IsOperator (fun _ => True) (writeWarnings warnings) := by
  induction warnings with
  | nil => exact runs_pure True.intro
  | cons warning warnings ih => exact (runs_onTerminal (civil_writePublic _)).bind fun _ _ => ih

theorem runs_comes (typed : Bytes) : Runs E (fun _ => True) (comes typed) :=
  fun _ hp => ⟨⟨⟨hp.1.fd, hp.1.restoreFailed, hp.1.fates⟩, hp.2⟩, True.intro⟩

theorem runs_prepareOperatorTerminal {warnings : List Text} {confirmation : Text} {typed : Bytes}
    (hconfirmation : IsPublic confirmation) :
    Runs E (Yields fun _ => True) (prepareOperatorTerminal name warnings confirmation typed) := by
  have hask : Runs IsOperator (Yields fun _ => True) (askOperator warnings confirmation typed) := by
    refine (runs_onTerminal civil_checkReady).bind fun _ _ => ?_
    refine (runs_writeWarnings warnings).bind fun _ _ => (runs_comes typed).bind fun _ _ => ?_
    exact (runs_onTerminal (civil_confirm hconfirmation)).bind fun _ _ => runs_allowed True.intro
  refine (hask.handle fun e he => runs_terminalDenial he).bind fun answer _ => ?_
  cases answer with
  | error d => exact runs_denied d
  | ok confirmed =>
    cases confirmed with
    | true => exact runs_allowed True.intro
    | false => exact (runs_safeDeny _ _).bind fun _ _ => runs_denied _

theorem Runs.andThen {c : Ceremony (AuthOutcome β)} {f : β → Ceremony (AuthOutcome α)}
    (hc : Runs E (Yields knownb) c) (hf : ∀ b, knownb b → Runs E (Yields known) (f b)) :
    Runs E (Yields known) (andThen c f) := by
  refine hc.bind fun outcome houtcome => ?_
  cases outcome with
  | error d => exact runs_denied d
  | ok b => exact hf b (houtcome b rfl)

theorem Runs.consultOrDeny {guidance : AuthDenial → Option String} {c : Ceremony (AuthOutcome α)}
    (hc : Runs E (Yields known) c) : Runs E (Yields known) (consultOrDeny name guidance c) := by
  refine hc.bind fun outcome houtcome => ?_
  cases outcome with
  | error d => exact (runs_safeDeny _ _).bind fun _ _ => runs_denied d
  | ok a => exact runs_allowed (houtcome a rfl)

theorem runs_readCredential {prompt : Text} {typed : Bytes} (hprompt : IsPublic prompt) :
    Runs E (Yields fun _ => True) (readCredential name prompt typed) := by
  have hmax : 1 ≤ SECRET_BYTES ∧ SECRET_BYTES ≤ MAX_VALUE_BYTES := by decide
  have hread : Runs IsOperator (Yields fun _ => True) (do
      comes typed
      let raw ← onTerminal (readSecret prompt SECRET_BYTES)
      pure (.ok raw) : Ceremony (AuthOutcome Text)) := by
    refine (runs_comes typed).bind fun _ _ => ?_
    exact (runs_onTerminal (civil_readSecret hprompt hmax)).bind fun _ _ => runs_allowed True.intro
  refine (hread.handle fun e he => runs_terminalDenial he).andThen fun raw _ => ?_
  cases parseOperatorCode raw with
  | none => exact (runs_safeDeny _ _).bind fun _ _ => runs_denied _
  | some credential => exact runs_allowed True.intro

theorem runs_onService {c : ServiceCall α} (hc : ∀ s, wp c (fun a _ => known a) (fun _ _ => True) s) :
    Runs IsService (Yields known) (onService c) := by
  intro p hp
  refine wp_onService (hc p.2) (fun a s' ha => ⟨hp, ?_⟩) (fun d s' _ => ⟨hp, ?_⟩) fun r s' _ => ?_
  · intro b hb
    cases hb
    exact ha
  · intro b hb
    cases hb
  · exact ⟨hp, r, rfl⟩

end Runs

/-! ### Codes that are shown -/

def credentials (x : BootstrapExchange) : List OpaqueCredential :=
  [x.session, x.recovery] ++ (x.replacementReprovision.map (·.credential)).toList

/-- All of it was drawn by the service. -/
def DrawnWhole (x : BootstrapExchange) : Prop := ∀ c ∈ credentials x, c.secret.length = tokenBytes

/-- The terminal shows a field with this label. -/
def IsLabel (label : Text) : Prop :=
  (1 ≤ label.length ∧ label.length ≤ MAX_LABEL_CHARS) ∧
  label.any (fun c => c.toNat < 0x21 || c.toNat > 0x7E || c == ':') = false

theorem isLabel_codes : IsLabel "new-session-code".toList ∧ IsLabel "new-recovery-code".toList ∧
    IsLabel "replacement-reprovision-code".toList := by
  unfold IsLabel
  decide

/-- The field shows the code of a credential that was drawn. -/
def ShowsCode (f : SecretField) : Prop :=
  IsLabel f.label ∧ ∃ c : OpaqueCredential, c.secret.length = tokenBytes ∧ f.value = c.operatorCode

theorem codeChars_shown : ∀ c ∈ '.' :: codeChars, isControl c = false ∧
    (String.utf8EncodeChar c).any (fun b => b < 0x20 || b == 0x7F) = false :=
  forall_mem_of_all (by decide +kernel)

theorem mem_operatorCode {c : OpaqueCredential} {d : Char} (h : d ∈ c.operatorCode) :
    d ∈ '.' :: codeChars := by
  rcases List.mem_append.mp h with h | h
  · exact List.mem_cons_of_mem _ (handle_mem c.handle h)
  rcases List.mem_cons.mp h with rfl | h
  · exact List.mem_cons_self
  · exact List.mem_cons_of_mem _ ((urlsafeDecode_code c.secret).1 d h)

theorem ShowsCode.valid {f : SecretField} (h : ShowsCode f) : f.Valid := by
  obtain ⟨⟨hlength, hlabel⟩, c, hc, hvalue⟩ := h
  have hlong : f.value.encode.length ≤ MAX_VALUE_BYTES := by
    have hcode : c.operatorCode.length ≤ maxOperatorCodeChars := length_operatorCode hc
    have hencode := length_encode_le c.operatorCode
    rw [hvalue]
    exact hencode.trans (Nat.mul_le_mul_left 4 hcode)
  have hne : f.value.encode ≠ [] := by
    intro hnil
    have hempty : c.operatorCode = [] := Text.encode_injective (hvalue ▸ hnil)
    have hdot : '.' ∈ c.operatorCode := List.mem_append_right _ List.mem_cons_self
    rw [hempty] at hdot
    cases hdot
  refine ⟨hlength, hlabel, ?_, hne, hlong, ?_⟩
  · rw [hvalue, List.any_eq_false]
    intro d hd
    rw [(codeChars_shown d (mem_operatorCode hd)).1]
    exact Bool.false_ne_true
  · rw [hvalue, List.any_eq_false]
    intro b hb
    obtain ⟨d, hd, hbyte⟩ := List.mem_flatMap.mp hb
    have hchar := (codeChars_shown d (mem_operatorCode hd)).2
    rw [List.any_eq_false] at hchar
    exact hchar b hbyte

theorem ShowsCode.length_line {f : SecretField} (h : ShowsCode f) : f.line.length ≤ 1024 := by
  have hlabel : f.label.encode.length ≤ 4 * f.label.length := length_encode_le f.label
  have hvalue := h.valid.2.2.2.2.1
  have hlength := h.1.1.2
  have hcolon : (ascii ": ").length = 2 := by decide
  rw [MAX_LABEL_CHARS] at hlength
  rw [MAX_VALUE_BYTES] at hvalue
  simp only [SecretField.line, List.length_append, hcolon, List.length_singleton]
  omega

theorem payload_codes {fields : List SecretField}
    (hcount : 1 ≤ fields.length ∧ fields.length ≤ MAX_FIELDS)
    (hfields : ∀ f ∈ fields, ShowsCode f) : payload fields = some (fields.flatMap SecretField.line) := by
  have hlength : (fields.flatMap SecretField.line).length ≤ fields.length * 1024 := by
    clear hcount
    induction fields with
    | nil => exact Nat.zero_le _
    | cons f fields ih =>
      have hf := (hfields f List.mem_cons_self).length_line
      have hrest := ih fun g hg => hfields g (List.mem_cons_of_mem f hg)
      rw [List.flatMap_cons, List.length_append, List.length_cons]
      omega
  have hmax : fields.length * 1024 ≤ MAX_SECRET_BLOCK_BYTES := Nat.mul_le_mul_right 1024 hcount.2
  exact if_pos ⟨hcount, fun f hf => (hfields f hf).valid, hlength.trans hmax⟩

section Fields
variable {x : BootstrapExchange} (hx : DrawnWhole x)
include hx

theorem shows_sessionAndRecovery : ∀ f ∈ sessionAndRecovery x, ShowsCode f := by
  have hsession : x.session.secret.length = tokenBytes := hx _ List.mem_cons_self
  have hrecovery : x.recovery.secret.length = tokenBytes :=
    hx _ (List.mem_cons_of_mem _ List.mem_cons_self)
  intro f hf
  rcases List.mem_cons.mp hf with rfl | hf
  · exact ⟨isLabel_codes.1, _, hsession, rfl⟩
  · obtain rfl := List.mem_singleton.mp hf
    exact ⟨isLabel_codes.2.1, _, hrecovery, rfl⟩

theorem shows_bootstrapFields : ∀ f ∈ bootstrapFields x, ShowsCode f := by
  intro f hf
  rcases List.mem_append.mp hf with hf | hf
  · exact shows_sessionAndRecovery hx f hf
  · obtain ⟨r, hr, rfl⟩ := Option.map_eq_some_iff.mp (Option.mem_toList.mp hf)
    have hmem : r.credential ∈ credentials x := by
      refine List.mem_append_right _ (Option.mem_toList.mpr ?_)
      exact Option.map_eq_some_iff.mpr ⟨r, hr, rfl⟩
    exact ⟨isLabel_codes.2.2, _, hx _ hmem, rfl⟩

end Fields

theorem length_bootstrapFields (x : BootstrapExchange) :
    1 ≤ (bootstrapFields x).length ∧ (bootstrapFields x).length ≤ MAX_FIELDS := by
  unfold bootstrapFields sessionAndRecovery
  cases x.replacementReprovision with
  | none => simp [MAX_FIELDS]
  | some r => simp [MAX_FIELDS]

/-! ### Handoffs -/

/-- All was shown, and each code that was shown parses back. -/
def HandedOver (r : OperatorResult) : Prop :=
  r.delivery = .complete ∧ ∀ c ∈ credentials r.exchange, parseOperatorCode c.operatorCode = some c

theorem codes_parse {x : BootstrapExchange} (hx : DrawnWhole x) :
    ∀ c ∈ credentials x, parseOperatorCode c.operatorCode = some c := by
  intro c hc
  have hlength : c.secret.length = 32 := hx c hc
  have hvalid : c.Valid := by
    rw [OpaqueCredential.Valid, hlength]
    decide
  exact parseOperatorCode_operatorCode hvalid (length_operatorCode hlength)

section Handoffs
variable {E : Raised → Prop}

theorem runs_handOff {fields : List SecretField} {bytes : Bytes} (hpayload : payload fields = some bytes)
    (succeeded : String) : Runs E (· = .complete) (handOff fields succeeded) := by
  have hdelivery : Runs E (· = .complete) (secretDelivery fields) := by
    intro p hp
    have hshown : wp (onTerminal (disclose fields)) (fun _ p' => Ready p'.1) (fun _ _ => False) p := by
      have hdisclose : wp (disclose fields) (fun _ w' => Ready w') (fun _ w' => Ready w' ∧ False) p.1 := by
        refine wp_operation_ready hp (fun h => by cases h) fun w hw => ?_
        exact wp_mono (wp_discloseUnlocked_undisturbed hpayload hw) (fun _ _ h => h) fun _ _ => False.elim
      exact wp_onFirst.mpr (wp_mono hdisclose (fun _ _ h => h) fun _ _ h => h.2)
    have hwhole : wp (onTerminal (disclose fields) >>= fun _ => pure SecretDeliveryState.complete)
        (fun d p' => Ready p'.1 ∧ d = .complete) (fun _ _ => False) p :=
      wp_seq hshown (fun _ _ h => ⟨h, rfl⟩) fun _ _ => False.elim
    exact wp_try hwhole (fun _ _ h => h) fun _ _ => False.elim
  refine hdelivery.bind fun d hd => ?_
  rw [if_neg (not_not.mpr hd)]
  exact (runs_suppress (runs_onTerminal (civil_writePublic _))).bind fun _ _ => runs_pure rfl

theorem runs_result {display : BootstrapExchange → Ceremony SecretDeliveryState} {x : BootstrapExchange}
    (hx : DrawnWhole x) (hdisplay : Runs E (· = .complete) (display x)) :
    Runs E (Yields HandedOver) (result display x) := by
  exact hdisplay.bind fun d hd => runs_allowed ⟨hd, codes_parse hx⟩

theorem runs_displayBootstrapHandoff {x : BootstrapExchange} (hx : DrawnWhole x) :
    Runs E (· = .complete) (displayBootstrapHandoff x) :=
  runs_handOff (payload_codes (length_bootstrapFields x) (shows_bootstrapFields hx)) _

theorem runs_displayRecovery {x : BootstrapExchange} (hx : DrawnWhole x) :
    Runs E (· = .complete) (displayRecovery x) := by
  have hcount : 1 ≤ (sessionAndRecovery x).length ∧ (sessionAndRecovery x).length ≤ MAX_FIELDS :=
    ⟨Nat.le_add_left 1 1, Nat.le_add_left 2 6⟩
  exact runs_handOff (payload_codes hcount (shows_sessionAndRecovery hx)) _

end Handoffs

/-! ### What the service issues -/

section Issued
variable {sv : AuthService} {s : Store}

theorem drawnWhole_exchange (drawn : AuthService.ExchangeMaterial) (decision : BootstrapDecision) :
    DrawnWhole
      { session := drawn.session.credential, recovery := drawn.recovery.credential
        actorId := decision.actorId, representedProfileId := decision.representedProfileId
        epoch := decision.epoch
        replacementReprovision := decision.replacementReprovision.map fun b =>
          ⟨drawn.replacementRoot.credential, b.installationId, b.actorId, b.representedProfileId,
            .reprovision⟩ } := by
  intro c hc
  rcases List.mem_append.mp hc with hc | hc
  · rcases List.mem_cons.mp hc with rfl | hc
    · exact drawn.session.length
    · obtain rfl := List.mem_singleton.mp hc
      exact drawn.recovery.length
  · rw [Option.map_map, Option.mem_toList] at hc
    obtain ⟨b, -, rfl⟩ := Option.map_eq_some_iff.mp hc
    exact drawn.replacementRoot.length

theorem wp_exchange_drawn (bootstrap : OpaqueCredential)
    (authorization : Option ReprovisionCeremonyAuthorization) (now : Datetime)
    (drawn : AuthService.ExchangeMaterial) :
    wp (sv.exchange bootstrap authorization now drawn) (fun x _ => DrawnWhole x) (fun _ _ => True) s := by
  refine wp_seq (wp_true _) ?_ fun _ _ h => h
  rintro ⟨sessionNotBefore, sessionExpires⟩ s₁ -
  refine wp_seq (wp_true _) ?_ fun _ _ h => h
  rintro ⟨recoveryNotBefore, recoveryExpires⟩ s₂ -
  refine wp_seq (wp_true _) (fun _ s₃ _ => ?_) fun _ _ h => h
  refine wp_seq (wp_true _) (fun _ s₄ _ => ?_) fun _ _ h => h
  cases authorization with
  | none =>
    refine wp_seq (wp_true _) (fun decision s₅ _ => ?_) fun _ _ h => h
    exact wp_seq (wp_true _) (fun _ s₆ _ => drawnWhole_exchange drawn decision) fun _ _ h => h
  | some a =>
    refine wp_seq (wp_true _) (fun decision s₅ _ => ?_) fun _ _ h => h
    exact wp_seq (wp_true _) (fun _ s₆ _ => drawnWhole_exchange drawn decision) fun _ _ h => h

theorem wp_recover_drawn (recovery : OpaqueCredential) (now : Datetime) (session replacement : Drawn) :
    wp (sv.recover recovery now session replacement) (fun x _ => DrawnWhole x) (fun _ _ => True) s := by
  refine wp_seq (wp_true _) ?_ fun _ _ h => h
  rintro ⟨sessionNotBefore, sessionExpires⟩ s₁ -
  refine wp_seq (wp_true _) ?_ fun _ _ h => h
  rintro ⟨recoveryNotBefore, recoveryExpires⟩ s₂ -
  refine wp_seq (wp_true _) (fun _ s₃ _ => ?_) fun _ _ h => h
  refine wp_seq (wp_true _) (fun _ s₄ _ => ?_) fun _ _ h => h
  refine wp_seq (wp_true _) (fun record s₅ _ => ?_) fun _ _ h => h
  refine wp_seq (wp_true _) (fun _ s₆ _ => ?_) fun _ _ h => h
  intro c hc
  rcases List.mem_cons.mp hc with rfl | hc
  · exact session.length
  · obtain rfl := List.mem_singleton.mp hc
    exact replacement.length

end Issued

/-! ### The ceremonies -/

/-- A terminal on which nothing fails and no operation is running. -/
abbrev ReadyTty : Type := { w : Tty // Ready w }

section Ceremonies
variable (sv : AuthService) (submitted : Text)

theorem runs_exchangeSubmitted {exchange : OpaqueCredential → Ceremony (AuthOutcome BootstrapExchange)}
    (h : ∀ credential, Runs IsService (Yields DrawnWhole) (exchange credential)) :
    Runs IsService (Yields DrawnWhole) (exchangeSubmitted submitted exchange) := by
  unfold exchangeSubmitted
  cases parseOperatorCode submitted with
  | none => exact runs_denied _
  | some credential => exact h credential

theorem isPublic_scrollback : IsPublic SCROLLBACK_WARNING := by
  unfold IsPublic SCROLLBACK_WARNING
  rw [String.toList_append]
  decide +kernel

theorem isPublic_reprovision : IsPublic REPROVISION_WARNING := by
  unfold IsPublic REPROVISION_WARNING
  rw [String.toList_append, String.toList_append]
  decide +kernel

theorem isPublic_recoveryPrompt : IsPublic "recovery-code (input hidden): ".toList := by
  unfold IsPublic
  decide +kernel

theorem runs_exchangeBootstrapOnTty (confirmation : Bytes) (now : Datetime)
    (drawn : AuthService.ExchangeMaterial) :
    Runs IsService (Yields HandedOver) (exchangeBootstrapOnTty sv submitted confirmation now drawn) := by
  refine (runs_prepareOperatorTerminal isPublic_scrollback).andThen fun _ _ => ?_
  refine Runs.andThen (Runs.consultOrDeny (runs_exchangeSubmitted submitted fun credential => ?_))
    fun x hx => runs_result hx (runs_displayBootstrapHandoff hx)
  exact runs_onService fun s => wp_exchange_drawn credential none now drawn

theorem runs_exchangeReprovisionOnTty (authority : OpaqueCredential) (y : Reprovisioning) :
    Runs IsService (Yields HandedOver) (exchangeReprovisionOnTty sv submitted authority y) := by
  refine (runs_prepareOperatorTerminal isPublic_reprovision).andThen fun _ _ => ?_
  refine Runs.andThen (Runs.consultOrDeny (runs_exchangeSubmitted submitted fun credential => ?_))
    fun x hx => runs_result hx (runs_displayBootstrapHandoff hx)
  refine Runs.andThen (runs_onService fun s => wp_true _) fun authorization _ => runs_onService fun s => ?_
  refine wp_seq (wp_true _) (fun _ s₁ _ => ?_) fun _ _ h => h
  refine wp_seq (wp_true _) (fun _ s₂ _ => ?_) fun _ _ h => h
  exact wp_exchange_drawn credential (some authorization) y.now y.drawn

theorem runs_recoverHeadlessOnTty (z : Recovering) :
    Runs IsService (Yields HandedOver) (recoverHeadlessOnTty sv z) := by
  refine (runs_prepareOperatorTerminal isPublic_scrollback).andThen fun _ _ => ?_
  refine (runs_readCredential isPublic_recoveryPrompt).andThen fun recovery _ => ?_
  refine Runs.andThen (Runs.consultOrDeny (runs_onService fun s => ?_))
    fun x hx => runs_result hx (runs_displayRecovery hx)
  exact wp_recover_drawn recovery z.now z.session z.replacement

/-- What was interrupted is handed over by a display that the operator confirms. -/
theorem runs_redisplayInterrupted {E : Raised → Prop} {name : String} {r : OperatorResult}
    {display : BootstrapExchange → Ceremony SecretDeliveryState} {confirmation : Bytes}
    (hx : DrawnWhole r.exchange) (hdisplay : Runs E (· = .complete) (display r.exchange)) :
    Runs E (fun r' => r' = r ∨ HandedOver r') (redisplayInterrupted name display r confirmation) := by
  unfold redisplayInterrupted
  split_ifs
  · exact runs_pure (Or.inl rfl)
  · refine (runs_prepareOperatorTerminal isPublic_scrollback).bind fun prepared _ => ?_
    cases prepared with
    | error d => exact runs_pure (Or.inl rfl)
    | ok u => exact hdisplay.bind fun delivery hd => runs_pure (Or.inr ⟨hd, codes_parse hx⟩)

/-- Nothing at all leaves these displays. -/
theorem redisplay_hands_over {r : OperatorResult} (hx : DrawnWhole r.exchange) (confirmation : Bytes)
    (w : ReadyTty) (s : Store) :
    wp (redisplayInterruptedBootstrap r confirmation) (fun r' _ => r' = r ∨ HandedOver r')
      (fun _ _ => False) (w.1, s) ∧
    wp (redisplayInterruptedRecovery r confirmation) (fun r' _ => r' = r ∨ HandedOver r')
      (fun _ _ => False) (w.1, s) := by
  constructor
  · exact wp_mono (runs_redisplayInterrupted hx (runs_displayBootstrapHandoff hx) _ w.2)
      (fun _ _ h => h.2) fun _ _ h => h.2
  · exact wp_mono (runs_redisplayInterrupted hx (runs_displayRecovery hx) _ w.2)
      (fun _ _ h => h.2) fun _ _ h => h.2

/-- On a terminal on which nothing fails, every exchange and every recovery that is allowed hands over
all that it issued, in codes that parse back; nothing but an exception of the service leaves them. -/
theorem handed_over (authority : OpaqueCredential) (confirmation : Bytes) (now : Datetime)
    (drawn : AuthService.ExchangeMaterial) (y : Reprovisioning) (z : Recovering) (w : ReadyTty)
    (s : Store) :
    wp (exchangeBootstrapOnTty sv submitted confirmation now drawn)
      (fun outcome _ => ∀ r, outcome = .ok r → HandedOver r) (fun e _ => IsService e) (w.1, s) ∧
    wp (exchangeReprovisionOnTty sv submitted authority y)
      (fun outcome _ => ∀ r, outcome = .ok r → HandedOver r) (fun e _ => IsService e) (w.1, s) ∧
    wp (recoverHeadlessOnTty sv z)
      (fun outcome _ => ∀ r, outcome = .ok r → HandedOver r) (fun e _ => IsService e) (w.1, s) := by
  refine ⟨?_, ?_, ?_⟩
  · exact wp_mono (runs_exchangeBootstrapOnTty sv submitted confirmation now drawn _ w.2)
      (fun _ _ h => h.2) fun _ _ h => h.2
  · exact wp_mono (runs_exchangeReprovisionOnTty sv submitted authority y _ w.2)
      (fun _ _ h => h.2) fun _ _ h => h.2
  · exact wp_mono (runs_recoverHeadlessOnTty sv z _ w.2) (fun _ _ h => h.2) fun _ _ h => h.2

end Ceremonies

end MyCogni.Ceremonies
