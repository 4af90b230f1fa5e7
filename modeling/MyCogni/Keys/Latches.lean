import MyCogni.Keys.OwnerFile

/-! What stays latched in a process: a provider that has latched recovery, or whose key has seen a nonce
twice, gives nothing away any more, and neither do the objects that it has issued. -/

namespace MyCogni.Keys.OwnerFile
open Auth Command

/-! ### What is latched -/

def Latched (states : Dict Bytes WrapState) (digest : Bytes) : Prop :=
  ∃ state, states.get? digest = some state ∧ state.nonceReuseLatched = true

/-- A nonce of the key with this digest was seen twice. -/
def Process.DomainLatched (w : Process) (digest : Bytes) : Prop := Latched w.wrapStates digest

/-- The provider has latched recovery, or its key has latched the reuse of a nonce. -/
def Process.Stopped (w : Process) (p : Nat) : Prop :=
  ∃ o : OwnerFileSecretProvider, w.providers[p]? = some o ∧
    (o.recoveryLatched = true ∨ ∃ digest, o.wrapState = some digest ∧ w.DomainLatched digest)

/-- The provider that has issued the object of the event. -/
def Process.IssuedBy (w : Process) (p : Nat) : Event → Prop
  | .entered h | .used h => ∃ x : ProfileDekHandle, w.handles[h]? = some x ∧ x.issuer = p
  | .consumed k => ∃ x : ProfileKeyPreparation, w.preparations[k]? = some x ∧ x.issuer = p

/-! ### The invariant -/

/-- A provider that is not latched holds the pin of its key, and what has happened once to an object is
marked at the object. -/
structure Process.Inv (w : Process) : Prop where
  pinned : ∀ (p : Nat) (o : OwnerFileSecretProvider), w.providers[p]? = some o →
    o.recoveryLatched = false → ∀ digest, o.wrapState = some digest →
    ∃ pin : SourcePin, o.sourcePin = some pin ∧ pin.materialDigest = digest
  used : ∀ h, .used h ∈ w.history → ∃ x : ProfileDekHandle, w.handles[h]? = some x ∧ x.used = true
  consumed : ∀ k, .consumed k ∈ w.history → ∃ x : ProfileKeyPreparation, w.preparations[k]? = some x ∧ x.consumed = true
  usedOnce : ∀ h, w.history.count (.used h) ≤ 1
  consumedOnce : ∀ k, w.history.count (.consumed k) ≤ 1

/-- What one part of a call may make of the process. -/
structure Process.Onward (w w' : Process) : Prop where
  providers : ∀ (p : Nat) (o : OwnerFileSecretProvider), w.providers[p]? = some o →
    ∃ o' : OwnerFileSecretProvider, w'.providers[p]? = some o' ∧
    (o.recoveryLatched = true → o'.recoveryLatched = true) ∧
      ∀ digest, o.wrapState = some digest → o'.wrapState = some digest ∨ o'.recoveryLatched = true
  domains : ∀ digest, w.DomainLatched digest → w'.DomainLatched digest
  handles : ∀ (h : Nat) (x : ProfileDekHandle), w.handles[h]? = some x →
    ∃ x' : ProfileDekHandle, w'.handles[h]? = some x' ∧ x'.issuer = x.issuer ∧
    (x.used = true → x'.used = true)
  preparations : ∀ (k : Nat) (x : ProfileKeyPreparation), w.preparations[k]? = some x →
    ∃ x' : ProfileKeyPreparation, w'.preparations[k]? = some x' ∧
    x'.issuer = x.issuer ∧ (x.consumed = true → x'.consumed = true)
  history : ∃ new : List Event, w'.history = new ++ w.history ∧ ∀ e ∈ new, ∃ p, w'.IssuedBy p e ∧ ¬w.Stopped p

namespace Process.Onward
variable {w w' w'' : Process}

theorem stopped (h : w.Onward w') {p : Nat} (hp : w.Stopped p) : w'.Stopped p := by
  obtain ⟨o, ho, hlatched⟩ := hp
  obtain ⟨o', ho', hrecovery, hdomain⟩ := h.providers p o ho
  refine ⟨o', ho', ?_⟩
  rcases hlatched with hlatched | ⟨digest, hdigest, hlatched⟩
  · exact Or.inl (hrecovery hlatched)
  · rcases hdomain digest hdigest with hsame | hlatched'
    · exact Or.inr ⟨digest, hsame, h.domains digest hlatched⟩
    · exact Or.inl hlatched'

theorem issuedBy (h : w.Onward w') {p : Nat} {e : Event} (he : w.IssuedBy p e) : w'.IssuedBy p e := by
  cases e with
  | entered n =>
    obtain ⟨x, hx, rfl⟩ := he
    obtain ⟨x', hx', hissuer, -⟩ := h.handles n x hx
    exact ⟨x', hx', hissuer⟩
  | used n =>
    obtain ⟨x, hx, rfl⟩ := he
    obtain ⟨x', hx', hissuer, -⟩ := h.handles n x hx
    exact ⟨x', hx', hissuer⟩
  | consumed k =>
    obtain ⟨x, hx, rfl⟩ := he
    obtain ⟨x', hx', hissuer, -⟩ := h.preparations k x hx
    exact ⟨x', hx', hissuer⟩

theorem refl (w : Process) : w.Onward w where
  providers _ o ho := ⟨o, ho, id, fun _ => Or.inl⟩
  domains _ := id
  handles _ x hx := ⟨x, hx, rfl, id⟩
  preparations _ x hx := ⟨x, hx, rfl, id⟩
  history := ⟨[], rfl, nofun⟩

theorem trans (h : w.Onward w') (h' : w'.Onward w'') : w.Onward w'' where
  providers p o ho := by
    obtain ⟨o', ho', hrecovery, hdomain⟩ := h.providers p o ho
    obtain ⟨o'', ho'', hrecovery', hdomain'⟩ := h'.providers p o' ho'
    refine ⟨o'', ho'', hrecovery' ∘ hrecovery, fun digest hdigest => ?_⟩
    rcases hdomain digest hdigest with hsame | hlatched
    · exact hdomain' digest hsame
    · exact Or.inr (hrecovery' hlatched)
  domains digest := h'.domains digest ∘ h.domains digest
  handles n x hx := by
    obtain ⟨x', hx', hissuer, hused⟩ := h.handles n x hx
    obtain ⟨x'', hx'', hissuer', hused'⟩ := h'.handles n x' hx'
    exact ⟨x'', hx'', hissuer'.trans hissuer, hused' ∘ hused⟩
  preparations k x hx := by
    obtain ⟨x', hx', hissuer, hconsumed⟩ := h.preparations k x hx
    obtain ⟨x'', hx'', hissuer', hconsumed'⟩ := h'.preparations k x' hx'
    exact ⟨x'', hx'', hissuer'.trans hissuer, hconsumed' ∘ hconsumed⟩
  history := by
    obtain ⟨new, hnew, hissued⟩ := h.history
    obtain ⟨new', hnew', hissued'⟩ := h'.history
    refine ⟨new' ++ new, by rw [hnew', hnew, List.append_assoc], fun e he => ?_⟩
    rcases List.mem_append.mp he with he | he
    · obtain ⟨p, hp, hrunning⟩ := hissued' e he
      exact ⟨p, hp, fun hstopped => hrunning (h.stopped hstopped)⟩
    · obtain ⟨p, hp, hrunning⟩ := hissued e he
      exact ⟨p, h'.issuedBy hp, hrunning⟩

end Process.Onward

/-- The invariant is kept, and the process moves on. -/
def Moves (w w' : Process) : Prop := w.Inv → w'.Inv ∧ w.Onward w'

theorem moves_refl (w : Process) : Moves w w := fun h => ⟨h, .refl w⟩

theorem Moves.trans (a b c : Process) (h : Moves a b) (h' : Moves b c) : Moves a c := by
  intro ha
  obtain ⟨hb, hab⟩ := h ha
  obtain ⟨hc, hbc⟩ := h' hb
  exact ⟨hc, hab.trans hbc⟩

abbrev Careful {α : Type} (m : Act α) : Prop := Respects Moves m

section Rules
variable {α β : Type}

theorem Careful.bind {m : Act β} {f : β → Act α} (hm : Careful m) (hf : ∀ b, Careful (f b)) :
    Careful (m >>= f) := Respects.bind Moves.trans hm hf

theorem Careful.wp {m : Act α} (hm : Careful m) {w : Process} :
    wp m (fun _ w' => Moves w w') (fun _ w' => Moves w w') w := by
  have hw := hm w
  exact wp_iff.mpr ⟨fun _ _ => hw, fun _ _ => hw⟩

theorem careful_pure (a : α) : Careful (pure a : Act α) := respects_pure moves_refl a

theorem careful_read : Careful (read : Act Process) := respects_read moves_refl

theorem careful_stop (e : Fault) : Careful (stop e : Act α) := respects_stop moves_refl e

theorem careful_require (c : Prop) [Decidable c] (e : Fault) : Careful (require c e : Act Unit) :=
  respects_require moves_refl c e

theorem careful_demand (o : Option α) (e : Fault) : Careful (demand o e : Act α) :=
  respects_demand moves_refl o e

theorem careful_ite {c : Prop} [Decidable c] {m m' : Act α} (hm : Careful m) (hm' : Careful m') :
    Careful (if c then m else m') := by
  split_ifs
  · exact hm
  · exact hm'

theorem careful_handle {m : Act α} {handler : Fault → Act α} (hm : Careful m) (hh : ∀ e, Careful (handler e)) :
    Careful (handle m handler) := by
  refine respects_of_wp fun w => ?_
  refine wp_try hm.wp (fun _ _ h => h) fun e w₁ h₁ => ?_
  exact wp_mono (hh e).wp (fun _ _ h => Moves.trans _ _ _ h₁ h) fun _ _ h => Moves.trans _ _ _ h₁ h

end Rules

/-! ### Sections -/

/-- No record of the process is unlatched. -/
def KeepsLatched (f : WrapState → WrapState) : Prop :=
  ∀ s, s.nonceReuseLatched = true → (f s).nonceReuseLatched = true

theorem latched_change {states : Dict Bytes WrapState} {digest d : Bytes} {f : WrapState → WrapState}
    (hf : KeepsLatched f) (h : Latched states d) : Latched (change states digest f) d := by
  obtain ⟨state, hstate, hlatched⟩ := h
  unfold change
  cases hget : states.get? digest with
  | none => exact ⟨state, hstate, hlatched⟩
  | some s =>
    by_cases hd : d = digest
    · subst hd
      obtain rfl := Option.some.inj (hget.symm.trans hstate)
      exact ⟨f s, Dict.get?_set_self _ _ _, hf s hlatched⟩
    · exact ⟨state, (Dict.get?_set_ne _ _ hd).trans hstate, hlatched⟩

theorem recordSentinel_latched (s : WrapState) (nonce : Nonce) (commitment : Bytes) :
    (s.recordSentinel nonce commitment).nonceReuseLatched = s.nonceReuseLatched := by
  unfold WrapState.recordSentinel
  split_ifs <;> rfl

theorem keepsLatched_recordSentinel (nonce : Nonce) (commitment : Bytes) :
    KeepsLatched fun s => s.recordSentinel nonce commitment :=
  fun s h => (recordSentinel_latched s nonce commitment).trans h

theorem keepsLatched_reserve (nonce : Nonce) : KeepsLatched (reserve nonce) := fun _ h => h

theorem keepsLatched_latch : KeepsLatched fun s => { s with nonceReuseLatched := true } := fun _ _ => rfl

theorem latched_apply {states : Dict Bytes WrapState} {d : Bytes} (act : Elsewhere) (h : Latched states d) :
    Latched (act.apply states) d := by
  cases act with
  | creates digest limit =>
    show Latched (if (states.get? digest).isSome then states else states.set digest { limit }) d
    split_ifs with hthere
    · exact h
    · obtain ⟨state, hstate, hlatched⟩ := h
      have hd : d ≠ digest := by
        rintro rfl
        rw [hstate] at hthere
        exact hthere rfl
      exact ⟨state, (Dict.get?_set_ne _ _ hd).trans hstate, hlatched⟩
  | records digest nonce commitment => exact latched_change (keepsLatched_recordSentinel nonce commitment) h
  | reserves digest nonce => exact latched_change (keepsLatched_reserve nonce) h
  | latches digest => exact latched_change keepsLatched_latch h

theorem latched_foldl {states : Dict Bytes WrapState} {d : Bytes} (acts : List Elsewhere)
    (h : Latched states d) : Latched (acts.foldl Elsewhere.apply states) d := by
  induction acts generalizing states with
  | nil => exact h
  | cons act acts ih => exact ih (latched_apply act h)

/-- Only the records of the keys change, and what is latched in them stays latched. -/
structure Beside (w w' : Process) : Prop where
  providers : w'.providers = w.providers
  handles : w'.handles = w.handles
  preparations : w'.preparations = w.preparations
  history : w'.history = w.history
  domains : ∀ d, Latched w.wrapStates d → Latched w'.wrapStates d

theorem Beside.moves {w w' : Process} (h : Beside w w') : Moves w w' := by
  intro hinv
  refine ⟨⟨?_, ?_, ?_, ?_, ?_⟩, ⟨?_, h.domains, ?_, ?_, ⟨[], h.history, nofun⟩⟩⟩
  · rw [h.providers]
    exact hinv.pinned
  · rw [h.history, h.handles]
    exact hinv.used
  · rw [h.history, h.preparations]
    exact hinv.consumed
  · rw [h.history]
    exact hinv.usedOnce
  · rw [h.history]
    exact hinv.consumedOnce
  · rw [h.providers]
    exact fun p o ho => ⟨o, ho, id, fun _ => Or.inl⟩
  · rw [h.handles]
    exact fun n x hx => ⟨x, hx, rfl, id⟩
  · rw [h.preparations]
    exact fun k x hx => ⟨x, hx, rfl, id⟩

theorem beside_others (w : Process) : Beside w (others w).2 := by
  unfold others write
  dsimp only
  split
  · exact ⟨rfl, rfl, rfl, rfl, fun _ => id⟩
  · next acts rest _ =>
    refine ⟨rfl, rfl, rfl, rfl, fun d hd => ?_⟩
    show Latched (acts.foldl Elsewhere.apply w.wrapStates) d
    exact latched_foldl acts hd

theorem careful_others : Careful others := fun w => (beside_others w).moves

theorem careful_setState {digest : Bytes} {f : WrapState → WrapState} (hf : KeepsLatched f) :
    Careful (setState digest f) :=
  fun _ => Beside.moves ⟨rfl, rfl, rfl, rfl, fun _ => latched_change hf⟩

theorem careful_provider (p : Nat) : Careful (provider p) := careful_read.bind fun _ => careful_demand _ _

theorem careful_stateOf (digest : Bytes) : Careful (stateOf digest) :=
  careful_others.bind fun _ => careful_read.bind fun _ => careful_demand _ _

theorem getElem?_modify_iff {α : Type} {l : List α} {f : α → α} {i j : Nat} {b : α} :
    (l.modify i f)[j]? = some b ↔ ∃ a, l[j]? = some a ∧ (if i = j then f a else a) = b := by
  rw [List.getElem?_modify]
  exact Option.map_eq_some_iff

/-- A change of one provider that latches it, or that keeps its key and has the pin of its key. -/
theorem moves_setProvider {p : Nat} {f : OwnerFileSecretProvider → OwnerFileSecretProvider} {w : Process}
    (hf : w.Inv → ∀ o, w.providers[p]? = some o → (f o).recoveryLatched = true ∨
      (o.recoveryLatched = true → (f o).recoveryLatched = true) ∧
        (∀ digest, o.wrapState = some digest → (f o).wrapState = some digest) ∧
          ∀ digest, (f o).wrapState = some digest →
            ∃ pin : SourcePin, (f o).sourcePin = some pin ∧ pin.materialDigest = digest) :
    Moves w (setProvider p f w).2 := by
  intro hinv
  refine ⟨⟨fun q o' ho' hrunning digest hdigest => ?_, hinv.used, hinv.consumed, hinv.usedOnce,
    hinv.consumedOnce⟩, ⟨fun q o ho => ?_, fun _ => id, fun h x hx => ⟨x, hx, rfl, id⟩,
    fun k x hx => ⟨x, hx, rfl, id⟩, ⟨[], rfl, nofun⟩⟩⟩
  · obtain ⟨o, ho, rfl⟩ := getElem?_modify_iff.mp ho'
    split_ifs at hrunning hdigest ⊢ with hq
    · subst hq
      rcases hf hinv o ho with hlatched | ⟨-, -, hpin⟩
      · rw [hlatched] at hrunning
        exact nomatch hrunning
      · exact hpin digest hdigest
    · exact hinv.pinned q o ho hrunning digest hdigest
  · refine ⟨_, getElem?_modify_iff.mpr ⟨o, ho, rfl⟩, ?_⟩
    split_ifs with hq
    · subst hq
      rcases hf hinv o ho with hlatched | ⟨hkept, hkey, -⟩
      · exact ⟨fun _ => hlatched, fun _ _ => Or.inr hlatched⟩
      · exact ⟨hkept, fun digest hdigest => Or.inl (hkey digest hdigest)⟩
    · exact ⟨id, fun _ => Or.inl⟩

theorem careful_latchRecovery (p : Nat) (status : SourceStatus) : Careful (latchRecovery p status) :=
  fun _ => moves_setProvider fun _ _ _ => Or.inl rfl

theorem careful_latchUnlatched (p : Nat) (status : SourceStatus) : Careful (latchUnlatched p status) :=
  (careful_provider p).bind fun _ => careful_ite (careful_pure _) (careful_latchRecovery p status)

theorem careful_latchOrPreserveRecovery (p : Nat) (code : SecretFailureCode) :
    Careful (latchOrPreserveRecovery p code) :=
  (careful_provider p).bind fun _ => careful_ite (careful_pure _)
    ((careful_latchRecovery p _).bind fun _ => careful_pure _)

theorem careful_assertDomainUnlatched (p : Nat) (digest : Bytes) : Careful (assertDomainUnlatched p digest) :=
  (careful_stateOf digest).bind fun _ => careful_ite
    ((careful_latchRecovery p _).bind fun _ => careful_stop _) (careful_pure _)

theorem careful_requireReadyState (p : Nat) : Careful (requireReadyState p) :=
  (careful_provider p).bind fun _ => careful_demand _ _

theorem careful_requireReady (p : Nat) : Careful (requireReady p) := by
  refine (careful_provider p).bind fun o => (careful_require _ _).bind fun _ => ?_
  refine (careful_requireReadyState p).bind fun digest => (careful_demand _ _).bind fun pin => ?_
  exact (careful_assertDomainUnlatched p digest).bind fun _ => careful_pure pin

theorem careful_isCurrent (p : Nat) : Careful (isCurrent p) := by
  refine (careful_provider p).bind fun o => careful_ite (careful_pure _) ?_
  split
  · exact careful_pure _
  · exact (careful_stateOf _).bind fun _ => careful_pure _

/-! ### The session -/

theorem careful_latchPinned (p : Nat) (pin : Option SourcePin) (code : SecretFailureCode) :
    Careful (latchPinned p pin code) := careful_ite (careful_latchRecovery p _) (careful_pure _)

theorem careful_latchDifference (p : Nat) (current : SourcePin) (pin : Option SourcePin) :
    Careful (latchDifference p current pin) := by
  cases pin with
  | none => exact careful_pure ()
  | some pin => exact careful_latchRecovery p _

theorem careful_openAgain (p : Nat) (pin : Option SourcePin) (initial : Source)
    (after : Except SecretFailureCode Source) : Careful (openAgain p pin initial after) := by
  cases after with
  | error code => exact (careful_latchRecovery p _).bind fun _ => careful_pure _
  | ok after =>
    refine careful_ite (careful_pure _) ((careful_latchDifference p _ pin).bind fun _ => ?_)
    exact (careful_latchRecovery p _).bind fun _ => careful_pure _

theorem careful_catching {α : Type} {body : Act α} (h : Careful body) : Careful (catching body) :=
  careful_handle (h.bind fun _ => careful_pure _) fun _ => careful_pure _

theorem careful_materialSession {α : Type} {p : Nat} {pin : Option SourcePin} {files : Files}
    {body : Source → Act α} (h : ∀ source, Careful (body source)) :
    Careful (materialSession p pin files body) := by
  unfold materialSession
  cases files.before with
  | error code => exact (careful_latchPinned p pin code).bind fun _ => careful_stop _
  | ok initial =>
    dsimp only
    cases pin.filter (· ≠ initial.pin) with
    | some other => exact (careful_latchRecovery p _).bind fun _ => careful_stop _
    | none =>
      refine (careful_catching (h initial)).bind fun result => ?_
      refine (careful_openAgain p pin initial files.after).bind fun failure => ?_
      cases result with
      | error e => exact careful_stop e
      | ok a =>
        cases failure with
        | some code => exact (careful_latchPinned p pin code).bind fun _ => careful_stop _
        | none => exact careful_ite (careful_pure a) ((careful_latchPinned p pin _).bind fun _ => careful_stop _)

theorem wp_catching {α : Type} {body : Act α} {post : α → Process → Prop} {w : Process}
    (h : wp body post (fun _ _ => True) w) :
    wp (catching body) (fun result w' => ∀ a, result = .ok a → post a w') (fun _ _ => False) w := by
  refine wp_try (wp_seq h (fun a w' ha => ?_) fun e w' he => he) (fun _ _ h => h) fun e w' _ => ?_
  · intro b hb
    rw [← Except.ok.inj hb]
    exact ha
  · exact fun b hb => nomatch hb

/-- The second opening changes nothing where it finds the source as it was. -/
theorem wp_openAgain {p : Nat} {pin : Option SourcePin} {initial : Source}
    {after : Except SecretFailureCode Source} {w : Process} :
    wp (openAgain p pin initial after) (fun failure w' => failure = none → w' = w) (fun _ _ => True) w := by
  cases after with
  | error code => exact wp_seq (wp_true _) (fun _ _ _ h => nomatch h) fun _ _ _ => True.intro
  | ok after =>
    unfold openAgain
    dsimp only
    split_ifs
    · exact fun _ => rfl
    · refine wp_seq (wp_true _) (fun _ _ _ => ?_) fun _ _ _ => True.intro
      exact wp_seq (wp_true _) (fun _ _ _ h => nomatch h) fun _ _ _ => True.intro

/-- What a session returns is what its body returns, with the source that is pinned. -/
theorem wp_materialSession {α : Type} {p : Nat} {pin : Option SourcePin} {files : Files}
    {body : Source → Act α} {post : α → Process → Prop} {w : Process}
    (hbody : ∀ initial, files.before = .ok initial → (∀ π, pin = some π → initial.pin = π) →
      wp (body initial) post (fun _ _ => True) w) :
    wp (materialSession p pin files body) post (fun _ _ => True) w := by
  unfold materialSession
  cases hbefore : files.before with
  | error code => exact wp_seq (wp_true _) (fun _ _ _ => True.intro) fun _ _ _ => True.intro
  | ok initial =>
    dsimp only
    cases hpin : pin.filter (· ≠ initial.pin) with
    | some other => exact wp_seq (wp_true _) (fun _ _ _ => True.intro) fun _ _ _ => True.intro
    | none =>
      have hsame : ∀ π, pin = some π → initial.pin = π := by
        rintro π rfl
        by_contra hne
        rw [Option.filter_some_pos (by simpa using Ne.symm hne)] at hpin
        exact nomatch hpin
      refine wp_seq (wp_catching (hbody initial hbefore hsame)) (fun result w₁ hresult => ?_)
        fun _ _ => False.elim
      refine wp_seq wp_openAgain (fun failure w₂ hfailure => ?_) fun _ _ _ => True.intro
      cases result with
      | error e => exact True.intro
      | ok a =>
        cases failure with
        | some code => exact wp_seq (wp_true _) (fun _ _ _ => True.intro) fun _ _ _ => True.intro
        | none =>
          have hstate : w₂ = w₁ := hfailure rfl
          dsimp only
          split_ifs
          · rw [hstate]
            exact hresult a rfl
          · exact wp_seq (wp_true _) (fun _ _ _ => True.intro) fun _ _ _ => True.intro

/-! ### Readiness -/

theorem careful_recordAuthenticatedSentinel (c : Composition) (digest : Bytes) :
    Careful (recordAuthenticatedSentinel c digest) := by
  have hcreate : Careful (write fun w => { w with
      wrapStates := Elsewhere.apply w.wrapStates (.creates digest c.processWrapLimit) } : Act Unit) :=
    fun _ => Beside.moves ⟨rfl, rfl, rfl, rfl, fun _ => latched_apply _⟩
  refine careful_others.bind fun _ => hcreate.bind fun _ => careful_read.bind fun w => ?_
  refine (careful_demand _ _).bind fun state => (careful_require _ _).bind fun _ => ?_
  refine careful_ite ((careful_setState keepsLatched_latch).bind fun _ => careful_stop _) ?_
  exact careful_setState (keepsLatched_recordSentinel _ _)

/-- A sentinel is not recorded for a key that is latched. -/
theorem wp_recordAuthenticatedSentinel {c : Composition} {digest : Bytes} {w : Process} :
    wp (recordAuthenticatedSentinel c digest)
      (fun _ w' => w'.providers = w.providers ∧ ¬w.DomainLatched digest) (fun _ _ => True) w := by
  unfold recordAuthenticatedSentinel
  have hothers := beside_others w
  refine wp_seq (wp_iff.mpr ⟨fun _ _ => hothers, fun _ _ => hothers⟩) (fun _ w₁ h₁ => ?_)
    fun _ _ _ => True.intro
  refine wp_writing (wp_reading ?_)
  have hlatched : w.DomainLatched digest →
      Latched (Elsewhere.apply w₁.wrapStates (.creates digest c.processWrapLimit)) digest :=
    fun h => latched_apply _ (h₁.domains digest h)
  rw [wp_bind, wp_demand]
  refine ⟨fun state hstate => ?_, fun _ => True.intro⟩
  rw [wp_bind, wp_require]
  refine ⟨fun hrunning => ?_, fun _ => True.intro⟩
  have hnot : ¬w.DomainLatched digest := by
    intro h
    obtain ⟨state', hstate', hlatched'⟩ := hlatched h
    rw [Option.some.inj (hstate'.symm.trans hstate), hrunning] at hlatched'
    exact nomatch hlatched'
  dsimp only
  split_ifs
  · exact True.intro
  · exact ⟨h₁.providers, hnot⟩

theorem careful_authenticate (p : Nat) (c : Composition) (cipherFails : Bool) (source : Source) :
    Careful (authenticate p c cipherFails source) := by
  have hlatch : ∀ status, Careful (latchRecovery p status >>= fun _ =>
      (pure (.inl status) : Act (SourceStatus ⊕ SourcePin))) :=
    fun status => (careful_latchRecovery p status).bind fun _ => careful_pure _
  refine careful_ite (hlatch _) ?_
  split
  · exact hlatch _
  · refine careful_ite (hlatch _) ((careful_recordAuthenticatedSentinel c _).bind fun _ => ?_)
    exact careful_ite (hlatch _) (careful_pure _)

/-- The key is authentic only where it is not latched. -/
theorem wp_authenticate {p : Nat} {c : Composition} {cipherFails : Bool} {source : Source} {w : Process} :
    wp (authenticate p c cipherFails source)
      (fun verdict w' => ∀ snapshot, verdict = .inr snapshot →
        snapshot = source.pin ∧ w'.providers = w.providers ∧ ¬w.DomainLatched snapshot.materialDigest)
      (fun _ _ => True) w := by
  have hlatch : ∀ (status : SourceStatus) (w₁ : Process), wp (latchRecovery p status >>= fun _ =>
      (pure (.inl status) : Act (SourceStatus ⊕ SourcePin)))
      (fun verdict w' => ∀ snapshot, verdict = .inr snapshot →
        snapshot = source.pin ∧ w'.providers = w.providers ∧ ¬w.DomainLatched snapshot.materialDigest)
      (fun _ _ => True) w₁ :=
    fun status w₁ => wp_seq (wp_true _) (fun _ _ _ _ h => nomatch h) fun _ _ _ => True.intro
  unfold authenticate
  dsimp only
  by_cases hfails : cipherFails = true
  · rw [if_pos hfails]
    exact hlatch _ w
  rw [if_neg hfails]
  split
  · exact hlatch _ w
  · next plaintext _ =>
    by_cases hlength : plaintext.length ≠ readinessPlaintext.length
    · rw [if_pos hlength]
      exact hlatch _ w
    rw [if_neg hlength]
    refine wp_seq wp_recordAuthenticatedSentinel (fun _ w₁ h₁ => ?_) fun _ _ _ => True.intro
    by_cases hplain : plaintext ≠ readinessPlaintext
    · rw [if_pos hplain]
      exact hlatch _ w₁
    · rw [if_neg hplain]
      intro snapshot hsnapshot
      obtain rfl := Sum.inr.inj hsnapshot
      exact ⟨rfl, h₁⟩

theorem wp_provider {p : Nat} {w : Process} :
    wp (provider p) (fun o w' => w' = w ∧ w.providers[p]? = some o) (fun _ w' => w' = w) w := by
  refine wp_reading ?_
  rw [wp_demand]
  exact ⟨fun o ho => ⟨rfl, ho⟩, fun _ => rfl⟩

/-- A key is activated at a provider that has none, or that has this one. -/
theorem wp_activateKeyDomain {p : Nat} {snapshot : SourcePin} {shared : Bool} {w : Process}
    (hkey : w.Inv → ∀ o : OwnerFileSecretProvider, w.providers[p]? = some o → o.recoveryLatched = false →
      ∀ digest, o.wrapState = some digest → digest = snapshot.materialDigest) :
    wp (activateKeyDomain p snapshot shared) (fun _ w' => Moves w w') (fun _ w' => Moves w w') w := by
  refine wp_seq wp_provider (fun o w₁ h₁ => ?_) fun _ w₁ h₁ => h₁ ▸ moves_refl w
  rw [h₁.1]
  have hothers := beside_others w
  refine wp_seq (wp_iff.mpr ⟨fun _ _ => hothers, fun _ _ => hothers⟩) (fun _ w₂ h₂ => ?_)
    fun _ _ h => h.moves
  refine wp_reading ?_
  rw [wp_bind, wp_demand]
  refine ⟨fun state _ => ?_, fun _ => h₂.moves⟩
  rw [wp_bind, wp_require]
  refine ⟨fun _ => ?_, fun _ => h₂.moves⟩
  rw [wp_bind, wp_require]
  refine ⟨fun _ => ?_, fun _ => h₂.moves⟩
  rw [wp_bind, wp_require]
  refine ⟨fun _ => ?_, fun _ => h₂.moves⟩
  intro hinv
  obtain ⟨hinv₂, honward⟩ := h₂.moves hinv
  have hset : Moves w₂ (setProvider p (fun o => { o with
      wrapState := some snapshot.materialDigest, sourcePin := some snapshot }) w₂).2 := by
    refine moves_setProvider fun _ o' ho' => ?_
    cases hlatched : o'.recoveryLatched with
    | true => exact Or.inl rfl
    | false =>
      rw [h₂.providers] at ho'
      refine Or.inr ⟨nofun, fun digest hdigest => ?_, fun digest hdigest => ⟨snapshot, rfl, ?_⟩⟩
      · rw [hkey hinv o' ho' hlatched digest hdigest]
      · exact Option.some.inj hdigest
  obtain ⟨hinv', honward'⟩ := hset hinv₂
  exact ⟨hinv', honward.trans honward'⟩

/-- Where the session of `readiness` finds the key authentic, it is the key of the pin, and it is not
latched. -/
structure Authentic (w : Process) (o : OwnerFileSecretProvider) (files : Files) (snapshot : SourcePin) :
    Prop where
  pin : ∀ π, o.sourcePin = some π → snapshot = π
  source : ∃ source, files.before = .ok source ∧ snapshot = source.pin
  running : ¬w.DomainLatched snapshot.materialDigest

theorem wp_authentic {p : Nat} {o : OwnerFileSecretProvider} {files : Files} {cipherFails : Bool} {w : Process} :
    wp (materialSession p o.sourcePin files (authenticate p o.composition cipherFails))
      (fun verdict w' => Moves w w' ∧ ∀ snapshot, verdict = .inr snapshot →
        w'.providers = w.providers ∧ Authentic w o files snapshot)
      (fun _ w' => Moves w w') w := by
  have hcareful : Careful (materialSession p o.sourcePin files (authenticate p o.composition cipherFails)) :=
    careful_materialSession fun source => careful_authenticate p o.composition cipherFails source
  have hknown : wp (materialSession p o.sourcePin files (authenticate p o.composition cipherFails))
      (fun verdict w' => ∀ snapshot, verdict = .inr snapshot →
        w'.providers = w.providers ∧ Authentic w o files snapshot)
      (fun _ _ => True) w := by
    refine wp_materialSession fun initial hbefore hpin => ?_
    refine wp_mono wp_authenticate (fun verdict w' h snapshot hsnapshot => ?_) fun _ _ => id
    obtain ⟨rfl, hproviders, hrunning⟩ := h snapshot hsnapshot
    exact ⟨hproviders, hpin, ⟨initial, hbefore, rfl⟩, hrunning⟩
  obtain ⟨hpost, hhalt⟩ := wp_iff.mp (@Careful.wp _ _ hcareful w)
  exact wp_iff.mpr ⟨fun a ha => ⟨hpost a ha, (wp_iff.mp hknown).1 a ha⟩, hhalt⟩

/-- The provider is not latched, and the key that it finds is authentic. -/
def Process.CanBeReady (w : Process) (p : Nat) (files : Files) : Prop :=
  ∃ o snapshot, w.providers[p]? = some o ∧ o.recoveryLatched = false ∧ Authentic w o files snapshot

/-- What `readiness` answers, and what it makes of the process. -/
theorem wp_readiness {p : Nat} {files : Files} {cipherFails shared : Bool} {w : Process} :
    wp (readiness p files cipherFails shared)
      (fun r w' => Moves w w' ∧ (r.ready = true → w.CanBeReady p files)) (fun _ w' => Moves w w') w := by
  refine wp_seq wp_provider (fun o w₁ ⟨hw₁, ho⟩ => ?_) fun _ _ h => h ▸ moves_refl w
  rw [hw₁]
  by_cases hlatched : o.recoveryLatched = true
  · rw [if_pos hlatched]
    exact ⟨moves_refl w, nofun⟩
  rw [if_neg hlatched]
  have hrunning : o.recoveryLatched = false := Bool.eq_false_of_not_eq_true hlatched
  refine wp_try (wp_seq wp_authentic (fun verdict w₂ ⟨h₂, hauthentic⟩ => ?_) fun _ _ h => h)
    (fun _ _ h => h) fun e w₂ h₂ => ?_
  · cases verdict with
    | inl status => exact ⟨h₂, nofun⟩
    | inr snapshot =>
      obtain ⟨hproviders, ha⟩ := hauthentic snapshot rfl
      have hready : w.CanBeReady p files := ⟨o, snapshot, ho, hrunning, ha⟩
      have hkey : w₂.Inv → ∀ o' : OwnerFileSecretProvider, w₂.providers[p]? = some o' →
          o'.recoveryLatched = false → ∀ digest, o'.wrapState = some digest →
            digest = snapshot.materialDigest := by
        -- the key that the provider has is the one of its pin
        intro hinv o' ho' hrunning' digest hdigest
        obtain ⟨π, hπ, hsame⟩ := hinv.pinned p o' ho' hrunning' digest hdigest
        rw [hproviders, ho] at ho'
        rw [ha.pin π (Option.some.inj ho' ▸ hπ), hsame]
      refine wp_seq (wp_activateKeyDomain hkey) (fun _ w₃ h₃ => ?_) fun _ w₃ h₃ => h₂.trans _ _ _ h₃
      exact ⟨h₂.trans _ _ _ h₃, fun _ => hready⟩
  · cases e with
    | secret code =>
      refine wp_seq (careful_latchOrPreserveRecovery p code).wp (fun status w₃ h₃ => ?_)
        fun _ w₃ h₃ => h₂.trans _ _ _ h₃
      exact ⟨h₂.trans _ _ _ h₃, nofun⟩
    | valueError => exact h₂
    | runtimeError => exact h₂
    | invalidTag => exact h₂
    | missing => exact h₂

/-- A provider that is stopped cannot be ready. -/
theorem Process.Inv.not_ready {w : Process} (hinv : w.Inv) {p : Nat} (hstopped : w.Stopped p) (files : Files) :
    ¬w.CanBeReady p files := by
  rintro ⟨o, snapshot, ho, hrunning, ha⟩
  obtain ⟨o', ho', hlatched⟩ := hstopped
  obtain rfl := Option.some.inj (ho.symm.trans ho')
  rcases hlatched with hlatched | ⟨digest, hdigest, hlatched⟩
  · rw [hrunning] at hlatched
    exact nomatch hlatched
  · obtain ⟨π, hπ, hsame⟩ := hinv.pinned p o ho hrunning digest hdigest
    refine ha.running ?_
    rw [ha.pin π hπ, hsame]
    exact hlatched

theorem careful_readiness (p : Nat) (files : Files) (cipherFails shared : Bool) :
    Careful (readiness p files cipherFails shared) :=
  respects_of_wp fun _ => wp_mono wp_readiness (fun _ _ h => h.1) fun _ _ h => h

theorem careful_sourceStatus (p : Nat) (files : Files) : Careful (sourceStatus p files) := by
  refine (careful_provider p).bind fun o => careful_handle ?_ fun e => ?_
  · cases o.sourcePin with
    | some pin => exact careful_materialSession fun _ => careful_pure _
    | none =>
      dsimp only
      cases files.before with
      | error code => exact careful_stop _
      | ok source => exact careful_ite (careful_pure _) (careful_stop _)
  · cases e with
    | secret code => exact (careful_provider p).bind fun _ => careful_pure _
    | valueError => exact careful_stop _
    | runtimeError => exact careful_stop _
    | invalidTag => exact careful_stop _
    | missing => exact careful_stop _

/-! ### Profile keys -/

theorem wp_stateOf {digest : Bytes} {w : Process} :
    wp (stateOf digest) (fun state w' => Beside w w' ∧ w'.wrapStates.get? digest = some state)
      (fun _ w' => Beside w w') w := by
  have hothers := beside_others w
  refine wp_seq (wp_iff.mpr ⟨fun _ _ => hothers, fun _ _ => hothers⟩) (fun _ w₁ h₁ => wp_reading ?_)
    fun _ _ h => h
  rw [wp_demand]
  exact ⟨fun state hstate => ⟨h₁, hstate⟩, fun _ => h₁⟩

/-- A record that is not latched was not latched before. -/
theorem not_latched {digest : Bytes} {state : WrapState} {w w' : Process} (h : Beside w w')
    (hstate : w'.wrapStates.get? digest = some state) (hrunning : ¬state.nonceReuseLatched = true) :
    ¬w.DomainLatched digest := by
  intro hlatched
  obtain ⟨state', hstate', hlatched'⟩ := h.domains digest hlatched
  obtain rfl := Option.some.inj (hstate'.symm.trans hstate)
  exact hrunning hlatched'

/-- The key is not latched where the clause for its domain returns. -/
theorem wp_assertDomainUnlatched {p : Nat} {digest : Bytes} {w : Process} :
    wp (assertDomainUnlatched p digest) (fun _ _ => ¬w.DomainLatched digest) (fun _ _ => True) w := by
  refine wp_seq wp_stateOf (fun state w₁ ⟨h₁, hstate⟩ => ?_) fun _ _ _ => True.intro
  split_ifs with hlatched
  · exact wp_seq (wp_true _) (fun _ _ _ => True.intro) fun _ _ _ => True.intro
  · exact not_latched h₁ hstate hlatched

theorem wp_requireReadyState {p : Nat} {w : Process} :
    wp (requireReadyState p) (fun digest w' => w' = w ∧
      ∃ o : OwnerFileSecretProvider, w.providers[p]? = some o ∧ o.wrapState = some digest)
      (fun _ _ => True) w := by
  refine wp_seq wp_provider (fun o w₁ ⟨hw₁, ho⟩ => ?_) fun _ _ _ => True.intro
  rw [wp_demand]
  exact ⟨fun digest hdigest => ⟨hw₁, o, ho, hdigest⟩, fun _ => True.intro⟩

theorem not_stopped {p : Nat} {o : OwnerFileSecretProvider} {digest : Bytes} {w : Process}
    (ho : w.providers[p]? = some o) (hrunning : ¬o.recoveryLatched = true) (hdigest : o.wrapState = some digest)
    (hdomain : ¬w.DomainLatched digest) : ¬w.Stopped p := by
  rintro ⟨o', ho', hlatched⟩
  obtain rfl := Option.some.inj (ho.symm.trans ho')
  rcases hlatched with hlatched | ⟨digest', hdigest', hlatched⟩
  · exact hrunning hlatched
  · rw [← Option.some.inj (hdigest.symm.trans hdigest')] at hlatched
    exact hdomain hlatched

/-- A provider that is stopped is not ready for work. -/
theorem wp_requireReady {p : Nat} {w : Process} :
    wp (requireReady p) (fun _ _ => ¬w.Stopped p) (fun _ _ => True) w := by
  refine wp_seq wp_provider (fun o w₁ ⟨hw₁, ho⟩ => ?_) fun _ _ _ => True.intro
  rw [hw₁, wp_bind, wp_require]
  refine ⟨fun hrunning => ?_, fun _ => True.intro⟩
  refine wp_seq wp_requireReadyState (fun digest w₂ ⟨hw₂, o', ho', hdigest⟩ => ?_) fun _ _ _ => True.intro
  obtain rfl := Option.some.inj (ho.symm.trans ho')
  rw [hw₂, wp_bind, wp_demand]
  refine ⟨fun pin _ => ?_, fun _ => True.intro⟩
  refine wp_seq wp_assertDomainUnlatched (fun _ w₃ hdomain => ?_) fun _ _ _ => True.intro
  exact not_stopped ho (by rw [hrunning]; decide) hdigest hdomain

/-- The issuer of an object that is current is not stopped. -/
theorem wp_isCurrent {p : Nat} {w : Process} :
    wp (isCurrent p) (fun accepted w' => Beside w w' ∧ (accepted = true → ¬w'.Stopped p))
      (fun _ w' => Beside w w') w := by
  have hrefl : Beside w w := ⟨rfl, rfl, rfl, rfl, fun _ => id⟩
  refine wp_seq wp_provider (fun o w₁ ⟨hw₁, ho⟩ => ?_) fun _ _ h => h ▸ hrefl
  rw [hw₁]
  by_cases hlatched : o.recoveryLatched = true
  · rw [if_pos hlatched]
    exact ⟨hrefl, nofun⟩
  rw [if_neg hlatched]
  cases hdigest : o.wrapState with
  | none => exact ⟨hrefl, nofun⟩
  | some digest =>
    refine wp_seq wp_stateOf (fun state w₂ ⟨h₂, hstate⟩ => ⟨h₂, fun haccepted => ?_⟩) fun _ _ h => h
    have hrunning : ¬state.nonceReuseLatched = true := by
      rw [(Bool.not_eq_true' _).mp haccepted]
      decide
    refine not_stopped (h₂.providers ▸ ho) hlatched hdigest ?_
    exact not_latched ⟨rfl, rfl, rfl, rfl, fun _ => id⟩ hstate hrunning

theorem careful_reserveNonce (p : Nat) (drawn : Option Nonce) : Careful (reserveNonce p drawn) := by
  refine (careful_requireReadyState p).bind fun digest => (careful_stateOf digest).bind fun state => ?_
  refine (careful_require _ _).bind fun _ => (careful_require _ _).bind fun _ => ?_
  refine (careful_demand _ _).bind fun nonce => careful_ite ?_ ?_
  · exact (careful_setState keepsLatched_latch).bind fun _ => careful_stop _
  · exact (careful_setState (keepsLatched_reserve nonce)).bind fun _ => careful_pure _

/-- An object more. -/
theorem moves_issue {w : Process} (handles : List ProfileDekHandle) (preparations : List ProfileKeyPreparation)
    (providers : List OwnerFileSecretProvider)
    (hproviders : ∀ o ∈ providers, o.wrapState = none) :
    Moves w { w with
      providers := w.providers ++ providers
      handles := w.handles ++ handles
      preparations := w.preparations ++ preparations } := by
  have hkept : ∀ {α : Type} {l l' : List α} {i : Nat} {a : α}, l[i]? = some a → (l ++ l')[i]? = some a := by
    intro α l l' i a h
    rw [List.getElem?_append_left (List.getElem?_eq_some_iff.mp h).1, h]
  intro hinv
  refine ⟨⟨fun p o ho hrunning digest hdigest => ?_, fun h hused => ?_, fun k hconsumed => ?_, hinv.usedOnce,
    hinv.consumedOnce⟩, ⟨fun p o ho => ⟨o, hkept ho, id, fun _ => Or.inl⟩, fun _ => id,
    fun h x hx => ⟨x, hkept hx, rfl, id⟩, fun k x hx => ⟨x, hkept hx, rfl, id⟩, ⟨[], rfl, nofun⟩⟩⟩
  · have h := List.getElem?_append.symm.trans ho
    split_ifs at h with hp
    · exact hinv.pinned p o h hrunning digest hdigest
    · rw [hproviders o (List.mem_of_getElem? h)] at hdigest
      exact nomatch hdigest
  · obtain ⟨x, hx, hmark⟩ := hinv.used h hused
    exact ⟨x, hkept hx, hmark⟩
  · obtain ⟨x, hx, hmark⟩ := hinv.consumed k hconsumed
    exact ⟨x, hkept hx, hmark⟩

theorem careful_write {f : Process → Process} (h : ∀ w, Moves w (f w)) : Careful (write f : Act Unit) := h

theorem careful_prepareProfileKey (p : Nat) (binding : ProfileKeyBinding) (files : Files)
    (drawn : Option Nonce) : Careful (prepareProfileKey p binding files drawn) := by
  refine (careful_provider p).bind fun o => (careful_require _ _).bind fun _ => ?_
  refine (careful_requireReady p).bind fun pin => ?_
  refine (careful_materialSession fun _ => careful_reserveNonce p drawn).bind fun nonce => ?_
  refine (careful_requireReadyState p).bind fun digest => ?_
  refine (careful_assertDomainUnlatched p digest).bind fun _ => careful_read.bind fun w => ?_
  refine (careful_write fun w => ?_).bind fun _ => careful_pure _
  have hissue := moves_issue (w := w) [] [{ issuer := p, binding, nonce }] [] nofun
  rwa [List.append_nil, List.append_nil] at hissue

theorem wp_prepareProfileKey {p : Nat} {binding : ProfileKeyBinding} {files : Files} {drawn : Option Nonce}
    {w : Process} :
    wp (prepareProfileKey p binding files drawn) (fun _ _ => ¬w.Stopped p) (fun _ _ => True) w := by
  refine wp_seq wp_provider (fun o w₁ ⟨hw₁, ho⟩ => ?_) fun _ _ _ => True.intro
  rw [hw₁, wp_bind, wp_require]
  refine ⟨fun _ => ?_, fun _ => True.intro⟩
  refine wp_seq wp_requireReady (fun pin w₂ hrunning => ?_) fun _ _ _ => True.intro
  exact wp_mono (wp_true _) (fun _ _ _ => hrunning) fun _ _ => id

/-- An element of a list of which one element is changed. -/
theorem exists_of_modify {α : Type} {l : List α} {f : α → α} {i j : Nat} {a : α} {r : α → α → Prop}
    (h : l[j]? = some a) (hf : r a (f a)) (hrefl : r a a) : ∃ b, (l.modify i f)[j]? = some b ∧ r a b := by
  refine ⟨_, getElem?_modify_iff.mpr ⟨a, h, rfl⟩, ?_⟩
  split_ifs
  · exact hf
  · exact hrefl

/-- Marks of objects that are used or consumed. -/
theorem moves_marks {w : Process} {handles : List ProfileDekHandle} {preparations : List ProfileKeyPreparation}
    (hhandle : ∀ (i : Nat) (x : ProfileDekHandle), w.handles[i]? = some x →
      ∃ x' : ProfileDekHandle, handles[i]? = some x' ∧ x'.issuer = x.issuer ∧ (x.used = true → x'.used = true))
    (hpreparation : ∀ (i : Nat) (x : ProfileKeyPreparation), w.preparations[i]? = some x →
      ∃ x' : ProfileKeyPreparation, preparations[i]? = some x' ∧ x'.issuer = x.issuer ∧
        (x.consumed = true → x'.consumed = true)) :
    Moves w { w with handles, preparations } := by
  intro hinv
  refine ⟨⟨hinv.pinned, fun i hused => ?_, fun i hconsumed => ?_, hinv.usedOnce, hinv.consumedOnce⟩,
    ⟨fun p o ho => ⟨o, ho, id, fun _ => Or.inl⟩, fun _ => id, hhandle, hpreparation, ⟨[], rfl, nofun⟩⟩⟩
  · obtain ⟨x, hx, hmark⟩ := hinv.used i hused
    obtain ⟨x', hx', -, hkept⟩ := hhandle i x hx
    exact ⟨x', hx', hkept hmark⟩
  · obtain ⟨x, hx, hmark⟩ := hinv.consumed i hconsumed
    obtain ⟨x', hx', -, hkept⟩ := hpreparation i x hx
    exact ⟨x', hx', hkept hmark⟩

theorem moves_setHandle {w : Process} {h : Nat} {f : ProfileDekHandle → ProfileDekHandle}
    (hf : ∀ x, (f x).issuer = x.issuer ∧ (x.used = true → (f x).used = true)) : Moves w (setHandle h f w).2 :=
  moves_marks
    (fun _ x hx => exists_of_modify (r := fun x x' : ProfileDekHandle => x'.issuer = x.issuer ∧
      (x.used = true → x'.used = true)) hx (hf x) ⟨rfl, id⟩)
    fun _ x hx => ⟨x, hx, rfl, id⟩

/-- The event concerns an object that is marked, and it has not happened yet. -/
def Process.Fresh (w : Process) : Event → Prop
  | .entered _ => True
  | .used h => .used h ∉ w.history ∧ ∃ x : ProfileDekHandle, w.handles[h]? = some x ∧ x.used = true
  | .consumed k => .consumed k ∉ w.history ∧
      ∃ x : ProfileKeyPreparation, w.preparations[k]? = some x ∧ x.consumed = true

/-- An event of an object whose issuer is not stopped. -/
theorem moves_note {w : Process} {e : Event} {p : Nat} (hissued : w.IssuedBy p e) (hrunning : ¬w.Stopped p)
    (hfresh : w.Inv → w.Fresh e) : Moves w (note e w).2 := by
  intro hinv
  have hcount : ∀ e', w.history.count e' ≤ 1 → (e' = e → e ∉ w.history) → (e :: w.history).count e' ≤ 1 := by
    intro e' hle hnew
    rw [List.count_cons]
    split_ifs with heq
    · have he : e = e' := beq_iff_eq.mp heq
      rw [← he, List.count_eq_zero.mpr (hnew he.symm)]
    · exact hle
  have hfresh' := hfresh hinv
  refine ⟨⟨hinv.pinned, fun h hused => ?_, fun k hconsumed => ?_, fun h => ?_, fun k => ?_⟩,
    ⟨fun p o ho => ⟨o, ho, id, fun _ => Or.inl⟩, fun _ => id, fun h x hx => ⟨x, hx, rfl, id⟩,
      fun k x hx => ⟨x, hx, rfl, id⟩, ⟨[e], rfl, fun e' he' => ?_⟩⟩⟩
  · rcases List.mem_cons.mp hused with rfl | hused
    · exact hfresh'.2
    · exact hinv.used h hused
  · rcases List.mem_cons.mp hconsumed with rfl | hconsumed
    · exact hfresh'.2
    · exact hinv.consumed k hconsumed
  · refine hcount _ (hinv.usedOnce h) ?_
    rintro rfl
    exact hfresh'.1
  · refine hcount _ (hinv.consumedOnce k) ?_
    rintro rfl
    exact hfresh'.1
  · obtain rfl := List.mem_singleton.mp he'
    exact ⟨p, hissued, hrunning⟩

theorem careful_consume (p k : Nat) : Careful (consume p k) := by
  refine respects_of_wp fun w => wp_reading ?_
  rw [wp_bind, wp_demand]
  refine ⟨fun x hx => ?_, fun _ => moves_refl w⟩
  rw [wp_bind, wp_require]
  refine ⟨fun hnew => ?_, fun _ => moves_refl w⟩
  refine wp_writing ?_
  generalize hw₁ : { w with preparations := w.preparations.modify k fun x => { x with consumed := true } } = w₁
  have h₁ : Moves w w₁ := by
    rw [← hw₁]
    refine moves_marks (fun _ x hx => ⟨x, hx, rfl, id⟩) fun _ x hx => ?_
    exact exists_of_modify (r := fun x x' : ProfileKeyPreparation => x'.issuer = x.issuer ∧
      (x.consumed = true → x'.consumed = true)) hx ⟨rfl, fun _ => rfl⟩ ⟨rfl, id⟩
  have hmarked : w₁.preparations[k]? = some { x with consumed := true } := by
    rw [← hw₁]
    exact getElem?_modify_iff.mpr ⟨x, hx, if_pos rfl⟩
  rw [wp_bind, wp_require]
  refine ⟨fun _ => ?_, fun _ => h₁⟩
  refine wp_seq wp_isCurrent (fun accepted w₂ ⟨h₂, hrunning⟩ => ?_) fun _ _ h₂ => h₁.trans _ _ _ h₂.moves
  rw [wp_bind, wp_require]
  refine ⟨fun haccepted => ?_, fun _ => h₁.trans _ _ _ h₂.moves⟩
  refine wp_writing ?_
  intro hinv
  have hnot : .consumed k ∉ w₂.history := by
    intro hmem
    rw [h₂.history, ← hw₁] at hmem
    obtain ⟨x', hx', hconsumed⟩ := hinv.consumed k hmem
    rw [Option.some.inj (hx'.symm.trans hx), hnew] at hconsumed
    exact nomatch hconsumed
  have hpreparation : w₂.preparations[k]? = some { x with consumed := true } := h₂.preparations ▸ hmarked
  have h₃ : Moves w₂ (note (.consumed k) w₂).2 :=
    moves_note ⟨_, hpreparation, rfl⟩ (hrunning haccepted) fun _ => ⟨hnot, _, hpreparation, rfl⟩
  exact (h₁.trans _ _ _ (h₂.moves.trans _ _ _ h₃)) hinv

/-- What `complete_profile_key` makes of a failure to consume. -/
theorem careful_consumed (p k : Nat) : Careful (handle (consume p k) fun
    | .runtimeError => stop (.secret .malformedRecord)
    | e => stop e) := by
  refine careful_handle (careful_consume p k) fun e => ?_
  cases e with
  | runtimeError => exact careful_stop _
  | secret code => exact careful_stop _
  | valueError => exact careful_stop _
  | invalidTag => exact careful_stop _
  | missing => exact careful_stop _

theorem careful_completeProfileKey (p k : Nat) (files : Files) (generated : Option Provider.ProfileDek)
    (cipherFails : Bool) : Careful (completeProfileKey p k files generated cipherFails) := by
  refine (careful_consumed p k).bind fun ⟨binding, nonce⟩ => (careful_requireReady p).bind fun pin => ?_
  refine (careful_provider p).bind fun o => (careful_demand _ _).bind fun dek => ?_
  refine (careful_materialSession fun _ => careful_demand _ _).bind fun envelope => ?_
  refine (careful_requireReadyState p).bind fun digest => ?_
  exact (careful_assertDomainUnlatched p digest).bind fun _ => careful_pure _

theorem wp_completeProfileKey {p k : Nat} {files : Files} {generated : Option Provider.ProfileDek}
    {cipherFails : Bool} {w : Process} (hinv : w.Inv) :
    wp (completeProfileKey p k files generated cipherFails) (fun _ _ => ¬w.Stopped p) (fun _ _ => True) w := by
  refine wp_seq (careful_consumed p k).wp (fun ⟨binding, nonce⟩ w₁ h₁ => ?_) fun _ _ _ => True.intro
  refine wp_seq wp_requireReady (fun pin w₂ hrunning => ?_) fun _ _ _ => True.intro
  have hnot : ¬w.Stopped p := fun h => hrunning ((h₁ hinv).2.stopped h)
  exact wp_mono (wp_true _) (fun _ _ _ => hnot) fun _ _ => id

theorem careful_unwrap (wrapped : WrappedProfileKey) (aad : Bytes) (cipherFails : Bool) (source : Source) :
    Careful (unwrap wrapped aad cipherFails source) := by
  refine careful_ite (careful_stop _) ?_
  split
  · exact careful_stop _
  · exact (careful_require _ _).bind fun _ => careful_pure _

theorem careful_unwrapProfileKey (p : Nat) (wrapped : WrappedProfileKey) (expected : ProfileKeyBinding)
    (files : Files) (cipherFails : Bool) :
    Careful (unwrapProfileKey p wrapped expected files cipherFails) := by
  refine (careful_provider p).bind fun o => (careful_require _ _).bind fun _ => ?_
  refine (careful_requireReady p).bind fun pin => Careful.bind ?_ fun plaintext => ?_
  · refine careful_handle (careful_materialSession fun source => careful_unwrap _ _ _ source) fun e => ?_
    cases e with
    | invalidTag => exact (careful_latchUnlatched p _).bind fun _ => careful_stop _
    | secret code => exact careful_stop _
    | valueError => exact careful_stop _
    | runtimeError => exact careful_stop _
    | missing => exact careful_stop _
  · refine (careful_requireReadyState p).bind fun digest => ?_
    refine (careful_assertDomainUnlatched p digest).bind fun _ => careful_read.bind fun w => ?_
    refine (careful_write fun w => ?_).bind fun _ => careful_pure _
    have hissue := moves_issue (w := w) [{ issuer := p, material := plaintext }] [] [] nofun
    rwa [List.append_nil, List.append_nil] at hissue

theorem wp_unwrapProfileKey {p : Nat} {wrapped : WrappedProfileKey} {expected : ProfileKeyBinding}
    {files : Files} {cipherFails : Bool} {w : Process} :
    wp (unwrapProfileKey p wrapped expected files cipherFails) (fun _ _ => ¬w.Stopped p)
      (fun _ _ => True) w := by
  refine wp_seq wp_provider (fun o w₁ ⟨hw₁, ho⟩ => ?_) fun _ _ _ => True.intro
  rw [hw₁, wp_bind, wp_require]
  refine ⟨fun _ => ?_, fun _ => True.intro⟩
  refine wp_seq wp_requireReady (fun pin w₂ hrunning => ?_) fun _ _ _ => True.intro
  exact wp_mono (wp_true _) (fun _ _ _ => hrunning) fun _ _ => id

/-! ### Handles -/

/-- A handle that is accepted is there, and its issuer is not stopped. -/
theorem wp_assertIssuer {x : ProfileDekHandle} {w : Process} :
    wp (assertIssuer x) (fun _ w' => Beside w w' ∧ ¬w'.Stopped x.issuer) (fun _ w' => Beside w w') w := by
  have hrefl : Beside w w := ⟨rfl, rfl, rfl, rfl, fun _ => id⟩
  unfold assertIssuer
  rw [wp_bind, wp_require]
  refine ⟨fun _ => ?_, fun _ => hrefl⟩
  refine wp_seq wp_isCurrent (fun accepted w₁ ⟨h₁, hrunning⟩ => ?_) fun _ _ h => h
  rw [wp_require]
  exact ⟨fun haccepted => ⟨h₁, hrunning haccepted⟩, fun _ => h₁⟩

/-- A mark at a handle that is accepted, and the event that goes with it. -/
theorem careful_marked {h : Nat} {c : ProfileDekHandle → Prop} [DecidablePred c]
    {f : ProfileDekHandle → ProfileDekHandle} {e : Event}
    (hf : ∀ x, (f x).issuer = x.issuer ∧ (x.used = true → (f x).used = true))
    (hissued : ∀ (w : Process) (x : ProfileDekHandle), w.handles[h]? = some x → w.IssuedBy x.issuer e)
    (hfresh : ∀ (w w' : Process) (x : ProfileDekHandle), w.Inv → w.handles[h]? = some x → c x →
      w'.handles[h]? = some (f x) → w'.history = w.history → w'.Fresh e) :
    Careful (handleOf h >>= fun x => assertIssuer x >>= fun _ => require (c x) .runtimeError >>= fun _ =>
      setHandle h f >>= fun _ => note e) := by
  refine respects_of_wp fun w => ?_
  have hhandle : wp (handleOf h) (fun x w' => w' = w ∧ w.handles[h]? = some x) (fun _ w' => w' = w) w := by
    refine wp_reading ?_
    rw [wp_demand]
    exact ⟨fun x hx => ⟨rfl, hx⟩, fun _ => rfl⟩
  refine wp_seq hhandle (fun x w₁ ⟨hw₁, hx⟩ => ?_) fun _ _ hw₁ => hw₁ ▸ moves_refl w
  rw [hw₁]
  refine wp_seq wp_assertIssuer (fun _ w₂ ⟨h₂, hrunning⟩ => ?_) fun _ _ h₂ => h₂.moves
  rw [wp_bind, wp_require]
  refine ⟨fun hc => ?_, fun _ => h₂.moves⟩
  have hx₂ : w₂.handles[h]? = some x := h₂.handles ▸ hx
  refine wp_writing ?_
  intro hinv
  obtain ⟨hinv₂, -⟩ := h₂.moves hinv
  have h₃ : Moves w₂ (setHandle h f w₂).2 := moves_setHandle hf
  have hx₃ : (setHandle h f w₂).2.handles[h]? = some (f x) :=
    getElem?_modify_iff.mpr ⟨x, hx₂, if_pos rfl⟩
  have hrunning₃ : ¬(setHandle h f w₂).2.Stopped (f x).issuer := by
    rw [(hf x).1]
    exact hrunning
  have h₄ : Moves (setHandle h f w₂).2 (note e (setHandle h f w₂).2).2 :=
    moves_note (hissued _ _ hx₃) hrunning₃ fun _ => hfresh w₂ _ x hinv₂ hx₂ hc hx₃ rfl
  exact (h₂.moves.trans _ _ _ (h₃.trans _ _ _ h₄)) hinv

theorem careful_enter (h : Nat) : Careful (enter h) :=
  careful_marked (fun _ => ⟨rfl, id⟩) (fun _ x hx => ⟨x, hx, rfl⟩) fun _ _ _ _ _ _ _ _ => True.intro

theorem careful_use (h : Nat) : Careful (use h) := by
  refine careful_marked (fun _ => ⟨rfl, fun _ => rfl⟩) (fun _ x hx => ⟨x, hx, rfl⟩) ?_
  intro w w' x hinv hx hc hx' hhistory
  refine ⟨fun hmem => ?_, _, hx', rfl⟩
  rw [hhistory] at hmem
  obtain ⟨y, hy, hused⟩ := hinv.used h hmem
  rw [Option.some.inj (hy.symm.trans hx), hc.2] at hused
  exact nomatch hused

theorem careful_close (h : Nat) : Careful (close h) := by
  refine fun w => moves_setHandle fun x => ?_
  split_ifs
  · exact ⟨rfl, id⟩
  · exact ⟨rfl, id⟩

theorem careful_new (c : Composition) (isSeparate isTaken : Bool) : Careful (new c isSeparate isTaken) := by
  refine careful_read.bind fun w => ?_
  split_ifs with hvalid
  · refine (careful_require _ _).bind fun _ => (careful_require _ _).bind fun _ => ?_
    refine (careful_write fun w => ?_).bind fun _ => careful_pure _
    have hissue := moves_issue (w := w) [] [] [{ composition := c, valid := hvalid }] fun o ho => by
      rw [List.mem_singleton.mp ho]
    rwa [List.append_nil, List.append_nil] at hissue
  · exact careful_stop _

/-! ### Runs -/

theorem careful_call (c : Call) : Careful (call c) := by
  have hmap : ∀ {α : Type} {m : Act α} (f : α → Reply), Careful m → Careful (f <$> m) :=
    fun f hm => hm.bind fun _ => careful_pure _
  cases c with
  | new composition isSeparate isTaken => exact hmap _ (careful_new composition isSeparate isTaken)
  | sourceStatus p files => exact hmap _ (careful_sourceStatus p files)
  | readiness p files cipherFails shared => exact hmap _ (careful_readiness p files cipherFails shared)
  | prepare p binding files drawn => exact hmap _ (careful_prepareProfileKey p binding files drawn)
  | complete p k files generated cipherFails =>
    exact hmap _ (careful_completeProfileKey p k files generated cipherFails)
  | unwrap p wrapped expected files cipherFails =>
    exact hmap _ (careful_unwrapProfileKey p wrapped expected files cipherFails)
  | enter h => exact hmap _ (careful_enter h)
  | use h => exact hmap _ (careful_use h)
  | useEnds h => exact hmap _ (careful_close h)
  | close h => exact hmap _ (careful_close h)
  | others => exact hmap _ careful_others

/-- The provider whose `prepare_profile_key`, `complete_profile_key`, `unwrap_profile_key` or `readiness`
is called. -/
def Call.provider : Call → Option Nat
  | .readiness p _ _ _ | .prepare p _ _ _ | .complete p _ _ _ _ | .unwrap p _ _ _ _ => some p
  | _ => none

/-- The call returns something of the key, or it says that the key is ready. -/
def Reply.Gives : Reply → Prop
  | .preparation _ | .wrapped _ | .handle _ => True
  | .readiness r => r.ready = true
  | _ => False

/-- A provider that is stopped gives nothing away. -/
theorem gives_running {w : Process} (hinv : w.Inv) {c : Call} {p : Nat} (hp : c.provider = some p)
    (hstopped : w.Stopped p) {r : Reply} (hr : (step w c).1 = .ok r) : ¬r.Gives := by
  have hmap : ∀ {α : Type} {m : Act α} (f : α → Reply), wp m (fun a _ => ¬(f a).Gives) (fun _ _ => True) w →
      wp (f <$> m) (fun r _ => ¬r.Gives) (fun _ _ => True) w :=
    fun f hm => wp_seq hm (fun _ _ h => h) fun _ _ => id
  have hnone : ∀ {α : Type} {m : Act α} (f : α → Reply), wp m (fun _ _ => ¬w.Stopped p) (fun _ _ => True) w →
      wp (f <$> m) (fun r _ => ¬r.Gives) (fun _ _ => True) w :=
    fun f hm => hmap f (wp_mono hm (fun _ _ h => absurd hstopped h) fun _ _ => id)
  have hcall : wp (call c) (fun r _ => ¬r.Gives) (fun _ _ => True) w := by
    cases c with
    | readiness q files cipherFails shared =>
      obtain rfl := Option.some.inj hp
      refine hmap _ (wp_mono wp_readiness (fun r _ h hready => ?_) fun _ _ _ => True.intro)
      exact hinv.not_ready hstopped files (h.2 hready)
    | prepare q binding files drawn =>
      obtain rfl := Option.some.inj hp
      exact hnone _ wp_prepareProfileKey
    | complete q k files generated cipherFails =>
      obtain rfl := Option.some.inj hp
      exact hnone _ (wp_completeProfileKey hinv)
    | unwrap q wrapped expected files cipherFails =>
      obtain rfl := Option.some.inj hp
      exact hnone _ wp_unwrapProfileKey
    | new composition isSeparate isTaken => exact nomatch hp
    | sourceStatus q files => exact nomatch hp
    | enter h => exact nomatch hp
    | use h => exact nomatch hp
    | useEnds h => exact nomatch hp
    | close h => exact nomatch hp
    | others => exact nomatch hp
  exact (wp_iff.mp hcall).1 r hr

theorem inv_empty (elsewhere : List (List Elsewhere)) : Process.Inv { elsewhere } :=
  ⟨nofun, nofun, nofun, fun _ => Nat.zero_le _, fun _ => Nat.zero_le _⟩

theorem run_moves (w : Process) (calls : List Call) : Moves w (run step w calls) :=
  run_relation (v := fun _ => True) moves_refl (fun a b c h h' => Moves.trans a b c h h')
    (fun w c _ => ⟨True.intro, careful_call c w⟩) calls True.intro

theorem issuer_unique {w : Process} {p q : Nat} {e : Event} (hp : w.IssuedBy p e) (hq : w.IssuedBy q e) :
    p = q := by
  cases e with
  | entered h =>
    obtain ⟨x, hx, rfl⟩ := hp
    obtain ⟨y, hy, rfl⟩ := hq
    rw [Option.some.inj (hx.symm.trans hy)]
  | used h =>
    obtain ⟨x, hx, rfl⟩ := hp
    obtain ⟨y, hy, rfl⟩ := hq
    rw [Option.some.inj (hx.symm.trans hy)]
  | consumed k =>
    obtain ⟨x, hx, rfl⟩ := hp
    obtain ⟨y, hy, rfl⟩ := hq
    rw [Option.some.inj (hx.symm.trans hy)]

/-- A key that is latched is not ready at any provider. -/
theorem not_ready_latched {w : Process} {q : Nat} {files : Files} {source : Source}
    (hbefore : files.before = .ok source) (hlatched : w.DomainLatched (Sha256.digest source.material)) :
    ¬w.CanBeReady q files := by
  rintro ⟨o, snapshot, -, -, ha⟩
  obtain ⟨source', hbefore', rfl⟩ := ha.source
  rw [← Except.ok.inj (hbefore.symm.trans hbefore')] at ha
  exact ha.running hlatched

/-- After any calls, a provider that has latched recovery, or whose key has latched the reuse of a nonce,
gives nothing away in any later call, and no object of it is entered, used or consumed any more. A key that
is latched stops all its providers, and is ready at none. And an object is used, or consumed, once. -/
theorem latched_for_good (elsewhere : List (List Elsewhere)) (calls later : List Call) :
    let w := run step { elsewhere } calls
    let w' := run step w later
    (∀ p, w.Stopped p →
      (∀ c r, c.provider = some p → (step w' c).1 = .ok r → ¬r.Gives) ∧
        ∃ new, w'.history = new ++ w.history ∧ ∀ e ∈ new, ¬w'.IssuedBy p e) ∧
    (∀ digest, w.DomainLatched digest →
      (∀ (q : Nat) (o : OwnerFileSecretProvider), w'.providers[q]? = some o → o.wrapState = some digest →
        w'.Stopped q) ∧
      ∀ q files cipherFails shared source r, files.before = .ok source →
        Sha256.digest source.material = digest →
          (step w' (.readiness q files cipherFails shared)).1 = .ok r → ¬r.Gives) ∧
    (∀ h, w.history.count (.used h) ≤ 1) ∧ ∀ k, w.history.count (.consumed k) ≤ 1 := by
  intro w w'
  obtain ⟨hinv, -⟩ := run_moves { elsewhere } calls (inv_empty elsewhere)
  obtain ⟨hinv', honward⟩ := run_moves w later hinv
  refine ⟨fun p hstopped => ⟨fun c r hp hr => ?_, ?_⟩, fun digest hlatched => ⟨fun q o ho hdigest => ?_, ?_⟩,
    hinv.usedOnce, hinv.consumedOnce⟩
  · exact gives_running hinv' hp (honward.stopped hstopped) hr
  · obtain ⟨new, hnew, hissued⟩ := honward.history
    refine ⟨new, hnew, fun e he hp => ?_⟩
    obtain ⟨q, hq, hrunning⟩ := hissued e he
    rw [issuer_unique hq hp] at hrunning
    exact hrunning hstopped
  · exact ⟨o, ho, Or.inr ⟨digest, hdigest, honward.domains digest hlatched⟩⟩
  · rintro q files cipherFails shared source r hbefore rfl hr hgives
    have hready : wp (call (.readiness q files cipherFails shared)) (fun r _ => r.Gives → w'.CanBeReady q files)
        (fun _ _ => True) w' :=
      wp_seq wp_readiness (fun _ _ h => h.2) fun _ _ _ => True.intro
    exact not_ready_latched hbefore (honward.domains _ hlatched) ((wp_iff.mp hready).1 r hr hgives)

end MyCogni.Keys.OwnerFile
