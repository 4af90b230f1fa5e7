import MyCogni.Keys.Ledger
import MyCogni.Keys.Service

/-! Calls that neither encrypt nor publish: whatever else they do, the ledger only grows. -/

namespace MyCogni.Keys
open Auth Command

structure Quiet (n n' : Node) : Prop where
  encryptions : n'.encryptions = n.encryptions
  published : n'.published = n.published
  wrapped : n'.durable.wrapped = n.durable.wrapped
  grows : Extends n.durable n'.durable
  wellFormed : WellFormed n.durable → WellFormed n'.durable

namespace Quiet

theorem refl (n : Node) : Quiet n n := ⟨rfl, rfl, rfl, .refl _, fun h => h⟩

theorem trans {n n' n'' : Node} (h : Quiet n n') (h' : Quiet n' n'') : Quiet n n'' where
  encryptions := h'.encryptions.trans h.encryptions
  published := h'.published.trans h.published
  wrapped := h'.wrapped.trans h.wrapped
  grows := h.grows.trans h'.grows
  wellFormed hw := h'.wellFormed (h.wellFormed hw)

/-- The process changes, the disk does not. -/
theorem of_same {n n' : Node} (hencryptions : n'.encryptions = n.encryptions)
    (hpublished : n'.published = n.published) (hdurable : n'.durable = n.durable) : Quiet n n' where
  encryptions := hencryptions
  published := hpublished
  wrapped := by rw [hdurable]
  grows := by rw [hdurable]; exact .refl _
  wellFormed hw := by rwa [hdurable]

end Quiet

section Commands
variable {α β : Type}

def Still (c : Act α) : Prop := Respects Quiet c

theorem Still.bind {c : Act α} {f : α → Act β} (hc : Still c) (hf : ∀ a, Still (f a)) :
    Still (c >>= f) :=
  Respects.bind (fun _ _ _ h h' => h.trans h') hc hf

theorem still_read : Still (read : Act Node) := respects_read Quiet.refl

theorem still_pure (a : α) : Still (pure a : Act α) := respects_pure Quiet.refl a

theorem still_stop (e : Fault) : Still (stop e : Act α) := respects_stop Quiet.refl e

theorem still_require (c : Prop) [Decidable c] (e : Fault) : Still (require c e : Act Unit) :=
  respects_require Quiet.refl c e

theorem still_demand (o : Option α) (e : Fault) : Still (demand o e : Act α) :=
  respects_demand Quiet.refl o e

theorem still_write {f : Node → Node} (hencryptions : ∀ n, (f n).encryptions = n.encryptions)
    (hpublished : ∀ n, (f n).published = n.published) (hdurable : ∀ n, (f n).durable = n.durable) :
    Still (write f : Act Unit) :=
  respects_write fun n => .of_same (hencryptions n) (hpublished n) (hdurable n)

theorem still_ite {p : Prop} [Decidable p] {c c' : Act α} (hc : Still c) (hc' : Still c') :
    Still (if p then c else c') := by
  split_ifs
  · exact hc
  · exact hc'

/-- The rule of pre- and postconditions for a call that is still. -/
theorem Still.wp {c : Act α} (hc : Still c) (n : Node) :
    wp c (fun _ n' => Quiet n n') (fun _ n' => Quiet n n') n :=
  wp_iff.mpr ⟨fun _ _ => hc n, fun _ _ => hc n⟩

theorem still_of_wp {c : Act α}
    (h : ∀ n, wp c (fun _ => Quiet n) (fun _ => Quiet n) n) : Still c := respects_of_wp h

/-- A still call before the rest, with what no still call takes back. -/
theorem Still.wp_bind {c : Act β} {f : β → Act α} (hc : Still c) {n : Node} {p : Node → Prop}
    {post : α → Node → Prop} {halt : Fault → Node → Prop}
    (hp : ∀ n n', Quiet n n' → p n → p n') (hn : p n) (hhalt : ∀ e n', p n' → halt e n')
    (hf : ∀ b n', p n' → Command.wp (f b) post halt n') : Command.wp (c >>= f) post halt n := by
  rw [Command.wp_bind]
  exact wp_mono (hc.wp n) (fun b n' h => hf b n' (hp n n' h hn)) fun e n' h =>
    hhalt e n' (hp n n' h hn)

end Commands

/-! ### The provider -/

namespace Provider

theorem live_still : Still live := still_read.bind fun _ => still_demand _ _

theorem latchRecovery_still : Still latchRecovery :=
  still_write (fun _ => rfl) (fun _ => rfl) fun _ => rfl

theorem latchNonceReuse_still : Still latchNonceReuse :=
  still_write (fun _ => rfl) (fun _ => rfl) fun _ => rfl

section Session
variable {α : Type} {body : Act α} {n n' : Node} {code : SecretFailureCode}

theorem session_after_ok {a : α} (h : body n = (.ok a, n')) :
    session (.failsAfter code) body n = (.error (.secret code), (latchRecovery n').2) := by
  unfold session
  simp only [h]
  rfl

theorem session_after_error {e : Fault} (h : body n = (.error e, n')) :
    session (.failsAfter code) body n = (.error e, (latchRecovery n').2) := by
  unfold session
  simp only [h]
  rfl

/-- A session around work that keeps `p`, when giving up keeps it too. -/
theorem wp_session {p : Node → Prop} {post : α → Node → Prop} (source : Session)
    (hp : ∀ n n', Quiet n n' → p n → p n') (hn : p n) (hbody : wp body post (fun _ => p) n)
    (hpost : ∀ a n', post a n' → p n') : wp (session source body) post (fun _ => p) n := by
  have hlatch : ∀ n, p n → p (latchRecovery n).2 := fun n hn => hp _ _ (latchRecovery_still n) hn
  cases source with
  | opens => exact hbody
  | failsBefore code => exact hlatch n hn
  | failsAfter code =>
    unfold wp at hbody ⊢
    rcases h : body n with ⟨e | a, n'⟩
    · rw [h] at hbody
      rw [session_after_error h]
      exact hlatch n' hbody
    · rw [h] at hbody
      rw [session_after_ok h]
      exact hlatch n' (hpost a n' hbody)

theorem session_still (source : Session) (hbody : Still body) : Still (session source body) := by
  refine still_of_wp fun n => ?_
  exact wp_session source (fun _ _ h h' => h'.trans h) (.refl n) (hbody.wp n) fun _ _ h => h

end Session

theorem recordAuthenticatedSentinel_still (p : Provider) : Still (recordAuthenticatedSentinel p) := by
  refine Still.bind (still_write (fun _ => rfl) (fun _ => rfl) fun _ => rfl) fun _ =>
    still_read.bind fun n => (still_demand _ _).bind fun w => (still_require _ _).bind fun _ => ?_
  refine still_ite (latchNonceReuse_still.bind fun _ => still_stop _) ?_
  exact still_write (fun _ => rfl) (fun _ => rfl) fun _ => rfl

theorem activateKeyDomain_still (p : Provider) (shared : Bool) :
    Still (activateKeyDomain p shared) :=
  still_read.bind fun _ => (still_demand _ _).bind fun _ => (still_require _ _).bind fun _ =>
    (still_require _ _).bind fun _ => (still_require _ _).bind fun _ =>
      still_write (fun _ => rfl) (fun _ => rfl) fun _ => rfl

theorem authenticate_still (key : Bytes) (p : Provider) : Still (authenticate key p) := by
  have hlatch : Still (latchRecovery >>= fun _ => (pure false : Act Bool)) :=
    latchRecovery_still.bind fun _ => still_pure _
  unfold authenticate
  split
  · exact hlatch
  · exact still_ite hlatch ((recordAuthenticatedSentinel_still p).bind fun _ =>
      still_ite hlatch (still_pure _))

theorem orNotReady_still {c : Act Bool} (hc : Still c) : Still (orNotReady c) := by
  intro n
  unfold orNotReady
  have hn := hc n
  generalize c n = r at hn ⊢
  rcases r with ⟨(code | r | _) | b, n'⟩
  · exact hn.trans ((latchRecovery_still.bind fun _ => still_pure _) n')
  · exact hn
  · exact hn
  · exact hn

theorem readiness_still (key : Bytes) (source : Session) (shared : Bool) :
    Still (readiness key source shared) := by
  refine live_still.bind fun p => still_ite (still_pure _) (orNotReady_still ?_)
  refine (session_still source (authenticate_still key p)).bind fun _ => still_ite ?_ (still_pure _)
  exact (activateKeyDomain_still p shared).bind fun _ =>
    .bind (still_write (fun _ => rfl) (fun _ => rfl) fun _ => rfl) fun _ => still_pure _

theorem assertDomainUnlatched_still (w : WrapState) : Still (assertDomainUnlatched w) :=
  still_ite (latchRecovery_still.bind fun _ => still_stop _) (still_pure _)

theorem requireReadyState_still : Still requireReadyState :=
  live_still.bind fun _ => still_read.bind fun _ => still_demand _ _

theorem requireReady_still : Still requireReady :=
  live_still.bind fun _ => (still_require _ _).bind fun _ => requireReadyState_still.bind fun w =>
    (still_require _ _).bind fun _ => assertDomainUnlatched_still w

theorem reserveNonce_still (drawn : Option Nonce) : Still (reserveNonce drawn) := by
  refine requireReadyState_still.bind fun w => (still_require _ _).bind fun _ =>
    (still_require _ _).bind fun _ => (still_demand _ _).bind fun _ => ?_
  exact still_ite (latchNonceReuse_still.bind fun _ => still_stop _)
    (.bind (still_write (fun _ => rfl) (fun _ => rfl) fun _ => rfl) fun _ => still_pure _)

theorem prepareProfileKey_still (binding : ProfileKeyBinding) (source : Session)
    (drawn : Option Nonce) : Still (prepareProfileKey binding source drawn) :=
  live_still.bind fun _ => (still_require _ _).bind fun _ => requireReady_still.bind fun _ =>
    (session_still source (reserveNonce_still drawn)).bind fun _ =>
      requireReadyState_still.bind fun w => (assertDomainUnlatched_still w).bind fun _ =>
        still_pure _

theorem unwrapProfileKey_still (key : Bytes) (wrapped : WrappedProfileKey)
    (binding : ProfileKeyBinding) (source : Session) :
    Still (unwrapProfileKey key wrapped binding source) := by
  refine live_still.bind fun _ => (still_require _ _).bind fun _ => requireReady_still.bind fun _ =>
    Still.bind (session_still source ?_) fun _ =>
      requireReadyState_still.bind fun w => (assertDomainUnlatched_still w).bind fun _ =>
        still_pure _
  split
  · exact latchRecovery_still.bind fun _ => still_stop _
  · exact (still_require _ _).bind fun _ => still_pure _

end Provider

/-! ### Units of work -/

section UnitOfWork
variable {α : Type}

/-- A unit of work that publishes nothing. -/
def Modest (t : Transaction α) : Prop :=
  ∀ commit db, (transact commit t db).2 = db ∨
    Change db (transact commit t db).2 ∧ (transact commit t db).2.wrapped = db.wrapped

theorem Reads.modest {t : Transaction α} (ht : Reads t) : Modest t :=
  fun commit db => .inl (ht.transact commit db)

theorem Effect.modest {t : Transaction α} {c : α → Database → Database → Prop} (ht : Effect t c)
    (hc : ∀ a db db', c a db db' → db' = db ∨ Change db db' ∧ db'.wrapped = db.wrapped) :
    Modest t := by
  intro commit db
  rcases ht.transact commit db with h | ⟨a, h⟩
  · exact .inl h
  · exact hc a db _ h

/-- What a unit of work leaves of the process. -/
theorem unitOfWork_state (needs : Runtime) (report : Failure → Raised × Bool) (commit : Commit)
    (t : Transaction α) (n : Node) :
    (unitOfWork needs report commit t n).2 = n ∨
      ∃ runtime, (unitOfWork needs report commit t n).2 =
        { n with durable := (transact commit t n.durable).2, runtime } := by
  unfold unitOfWork
  split_ifs
  · generalize transact commit t n.durable = r
    rcases r with ⟨e | a, db⟩
    · exact .inr ⟨_, rfl⟩
    · exact .inr ⟨_, rfl⟩
  · exact .inl rfl

theorem Modest.still {t : Transaction α} (ht : Modest t) (needs : Runtime)
    (report : Failure → Raised × Bool) (commit : Commit) :
    Still (unitOfWork needs report commit t) := by
  intro n
  rcases unitOfWork_state needs report commit t n with h | ⟨runtime, h⟩
  · rw [h]
    exact .refl n
  · rw [h]
    rcases ht commit n.durable with hsame | ⟨hchange, hwrapped⟩
    · exact .of_same rfl rfl hsame
    · exact ⟨rfl, rfl, hwrapped, hchange.extends.1, hchange.ledger⟩

/-- What a unit of work that returns has done. -/
theorem Effect.wp_unitOfWork {t : Transaction α} {c : α → Database → Database → Prop}
    (ht : Effect t c) (needs : Runtime) (report : Failure → Raised × Bool) (commit : Commit)
    (n : Node) :
    wp (unitOfWork needs report commit t)
      (fun a n' => c a n.durable n'.durable ∧ n' = { n with durable := n'.durable })
      (fun _ n' => (n'.durable = n.durable ∨ ∃ a, c a n.durable n'.durable) ∧
        ∃ runtime, n' = { n with durable := n'.durable, runtime }) n := by
  have heffect := ht n.durable commit
  unfold wp unitOfWork
  unfold wp at heffect
  split_ifs
  · unfold Keys.transact
    generalize t ⟨n.durable, n.durable, commit⟩ = r at heffect ⊢
    rcases r with ⟨e | a, w⟩
    · exact ⟨heffect.imp_right fun h => h.2.2, _, rfl⟩
    · exact ⟨heffect, rfl⟩
  · exact ⟨.inl rfl, _, rfl⟩

end UnitOfWork

namespace Node

theorem loadCatalog_still (commit : Commit) : Still (loadCatalog commit) :=
  loadCatalog_reads.modest.still _ _ _

theorem loadProfileKey_still (binding : ProfileKeyBinding) (commit : Commit) :
    Still (loadProfileKey binding commit) :=
  (loadProfileKey_reads binding).modest.still _ _ _

theorem reconcileProfileKey_still (binding : ProfileKeyBinding) (commit : Commit) :
    Still (reconcileProfileKey binding commit) :=
  (reconcileProfileKey_reads binding).modest.still _ _ _

theorem loadCatalogForReconciliation_still (commit : Commit) :
    Still (loadCatalogForReconciliation commit) :=
  loadCatalog_reads.modest.still _ _ _

theorem requireRecovery_modest : Modest Keys.requireRecovery := by
  refine requireRecovery_effect.modest fun _ db db' h => ?_
  rcases h with ⟨h, -⟩ | h
  · exact .inl h
  · obtain ⟨row, -, -, rfl⟩ := id h
    exact .inr ⟨.recovers h, rfl⟩

theorem requireRecovery_still (commit : Commit) : Still (requireRecovery commit) :=
  requireRecovery_modest.still _ _ _

theorem beginInitialization_modest (identity : KeyCatalogIdentity) (nonce : Nonce)
    (commitment : SourceCommitment) (id : OpaqueId) :
    Modest (Keys.beginInitialization identity nonce commitment id) := by
  refine (beginInitialization_effect _ _ _ _).modest fun _ db db' ⟨_, h⟩ => .inr ⟨.initializes h, ?_⟩
  obtain ⟨-, rfl⟩ := h
  rfl

theorem reserveProfilePreparation_modest (preparation : ProfileKeyPreparation) (id : OpaqueId) :
    Modest (Keys.reserveProfilePreparation preparation id) := by
  refine (reserveProfilePreparation_effect _ _).modest fun _ db db' ⟨_, h⟩ =>
    .inr ⟨.reserves h, ?_⟩
  obtain ⟨row, -, -, -, -, -, rfl⟩ := h
  rfl

theorem finishInitialization_modest (id : OpaqueId) (sentinel : WrappedReadinessSentinel) :
    Modest (Keys.finishInitialization id sentinel) := by
  refine (finishInitialization_effect _ _).modest fun _ db db' h => .inr ⟨.finishes h, ?_⟩
  obtain ⟨row, r, -, -, -, -, -, -, -, -, rfl⟩ := h
  rfl

theorem finishInitialization_still (id : OpaqueId) (sentinel : WrappedReadinessSentinel)
    (commit load : Commit) : Still (finishInitialization id sentinel commit load) :=
  ((finishInitialization_modest id sentinel).still _ _ _).bind fun _ => loadCatalog_still load

theorem finishInitializationForReconciliation_still (id : OpaqueId)
    (sentinel : WrappedReadinessSentinel) (commit : Commit) :
    Still (finishInitializationForReconciliation id sentinel commit) :=
  (finishInitialization_modest id sentinel).still _ _ _

end Node

/-! ### The service -/

namespace KeyCatalogService

section OrLatch
variable {α : Type} {c : Act α} {n n' : Node} {recover : Commit}

theorem orLatch_ok {a : α} (h : c n = (.ok a, n')) : orLatch recover c n = (.ok a, n') := by
  unfold orLatch
  rw [h]

theorem orLatch_secret {code : SecretFailureCode} (h : c n = (.error (.secret code), n')) :
    orLatch recover c n = (Node.requireRecovery recover >>= fun _ =>
      stop (catalogError .recoveryRequired)) n' := by
  unfold orLatch
  rw [h]

theorem orLatch_other {e : Fault} (h : c n = (.error e, n')) (he : ∀ code, e ≠ .secret code) :
    orLatch recover c n = (.error e, n') := by
  unfold orLatch
  rw [h]
  cases e with
  | secret code => exact (he code rfl).elim
  | raised r => rfl
  | noService => rfl

/-- A call with its handler, when the latch keeps `p`. -/
theorem wp_orLatch {p : Node → Prop} {post : α → Node → Prop} (recover : Commit)
    (hp : ∀ n n', Quiet n n' → p n → p n') (hc : wp c post (fun _ => p) n) :
    wp (orLatch recover c) post (fun _ => p) n := by
  unfold wp at hc ⊢
  rcases h : c n with ⟨(code | r | _) | a, n'⟩
  · rw [h] at hc
    rw [orLatch_secret h]
    have hlatch := hp _ _ (Node.requireRecovery_still recover n') hc
    simp only [bind]
    rcases hrun : Node.requireRecovery recover n' with ⟨e | _, n''⟩
    · rwa [hrun] at hlatch
    · rwa [hrun] at hlatch
  · rw [h] at hc
    rwa [orLatch_other h nofun]
  · rw [h] at hc
    rwa [orLatch_other h nofun]
  · rw [h] at hc
    rwa [orLatch_ok h]

theorem orLatch_still (recover : Commit) (hc : Still c) : Still (orLatch recover c) := by
  refine still_of_wp fun n => ?_
  exact wp_orLatch recover (fun _ _ h h' => h'.trans h) (hc.wp n)

end OrLatch

theorem readiness_still (key : Bytes) (i : ReadinessInput) : Still (readiness key i) :=
  Provider.live_still.bind fun _ => (Node.loadCatalog_still _).bind fun _ =>
    (still_require _ _).bind fun _ => (still_require _ _).bind fun _ =>
      (Provider.readiness_still key _ _).bind fun _ => still_ite (still_pure _)
        ((Node.requireRecovery_still _).bind fun _ => still_stop _)

theorem assertBinding_still (key : Bytes) (binding : ProfileKeyBinding) (i : ReadinessInput) :
    Still (assertBinding key binding i) :=
  Provider.live_still.bind fun _ => (readiness_still key i).bind fun _ => still_require _ _

theorem openProfileKey_still (key : Bytes) (binding : ProfileKeyBinding) (i : OpenInput) :
    Still (openProfileKey key binding i) :=
  (assertBinding_still key binding _).bind fun _ => (Node.loadProfileKey_still _ _).bind fun _ =>
    (still_demand _ _).bind fun _ =>
      orLatch_still _ (Provider.unwrapProfileKey_still key _ _ _)

end KeyCatalogService

theorem orRefuse_still (refused : Option SecretFailureCode) : Still (orRefuse refused) := by
  cases refused with
  | none => exact still_pure _
  | some code => exact still_stop _

theorem orDiscard_still {α : Type} {c : Act α} (hc : Still c) : Still (orDiscard c) := by
  intro n
  unfold orDiscard
  have hn := hc n
  generalize c n = r at hn ⊢
  rcases r with ⟨e | a, n'⟩
  · exact hn.trans (.of_same rfl rfl rfl)
  · exact hn

theorem composeNativeKeyCatalog_still (key : Bytes) (identity : KeyCatalogIdentity)
    (i : ComposeInput) : Still (composeNativeKeyCatalog key identity i) :=
  (Node.loadCatalog_still _).bind fun _ => (still_require _ _).bind fun _ =>
    (still_require _ _).bind fun _ => (still_demand _ _).bind fun _ =>
      (still_require _ _).bind fun _ => (still_require _ _).bind fun _ =>
        (orRefuse_still _).bind fun _ => still_read.bind fun _ => (still_require _ _).bind fun _ =>
          .bind (still_write (fun _ => rfl) (fun _ => rfl) fun _ => rfl) fun _ =>
            (orDiscard_still (KeyCatalogService.readiness_still key _)).bind fun _ => still_pure _

end MyCogni.Keys
