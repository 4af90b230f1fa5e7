import MyCogni.Keys.Refusals

/-! Publication and reconciliation agree: what a later reader of the catalog returns for a binding
is the record whose publication reached the disk. -/

namespace MyCogni.Keys
open Auth Command

/-! ### Published records stay published -/

def KeepsPublished (n n' : Node) : Prop := n.published <+: n'.published

theorem KeepsPublished.trans {n n' n'' : Node} (h : KeepsPublished n n')
    (h' : KeepsPublished n' n'') : KeepsPublished n n'' :=
  List.IsPrefix.trans h h'

theorem Quiet.keepsPublished {n n' : Node} (h : Quiet n n') : KeepsPublished n n' := by
  unfold KeepsPublished
  rw [h.published]

section Keeps
variable {α β : Type}

def Keeps (c : Act α) : Prop := Respects KeepsPublished c

theorem Still.keeps {c : Act α} (hc : Still c) : Keeps c := fun n => (hc n).keepsPublished

theorem Keeps.bind {c : Act α} {f : α → Act β} (hc : Keeps c) (hf : ∀ a, Keeps (f a)) :
    Keeps (c >>= f) :=
  Respects.bind (fun _ _ _ h h' => h.trans h') hc hf

theorem session_keeps (source : Session) {body : Act α} (hbody : Keeps body) :
    Keeps (Provider.session source body) := by
  cases source with
  | opens => exact hbody
  | failsBefore code => exact (Provider.latchRecovery_still.bind fun _ => still_stop _).keeps
  | failsAfter code =>
    intro n
    have hn := hbody n
    rcases h : body n with ⟨e | a, n'⟩
    · rw [h] at hn
      rw [Provider.session_after_error h]
      exact hn.trans (Provider.latchRecovery_still.keeps n')
    · rw [h] at hn
      rw [Provider.session_after_ok h]
      exact hn.trans (Provider.latchRecovery_still.keeps n')

theorem orLatch_keeps (recover : Commit) {c : Act α} (hc : Keeps c) :
    Keeps (KeyCatalogService.orLatch recover c) := by
  intro n
  have hn := hc n
  rcases h : c n with ⟨(code | r | _) | a, n'⟩
  · rw [h] at hn
    rw [KeyCatalogService.orLatch_secret h]
    exact hn.trans (((Node.requireRecovery_still recover).bind fun _ => still_stop _).keeps n')
  · rw [h] at hn
    rwa [KeyCatalogService.orLatch_other h nofun]
  · rw [h] at hn
    rwa [KeyCatalogService.orLatch_other h nofun]
  · rw [h] at hn
    rwa [KeyCatalogService.orLatch_ok h]

theorem encrypt_keeps (key : Bytes) (nonce : Nonce) (plaintext aad : Bytes)
    (binding : Option ProfileKeyBinding) : Keeps (Provider.encrypt key nonce plaintext aad binding) :=
  fun _ => List.prefix_rfl

theorem completeProfileKey_keeps (key : Bytes) (preparation : ProfileKeyPreparation)
    (source : Session) (generated : Option Provider.ProfileDek) :
    Keeps (Provider.completeProfileKey key preparation source generated) := by
  refine Provider.live_still.keeps.bind fun p => still_read.keeps.bind fun n =>
    (still_require _ _).keeps.bind fun _ => Provider.requireReady_still.keeps.bind fun _ =>
      (still_demand _ _).keeps.bind fun dek => ?_
  refine (session_keeps source ((encrypt_keeps _ _ _ _ _).bind fun _ => (still_demand _ _).keeps)).bind
    fun _ => Provider.requireReadyState_still.keeps.bind fun w =>
      (Provider.assertDomainUnlatched_still w).keeps.bind fun _ => (still_pure _).keeps

theorem createReadinessSentinel_keeps (key : Bytes) (identity : KeyCatalogIdentity) (nonce : Nonce)
    (expected : SourceCommitment) (source : Session) :
    Keeps (Provider.createReadinessSentinel key identity nonce expected source) := by
  unfold Provider.createReadinessSentinel
  refine (still_require _ _).keeps.bind fun _ => ?_
  cases source with
  | opens =>
    exact (still_require _ _).keeps.bind fun _ => (encrypt_keeps _ _ _ _ _).bind fun _ =>
      (still_demand _ _).keeps.bind fun _ => (still_pure _).keeps
  | failsBefore code => exact (still_stop _).keeps
  | failsAfter code =>
    exact (still_require _ _).keeps.bind fun _ => (encrypt_keeps _ _ _ _ _).bind fun _ =>
      (still_demand _ _).keeps.bind fun _ => (still_stop _).keeps

theorem publishProfileKey_keeps (id : OpaqueId) (preparation : ProfileKeyPreparation)
    (w : WrappedProfileKey) (commit : Commit) :
    Keeps (Node.publishProfileKey id preparation w commit) := by
  intro n
  have hstate := unitOfWork_state .accepting latchCommitAmbiguity commit
    (Keys.publishProfileKey id preparation w) n
  have hpublished : (unitOfWork .accepting latchCommitAmbiguity commit
      (Keys.publishProfileKey id preparation w) n).2.published = n.published := by
    rcases hstate with h | ⟨runtime, h⟩ <;> rw [h]
  unfold KeepsPublished Node.publishProfileKey
  dsimp only
  split_ifs
  · rw [hpublished]
  · rw [hpublished]
    exact List.prefix_append ..

theorem createProfileKey_keeps (key : Bytes) (binding : ProfileKeyBinding) (i : CreateInput) :
    Keeps (KeyCatalogService.createProfileKey key binding i) :=
  (KeyCatalogService.assertBinding_still key binding _).keeps.bind fun _ =>
    (orLatch_keeps _ (Provider.prepareProfileKey_still binding _ _).keeps).bind fun preparation =>
      ((Node.reserveProfilePreparation_modest preparation _).still _ _ _).keeps.bind fun _ =>
        (orLatch_keeps _ (completeProfileKey_keeps key preparation _ _)).bind fun _ =>
          (publishProfileKey_keeps _ _ _ _).bind fun _ => (still_pure _).keeps

end Keeps

theorem advance_keeps (key : Bytes) (n : Node) (event : Event) :
    KeepsPublished n (advance key n event).2 := by
  have hkeeps : Keeps (serve key event) := by
    cases event with
    | restart runtime => exact fun _ => List.prefix_rfl
    | reopen runtime => exact fun _ => List.prefix_rfl
    | initializes identity i =>
      refine Keeps.bind ?_ fun _ => (still_pure _).keeps
      exact (still_demand _ _).keeps.bind fun _ => (orRefuse_still _).keeps.bind fun _ =>
        ((Node.beginInitialization_modest _ _ _ _).still _ _ _).keeps.bind fun _ =>
          (createReadinessSentinel_keeps _ _ _ _ _).bind fun _ =>
            (Node.finishInitialization_still _ _ _ _).keeps.bind fun _ =>
              (composeNativeKeyCatalog_still key identity _).keeps
    | resumes identity i =>
      refine Keeps.bind ?_ fun _ => (still_pure _).keeps
      exact (Node.loadCatalog_still _).keeps.bind fun _ => (still_require _ _).keeps.bind fun _ =>
        (still_require _ _).keeps.bind fun _ =>
          (loadInitializationRecord_reads.modest.still _ _ _).keeps.bind fun _ =>
            (createReadinessSentinel_keeps _ _ _ _ _).bind fun _ =>
              (Node.finishInitialization_still _ _ _ _).keeps.bind fun _ =>
                (composeNativeKeyCatalog_still key identity _).keeps
    | reconcilesInitialization identity i =>
      refine Keeps.bind ?_ fun _ => (still_pure _).keeps
      exact (Node.loadCatalogForReconciliation_still _).keeps.bind fun _ =>
        (still_require _ _).keeps.bind fun _ => (still_require _ _).keeps.bind fun _ =>
          (loadInitializationRecord_reads.modest.still _ _ _).keeps.bind fun _ =>
            (createReadinessSentinel_keeps _ _ _ _ _).bind fun _ =>
              (Node.finishInitializationForReconciliation_still _ _ _).keeps.bind fun _ =>
                (Node.loadCatalogForReconciliation_still _).keeps.bind fun _ =>
                  (still_require _ _).keeps.bind fun _ => (still_pure _).keeps
    | composes identity i =>
      exact (composeNativeKeyCatalog_still key identity i).keeps.bind fun _ => (still_pure _).keeps
    | creates binding i =>
      exact (createProfileKey_keeps key binding i).bind fun _ => (still_pure _).keeps
    | opens binding i =>
      exact (KeyCatalogService.openProfileKey_still key binding i).keeps.bind fun _ =>
        (still_pure _).keeps
    | loads binding commit =>
      exact (Node.loadProfileKey_still binding commit).keeps.bind fun _ => (still_pure _).keeps
    | reconciles binding commit =>
      exact (Node.reconcileProfileKey_still binding commit).keeps.bind fun _ => (still_pure _).keeps
  exact hkeeps n

theorem run_keeps (key : Bytes) (events : List Event) (n : Node) :
    KeepsPublished n (run (advance key) n events) := by
  induction events generalizing n with
  | nil => exact List.prefix_rfl
  | cons event events ih => exact (advance_keeps key n event).trans (ih _)

/-! ### What the readers return -/

section Readers
variable {key : Bytes} {n : Node} {b : ProfileKeyBinding}

/-- The tables hold a record for a binding exactly when it was published. -/
theorem Sound.read_iff (hs : Sound key n) {row : CatalogRow} (hcatalog : n.durable.catalog = some row)
    {s : KeyCatalogSnapshot} (hidentity : s.identity = row.identity) (hcovers : row.identity.Covers b)
    {o : Option WrappedProfileKey} (hread : n.durable.readProfileKey s b = .ok o)
    (w : WrappedProfileKey) : o = some w ↔ w ∈ n.published ∧ w.binding = b := by
  have hpublished : ∀ w ∈ n.published, w.binding = b → o = some w := by
    rintro w hw rfl
    obtain ⟨row', hcatalog', -, h⟩ := hs.readProfileKey hw
    cases hcatalog.symm.trans hcatalog'
    rw [h s hidentity] at hread
    exact (Except.ok.inj hread).symm
  refine ⟨fun ho => ?_, fun h => hpublished w h.1 h.2⟩
  -- the row that was found belongs to a published record of the binding
  have hfound : ∃ k, n.durable.profileRow b = some k := by
    cases hrow : n.durable.profileRow b with
    | some k => exact ⟨k, rfl⟩
    | none =>
      unfold Database.readProfileKey at hread
      rw [hrow] at hread
      cases hread
      cases ho
  obtain ⟨k, hk⟩ := hfound
  obtain ⟨hmem, hprofile⟩ := Database.mem_of_profileRow hk
  obtain ⟨record, hrecord, row', hcatalog', hcovers', -, hprofile', -⟩ := hs.listed k hmem
  cases hcatalog.symm.trans hcatalog'
  have hbinding : record.binding = b := hcovers'.eq hcovers (hprofile'.symm.trans hprofile)
  have hsame := hpublished record hrecord hbinding
  rw [ho] at hsame
  cases hsame
  exact ⟨hrecord, hbinding⟩

/-- What a reader that returns has read. -/
def ReadsKey (db : Database) (b : ProfileKeyBinding) (o : Option WrappedProfileKey) : Prop :=
  ∃ s, db.loadSnapshot = .ok s ∧ s.identity.Covers b ∧ db.readProfileKey s b = .ok o

theorem loadProfileKey_value {commit : Commit} {db : Database} {o : Option WrappedProfileKey}
    (h : (loadProfileKey b ⟨db, db, commit⟩).1 = .ok o) : ReadsKey db b o := by
  have hwp : wp (loadProfileKey b) (fun o _ => ReadsKey db b o) (fun _ _ => True)
      ⟨db, db, commit⟩ := by
    unfold loadProfileKey assertActiveBinding Transaction.start
    simp only [wp_bind, wp_read, wp_require, wp_query]
    refine ⟨fun _ => ⟨fun s hs => ⟨fun _ => ⟨fun hcovers => ⟨fun o ho => ?_, fun _ _ => trivial⟩,
      fun _ => trivial⟩, fun _ => trivial⟩, fun _ _ => trivial⟩, fun _ => trivial⟩
    exact ⟨s, hs, hcovers, ho⟩
  exact (wp_iff.mp hwp).1 o h

theorem reconcileProfileKey_value {commit : Commit} {db : Database} {o : Option WrappedProfileKey}
    (h : (reconcileProfileKey b ⟨db, db, commit⟩).1 = .ok o) : ReadsKey db b o := by
  have hwp : wp (reconcileProfileKey b) (fun o _ => ReadsKey db b o) (fun _ _ => True)
      ⟨db, db, commit⟩ := by
    unfold reconcileProfileKey Transaction.start
    simp only [wp_bind, wp_read, wp_require, wp_query]
    refine ⟨fun _ => ⟨fun s hs => ⟨fun hcovers => ⟨fun o ho => ?_, fun _ _ => trivial⟩,
      fun _ => trivial⟩, fun _ _ => trivial⟩, fun _ => trivial⟩
    exact ⟨s, hs, hcovers, ho⟩
  exact (wp_iff.mp hwp).1 o h

theorem Sound.readsKey (hs : Sound key n) {o : Option WrappedProfileKey}
    (h : ReadsKey n.durable b o) (w : WrappedProfileKey) :
    o = some w ↔ w ∈ n.published ∧ w.binding = b := by
  obtain ⟨s, hload, hcovers, hread⟩ := h
  obtain ⟨row, hcatalog, hidentity, -⟩ := Database.loadSnapshot_ok hload
  rw [hidentity] at hcovers
  exact hs.read_iff hcatalog hidentity hcovers hread w

theorem advance_loads {commit : Commit} {o : Option WrappedProfileKey}
    (h : (advance key n (.loads b commit)).1 = .ok (.profileKey o)) :
    ReadsKey n.durable b o ∧ (advance key n (.loads b commit)).2 = n := by
  have hwp := wp_unitOfWork_reads (loadProfileKey_reads b) .accepting latchLoad commit n
  have hserve : wp (serve key (.loads b commit)) (fun r n' => ∀ o, r = .profileKey o →
      ReadsKey n.durable b o ∧ n' = n) (fun _ _ => True) n := by
    rw [serve, wp_bind]
    refine wp_mono hwp ?_ fun _ _ _ => trivial
    rintro o n' ⟨hvalue, -, hn'⟩ _ ⟨⟩
    exact ⟨loadProfileKey_value hvalue, hn'⟩
  exact (wp_iff.mp hserve).1 _ h o rfl

theorem advance_reconciles {commit : Commit} {o : Option WrappedProfileKey}
    (h : (advance key n (.reconciles b commit)).1 = .ok (.profileKey o)) :
    ReadsKey n.durable b o ∧ (advance key n (.reconciles b commit)).2 = n := by
  have hwp := wp_unitOfWork_reads (reconcileProfileKey_reads b) .reconciling redactReader commit n
  have hserve : wp (serve key (.reconciles b commit)) (fun r n' => ∀ o, r = .profileKey o →
      ReadsKey n.durable b o ∧ n' = n) (fun _ _ => True) n := by
    rw [serve, wp_bind]
    refine wp_mono hwp ?_ fun _ _ _ => trivial
    rintro o n' ⟨hvalue, -, hn'⟩ _ ⟨⟩
    exact ⟨reconcileProfileKey_value hvalue, hn'⟩
  exact (wp_iff.mp hserve).1 _ h o rfl

theorem advance_creates_ok {i : CreateInput} (hs : Sound key n) {w : WrappedProfileKey}
    (h : (advance key n (.creates b i)).1 = .ok (.wrapped w)) :
    w ∈ (advance key n (.creates b i)).2.published ∧ w.binding = b := by
  have hserve : wp (serve key (.creates b i)) (fun r n' => ∀ w, r = .wrapped w →
      w ∈ n'.published ∧ w.binding = b) (fun _ _ => True) n := by
    rw [serve, wp_bind]
    refine wp_mono (createProfileKey_spec b i hs) ?_ fun _ _ _ => trivial
    rintro w n' ⟨-, hmem, hbinding⟩ _ ⟨⟩
    exact ⟨hmem, hbinding⟩
  exact (wp_iff.mp hserve).1 _ h w rfl

theorem Sound.advance_reconciles_iff (hs : Sound key n) (hruntime : n.runtime = .reconciling)
    (w : WrappedProfileKey) :
    (advance key n (.reconciles b .known)).1 = .ok (.profileKey (some w)) ↔
      w ∈ n.published ∧ w.binding = b := by
  refine ⟨fun h => (hs.readsKey (advance_reconciles h).1 w).mp rfl, ?_⟩
  rintro ⟨hw, rfl⟩
  unfold advance
  rw [serve, bind_ok (hs.reconcile hruntime hw)]
  rfl

theorem Sound.advance_loads_ok (hs : Sound key n) (hruntime : n.runtime = .accepting)
    (hactive : n.durable.state = some .active) {w : WrappedProfileKey} (hw : w ∈ n.published) :
    (advance key n (.loads w.binding .known)).1 = .ok (.profileKey (some w)) := by
  unfold advance
  rw [serve, bind_ok (hs.load hruntime hactive hw)]
  rfl

theorem wp_reply {α : Type} (c : Act α) (f : α → Reply) {post : Reply → Prop} (h : ∀ a, post (f a)) :
    wp (c >>= fun a => pure (f a)) (fun r _ => post r) (fun _ _ => True) n := by
  rw [wp_bind]
  exact wp_iff.mpr ⟨fun a _ => h a, fun _ _ => trivial⟩

/-- A wrapped key that a call returns has been published by the end of the call. -/
theorem Sound.reply_published (hs : Sound key n) {event : Event} {r : Reply}
    (h : (advance key n event).1 = .ok r) {w : WrappedProfileKey}
    (hr : r = .wrapped w ∨ r = .profileKey (some w)) : w ∈ (advance key n event).2.published := by
  have hshape : wp (serve key event) (fun r _ => (∀ w, r = .wrapped w → ∃ b i, event = .creates b i) ∧
      ∀ o, r = .profileKey o → ∃ b commit, event = .loads b commit ∨ event = .reconciles b commit)
      (fun _ _ => True) n := by
    cases event with
    | restart runtime => exact ⟨nofun, nofun⟩
    | reopen runtime => exact ⟨nofun, nofun⟩
    | creates b i => exact wp_reply _ _ fun _ => ⟨fun _ _ => ⟨b, i, rfl⟩, nofun⟩
    | loads b commit => exact wp_reply _ _ fun _ => ⟨nofun, fun _ _ => ⟨b, commit, .inl rfl⟩⟩
    | reconciles b commit => exact wp_reply _ _ fun _ => ⟨nofun, fun _ _ => ⟨b, commit, .inr rfl⟩⟩
    | initializes identity i => exact wp_reply _ _ fun _ => ⟨nofun, nofun⟩
    | resumes identity i => exact wp_reply _ _ fun _ => ⟨nofun, nofun⟩
    | reconcilesInitialization identity i => exact wp_reply _ _ fun _ => ⟨nofun, nofun⟩
    | composes identity i => exact wp_reply _ _ fun _ => ⟨nofun, nofun⟩
    | opens b i => exact wp_reply _ _ fun _ => ⟨nofun, nofun⟩
  obtain ⟨hwrapped, hread⟩ := (wp_iff.mp hshape).1 r h
  rcases hr with rfl | rfl
  · obtain ⟨b, i, rfl⟩ := hwrapped w rfl
    exact (advance_creates_ok hs h).1
  · obtain ⟨b, commit, rfl | rfl⟩ := hread _ rfl
    · obtain ⟨hreads, hsame⟩ := advance_loads h
      rw [hsame]
      exact ((hs.readsKey hreads w).mp rfl).1
    · obtain ⟨hreads, hsame⟩ := advance_reconciles h
      rw [hsame]
      exact ((hs.readsKey hreads w).mp rfl).1

end Readers

/-! ### Agreement -/

/-- Some call of the run created the record for the binding and returned it. -/
def Returned (key : Bytes) (events : List Event) (b : ProfileKeyBinding) (w : WrappedProfileKey) :
    Prop :=
  ∃ pre i post, events = pre ++ Event.creates b i :: post ∧
    (advance key (run (advance key) {} pre) (.creates b i)).1 = .ok (.wrapped w)

theorem Returned.published {key : Bytes} {events : List Event} {b : ProfileKeyBinding}
    {w : WrappedProfileKey} (h : Returned key events b w) :
    w ∈ (run (advance key) {} events).published ∧ w.binding = b := by
  obtain ⟨pre, i, post, rfl, hreply⟩ := h
  obtain ⟨hmem, hbinding⟩ := advance_creates_ok (run_sound key pre) hreply
  rw [run_append, run_cons]
  exact ⟨(run_keeps key post _).subset hmem, hbinding⟩

/-- In any run, a recovery runtime reconciles a binding to a key exactly when its publication is on
the disk, and to the record that was encrypted; a key that was returned is what every later reader of
the binding returns, and a reader that is admitted does return it; and no key is returned whose
publication is not on the disk. -/
theorem reconciliation_agrees (key : Bytes) (events : List Event) :
    ((run (advance key) {} events).runtime = .reconciling → ∀ b w,
      (advance key (run (advance key) {} events) (.reconciles b .known)).1 =
          .ok (.profileKey (some w)) ↔
        w ∈ (run (advance key) {} events).published ∧ w.binding = b) ∧
    (∀ w ∈ (run (advance key) {} events).published,
      ∃ e ∈ (run (advance key) {} events).encryptions, e.Wraps key w) ∧
    (∀ b w, Returned key events b w →
      (∀ commit o, (advance key (run (advance key) {} events) (.loads b commit)).1 =
        .ok (.profileKey o) → o = some w) ∧
      (∀ commit o, (advance key (run (advance key) {} events) (.reconciles b commit)).1 =
        .ok (.profileKey o) → o = some w) ∧
      ((run (advance key) {} events).runtime = .accepting →
        (run (advance key) {} events).durable.state = some .active →
          (advance key (run (advance key) {} events) (.loads b .known)).1 =
            .ok (.profileKey (some w))) ∧
      ((run (advance key) {} events).runtime = .reconciling →
        (advance key (run (advance key) {} events) (.reconciles b .known)).1 =
          .ok (.profileKey (some w)))) ∧
    ∀ event r w, (advance key (run (advance key) {} events) event).1 = .ok r →
      r = .wrapped w ∨ r = .profileKey (some w) →
        w ∈ (advance key (run (advance key) {} events) event).2.published := by
  have hs := run_sound key events
  refine ⟨fun hruntime b w => hs.advance_reconciles_iff hruntime w, hs.encrypted, ?_,
    fun _ _ _ h hr => hs.reply_published h hr⟩
  intro b w hreturned
  obtain ⟨hw, rfl⟩ := hreturned.published
  refine ⟨fun commit o h => ?_, fun commit o h => ?_, fun hruntime hactive =>
    hs.advance_loads_ok hruntime hactive hw, fun hruntime =>
    (hs.advance_reconciles_iff hruntime w).mpr ⟨hw, rfl⟩⟩
  · exact (hs.readsKey (advance_loads h).1 w).mpr ⟨hw, rfl⟩
  · exact (hs.readsKey (advance_reconciles h).1 w).mpr ⟨hw, rfl⟩

namespace Sample

/-- The key of the first request was returned; a recovery runtime opens next, and a load is
refused there. -/
theorem load_refused_in_recovery :
    Returned key (past ++ [initialization, (request 2).event, .restart .reconciling]) binding
      (wrapRecord key kek ⟨binding, nonce 2⟩ dek) ∧
    (advance key (run (advance key) {}
      (past ++ [initialization, (request 2).event, .restart .reconciling]))
        (.loads binding .known)).1 = .error (.raised .notReady) := by
  have hsplit : past ++ [initialization, (request 2).event, .restart .reconciling] =
      (past ++ [initialization]) ++ [(request 2).event, .restart .reconciling] := by
    rw [List.append_assoc]
    rfl
  refine ⟨⟨past ++ [initialization], _, [.restart .reconciling], hsplit, ?_⟩, ?_⟩
  · rw [run_initialization]
    exact congrArg Prod.fst first_request
  · have hrun : run (advance key) {} ((past ++ [initialization]) ++
        [(request 2).event, .restart .reconciling]) =
          (advance key served (.restart .reconciling)).2 := by
      have hfirst : advance key (first key identity (nonce 1) (id 6)) (request 2).event = _ :=
        first_request
      rw [run_append, run_initialization, run_cons, hfirst, run_cons, run_nil]
    rw [hsplit, hrun]
    rfl

end Sample

end MyCogni.Keys
