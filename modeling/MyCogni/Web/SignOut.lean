import MyCogni.Auth.SignedOut
import MyCogni.Web.Sound

/-! The shell in front of the store of its authentication service. A call that drops sessions from
the shell asks the service to revoke them, one after the other, before it goes on or returns; it
does not look at what comes of that. -/

namespace MyCogni.Web
open Auth

/-- The call in which the section is. -/
def Event.call : Event → Nat
  | .beginLogin call _ => call
  | .issueChallenge call _ _ => call
  | .authenticateLogin call _ _ _ _ => call
  | .exchangeBootstrap call _ => call
  | .installSession call _ => call
  | .view call _ => call
  | .authenticateSession call _ _ => call
  | .dropSession call => call
  | .issueForm call _ => call
  | .logout call _ _ => call
  | .activeSessionCount call _ => call
  | .countSessions call => call
  | .raises call => call

/-- The section asks nothing of the service. -/
def Event.local : Event → Bool
  | .exchangeBootstrap _ _ | .authenticateSession _ _ _ => false
  | _ => true

/-- The call has returned a value. -/
def Reply.returns : Reply → Bool
  | .pending | .overflowError | .raised | .disabled => false
  | _ => true

/-- The credentials of the sessions that the second shell has lost, the oldest first. -/
def Shell.lost (s s' : Shell) : List OpaqueCredential :=
  (s.sessions.entries.filter fun e => s'.sessions.contains e.1 = false).map (·.2.credential)

/-- What a call has still to revoke, and the reply that it gives then. -/
structure Debt where
  credentials : List OpaqueCredential
  reply : Reply
deriving DecidableEq

/-- The shell, the store and the revocations under way. For the record: what each call has dropped,
and what calls that have returned have dropped. -/
structure System where
  world : World := {}
  store : Store := .empty
  debts : Nat → Option Debt := fun _ => none
  dropped : Nat → List OpaqueCredential := fun _ => []
  gone : List OpaqueCredential := []

/-- A session as the service proposes it. -/
structure Proposal where
  session : OpaqueCredential
  expiresAtUtc : Datetime
  placeholder : OpaqueId
  recovery : RecoveryRecord
  replacement : RootCapabilityIssue

/-- `exchange_bootstrap` of the service. -/
def Proposal.exchange (p : Proposal) (bootstrap : OpaqueCredential) (now : Datetime) : Op :=
  .exchangeBootstrap bootstrap.handle bootstrap.digest now
    { handle := p.session.handle
      actorId := p.placeholder
      representedProfileId := p.placeholder
      digest := p.session.digest
      epoch := 1
      notBeforeUtc := now
      expiresAtUtc := p.expiresAtUtc } p.recovery p.replacement

/-- What happens, at the shell or at the service. -/
inductive Act where
  | shell (e : Event)
  /-- `authenticate_login` asks for the exchange. -/
  | exchange (call : Nat) (p : Proposal) (now : Datetime)
  /-- `view` reads its clock and asks whether its session is alive. -/
  | authenticate (call : Nat) (now authNow : Datetime)
  /-- The next revocation of a call. -/
  | revoke (call : Nat) (now : Datetime)
  /-- The clock raises inside a revocation. -/
  | raises (call : Nat)
  /-- Another call of the service, whose sessions start at its time. -/
  | service (op : Op) (starts : op.StartsNow)

namespace System
variable (sys : System)

/-- The call gives its reply. -/
def reply (call : Nat) (r : Reply) : Reply × System :=
  (r, if r.returns then { sys with gone := sys.dropped call ++ sys.gone } else sys)

/-- The call ends with an exception. -/
def abort (call : Nat) : Reply × System :=
  (.raised,
    { sys with
      world := sys.world.stand call none
      debts := Function.update sys.debts call none
      dropped := Function.update sys.dropped call [] })

/-- A section of the shell, and the revocations to which it leads. -/
def proceed (sessionTtlSeconds : Nat) (e : Event) : Reply × System :=
  let (r, w) := sys.world.step sessionTtlSeconds e
  let lost := sys.world.shell.lost w.shell
  if r = .overflowError then { sys with world := w }.abort e.call
  else
    let next := { sys with
      world := w
      dropped := Function.update sys.dropped e.call (sys.dropped e.call ++ lost) }
    if lost = [] then next.reply e.call r
    else (.pending, { next with debts := Function.update sys.debts e.call (some ⟨lost, r⟩) })

def step (sessionTtlSeconds : Nat) (sys : System) : Act → Reply × System
  | .shell e =>
    if e.local = true ∧ sys.debts e.call = none then sys.proceed sessionTtlSeconds e
    else (.disabled, sys)
  | .exchange call p now =>
    match sys.debts call, sys.world.stages call with
    | none, some (.exchanging _ _ bootstrap _) =>
      let (out, store) := apply sys.store (p.exchange bootstrap now)
      let sys := { sys with store }
      match out with
      | .ok _ => sys.proceed sessionTtlSeconds (.exchangeBootstrap call (.ok p.session))
      | .error (.denied d) =>
        sys.proceed sessionTtlSeconds (.exchangeBootstrap call (.error (some d)))
      | .error _ => sys.proceed sessionTtlSeconds (.raises call)
    | _, _ => (.disabled, sys)
  | .authenticate call now authNow =>
    match sys.debts call, sys.world.stages call with
    | none, some (.viewing _ session) =>
      let c := session.credential
      let (out, store) := apply sys.store (.authenticateSession c c.digest authNow)
      let sys := { sys with store }
      match out with
      | .ok _ => sys.proceed sessionTtlSeconds (.authenticateSession call now false)
      | .error (.denied _) => sys.proceed sessionTtlSeconds (.authenticateSession call now true)
      | .error _ => sys.proceed sessionTtlSeconds (.raises call)
    | _, _ => (.disabled, sys)
  | .revoke call now =>
    match sys.debts call with
    | some ⟨c :: cs, r⟩ =>
      let (out, store) := apply sys.store (.revokeSession c c.digest now)
      let sys := { sys with store }
      match out, cs with
      | .error (.denied _), [] | .ok _, [] =>
        { sys with debts := Function.update sys.debts call none }.reply call r
      | .error (.denied _), cs | .ok _, cs =>
        (.pending, { sys with debts := Function.update sys.debts call (some ⟨cs, r⟩) })
      | .error _, _ => sys.abort call
    | _ => (.disabled, sys)
  | .raises call =>
    match sys.debts call with
    | some _ => sys.abort call
    | none => (.disabled, sys)
  -- no call of the shell replies
  | .service op _ => (.pending, { sys with store := (apply sys.store op).2 })

end System

/-- The handles that are issued. -/
def Act.issues : Act → List OpaqueId
  | .exchange _ p _ => [p.session.handle, p.recovery.handle, p.replacement.handle]
  | .service op _ => op.issues
  | _ => []

/-- The clock of a revocation reads a time from before the last one observed for the actor. -/
def Act.RollsBack (sys : System) : Act → Prop
  | .revoke call now => ∃ c cs r, sys.debts call = some ⟨c :: cs, r⟩ ∧ Auth.RollsBack sys.store c now
  | _ => False

/-! ### What the shell keeps -/

/-- No other call has come to the installation of a session. -/
def NoArrival (stages' stages : Nat → Option Stage) : Prop :=
  ∀ call c now, stages' call = some (.installing c now) → stages call = some (.installing c now)

theorem NoArrival.refl (stages : Nat → Option Stage) : NoArrival stages stages := fun _ _ _ h => h

theorem noArrival_update (stages : Nat → Option Stage) (call : Nat) {stage : Option Stage}
    (hstage : ∀ c now, stage ≠ some (.installing c now)) :
    NoArrival (Function.update stages call stage) stages := by
  intro call' c now h
  rw [Function.update_apply] at h
  split_ifs at h
  · exact absurd h (hstage c now)
  · exact h

namespace World
variable (w : World) (sessionTtlSeconds : Nat) (call : Nat)

theorem noArrival_leave : NoArrival (w.stand call none).stages w.stages := noArrival_update _ _ nofun

theorem addChallenge_noArrival (id : OpaqueId) (t : Text) (expires : Option Datetime) :
    NoArrival (w.addChallenge call id t expires).2.stages w.stages := by
  cases expires <;> exact w.noArrival_leave call

theorem installSession_noArrival (c : OpaqueCredential) (t : Text) (expires : Option Datetime) :
    NoArrival (w.installSession call c t expires).2.stages w.stages := by
  cases expires <;> exact w.noArrival_leave call

theorem abort_noArrival (stage : Stage) : NoArrival (w.abort call stage).2.stages w.stages := by
  cases stage with
  | installing | dropping | issuing => exact .refl _
  | _ => exact w.noArrival_leave call

/-- Only an exchange brings a call to the installation of a session. -/
theorem step_noArrival {e : Event} (he : ∀ call x, e ≠ .exchangeBootstrap call x) :
    NoArrival (w.step sessionTtlSeconds e).2.stages w.stages := by
  cases e with
  | exchangeBootstrap call x => exact absurd rfl (he call x)
  | beginLogin | activeSessionCount =>
    rw [step, start]
    split_ifs
    · exact .refl _
    · exact noArrival_update _ _ (fun _ _ h => by cases h)
  | issueChallenge =>
    rw [step]
    split
    · exact w.addChallenge_noArrival _ _ _ _
    · exact .refl _
  | authenticateLogin =>
    rw [step, start]
    split_ifs
    · exact .refl _
    · dsimp only
      repeat' split
      all_goals first | exact .refl _ | exact noArrival_update _ _ (fun _ _ h => by cases h)
  | installSession =>
    rw [step]
    split
    · exact w.installSession_noArrival _ _ _ _
    · exact .refl _
  | view | logout =>
    rw [step, start]
    split_ifs
    · exact .refl _
    · dsimp only
      repeat' split
      all_goals first | exact .refl _ | exact noArrival_update _ _ (fun _ _ h => by cases h)
  | authenticateSession | dropSession | issueForm | countSessions =>
    rw [step]
    repeat' split
    all_goals first | exact .refl _ | exact noArrival_update _ _ (fun _ _ h => by cases h)
  | raises =>
    rw [step]
    split
    · exact w.abort_noArrival _ _
    · exact .refl _

theorem exchange_installing {x : Except (Option AuthDenial) OpaqueCredential} {call' : Nat}
    {c : OpaqueCredential} {now : Datetime}
    (h : (w.step sessionTtlSeconds (.exchangeBootstrap call x)).2.stages call' =
      some (.installing c now)) :
    w.stages call' = some (.installing c now) ∨ x = .ok c := by
  rw [step] at h
  split at h
  · cases x with
    | error denial => exact Or.inl (w.noArrival_leave call _ _ _ h)
    | ok credential =>
      dsimp only [note, stand] at h
      rw [Function.update_apply] at h
      split_ifs at h
      · cases h
        exact Or.inr rfl
      · exact Or.inl h
  · exact Or.inl h

end World

/-- Where a session of the shell comes from. -/
theorem Move.session {w w' : World} (h : Move w w') {id : OpaqueId} {r : Session}
    (hr : w'.shell.sessions.get? id = some r) :
    (∃ r₀, w.shell.sessions.get? id = some r₀ ∧ r₀.credential = r.credential) ∨
      ∃ call now, w.stages call = some (.installing r.credential now) := by
  have hold : w.shell.sessions.get? id = some r →
      ∃ r₀, w.shell.sessions.get? id = some r₀ ∧ r₀.credential = r.credential :=
    fun hr => ⟨r, hr, rfl⟩
  cases h with
  | quiet hshell => exact Or.inl (hold (hshell.sessions hr))
  | issue hshell =>
    rw [hshell] at hr
    exact Or.inl (hold hr)
  | take _ _ _ hshell =>
    rw [hshell] at hr
    exact Or.inl (hold hr)
  | refuse _ hshell => exact Or.inl (hold (hshell ▸ hr))
  | succeed _ hshell => exact Or.inl (hold (hshell ▸ hr))
  | install hcall hshell =>
    rw [hshell, Shell.installSession, Dict.get?_set] at hr
    split_ifs at hr
    · obtain rfl := Option.some.inj hr
      exact Or.inr ⟨_, _, hcall⟩
    · exact Or.inl (hold (Dict.get?_of_makeRoom hr))
  | form hr₀ hshell =>
    rw [hshell, Shell.addToken, Dict.get?_set] at hr
    split_ifs at hr with hid
    · subst hid
      obtain rfl := Option.some.inj hr
      exact Or.inl ⟨_, hr₀, rfl⟩
    · exact Or.inl (hold hr)
  | logout _ _ hshell =>
    rw [hshell] at hr
    exact Or.inl (hold ((Shell.within_popSession _ _).sessions hr))

theorem Shell.mem_lost {s s' : Shell} {c : OpaqueCredential} (h : c ∈ s.lost s') :
    ∃ id r, s.sessions.get? id = some r ∧ r.credential = c := by
  obtain ⟨e, he, rfl⟩ := List.mem_map.mp h
  exact ⟨e.1, e.2, Dict.get?_eq_some.mpr (List.mem_filter.mp he).1, rfl⟩

/-! ### What holds in every state -/

/-- The store is one that calls of the service have brought about. -/
structure Served (issued : List OpaqueId) (s : Store) : Prop where
  coherent : ∃ used, (∀ h ∈ used, h ∈ issued) ∧ Coherent used s
  dated : Dated s
  started : Started s

theorem Served.apply {issued : List OpaqueId} {s : Store} (h : Served issued s) {op : Op}
    (hop : op.StartsNow) (hfresh : ∀ k ∈ op.issues, k ∉ issued) :
    Served (issued ++ op.issues) (Auth.apply s op).2 := by
  obtain ⟨used, hused, hcoherent⟩ := h.coherent
  have happly := hcoherent.apply fun k hk hold => hfresh k hk (hused k hold)
  refine ⟨⟨_, fun k hk => ?_, happly⟩, apply_dated s op h.dated, h.started.apply hcoherent hop⟩
  rw [List.mem_append] at hk ⊢
  exact hk.imp_left (hused k)

/-- Everything that was dropped is signed out, but for what the dropping call has still to revoke. -/
structure Settled (issued : List OpaqueId) (sys : System) : Prop where
  served : Served issued sys.store
  sessions : ∀ id r, sys.world.shell.sessions.get? id = some r → r.credential.handle ∈ issued
  installing : ∀ call c now, sys.world.stages call = some (.installing c now) → c.handle ∈ issued
  dropped : ∀ call, ∀ c ∈ sys.dropped call, c.handle ∈ issued ∧
    (SignedOut sys.store c ∨ ∃ debt, sys.debts call = some debt ∧ c ∈ debt.credentials)
  gone : ∀ c ∈ sys.gone, c.handle ∈ issued ∧ SignedOut sys.store c

variable {issued : List OpaqueId} {sys : System}

/-- A call of the service, whoever makes it. -/
theorem Settled.apply (h : Settled issued sys) {op : Op} (hop : op.StartsNow)
    (hfresh : ∀ k ∈ op.issues, k ∉ issued) :
    Settled (issued ++ op.issues) { sys with store := (Auth.apply sys.store op).2 } := by
  have hmore : ∀ {k : OpaqueId}, k ∈ issued → k ∈ issued ++ op.issues := List.mem_append_left _
  have hkeep : ∀ {c : OpaqueCredential}, c.handle ∈ issued → SignedOut sys.store c →
      SignedOut (Auth.apply sys.store op).2 c :=
    fun hissued hc => hc.apply fun hnew => hfresh _ hnew hissued
  refine ⟨h.served.apply hop hfresh, fun id r hr => hmore (h.sessions id r hr),
    fun call c now hc => hmore (h.installing call c now hc), fun call c hc => ?_, fun c hc => ?_⟩
  · obtain ⟨hissued, hout⟩ := h.dropped call c hc
    exact ⟨hmore hissued, hout.imp_left (hkeep hissued)⟩
  · obtain ⟨hissued, hout⟩ := h.gone c hc
    exact ⟨hmore hissued, hkeep hissued hout⟩

theorem Settled.mono (h : Settled issued sys) {more : List OpaqueId}
    (hmore : ∀ k ∈ issued, k ∈ more) : Settled more sys := by
  obtain ⟨used, hused, hcoherent⟩ := h.served.coherent
  refine ⟨⟨⟨used, fun k hk => hmore k (hused k hk), hcoherent⟩, h.served.dated, h.served.started⟩,
    fun id r hr => hmore _ (h.sessions id r hr), fun call c now hc => hmore _ (h.installing call c now hc),
    fun call c hc => ?_, fun c hc => ?_⟩
  · exact (h.dropped call c hc).imp_left (hmore _)
  · exact (h.gone c hc).imp_left (hmore _)

/-- A call that owes nothing gives its reply. -/
theorem Settled.reply (h : Settled issued sys) {call : Nat} (hdebt : sys.debts call = none)
    (r : Reply) : Settled issued (sys.reply call r).2 := by
  unfold System.reply
  dsimp only
  split_ifs
  · refine ⟨h.served, h.sessions, h.installing, h.dropped, fun c hc => ?_⟩
    rcases List.mem_append.mp hc with hdropped | hover
    · obtain ⟨hissued, hout | ⟨debt, howed, -⟩⟩ := h.dropped call c hdropped
      · exact ⟨hissued, hout⟩
      · exact nomatch hdebt.symm.trans howed
    · exact h.gone c hover
  · exact h

theorem Settled.abort (h : Settled issued sys) (call : Nat) : Settled issued (sys.abort call).2 := by
  refine ⟨h.served, h.sessions, fun call' c now hc => ?_, fun call' c hc => ?_, h.gone⟩
  · exact h.installing call' c now (sys.world.noArrival_leave call call' c now hc)
  · dsimp only [System.abort] at hc ⊢
    rw [Function.update_apply] at hc ⊢
    split_ifs at hc ⊢ with hcall
    · exact nomatch hc
    · exact h.dropped call' c hc

/-- The next credential that a call owes is signed out. -/
theorem Settled.pay (h : Settled issued sys) {call : Nat} {c : OpaqueCredential}
    {cs : List OpaqueCredential} {r : Reply} (hdebt : sys.debts call = some ⟨c :: cs, r⟩)
    (hout : SignedOut sys.store c) (next : Option Debt)
    (hnext : ∀ x ∈ cs, ∃ debt, next = some debt ∧ x ∈ debt.credentials) :
    Settled issued { sys with debts := Function.update sys.debts call next } := by
  refine ⟨h.served, h.sessions, h.installing, fun call' x hx => ?_, h.gone⟩
  obtain ⟨hissued, hor⟩ := h.dropped call' x hx
  refine ⟨hissued, ?_⟩
  dsimp only
  rw [Function.update_apply]
  split_ifs with hcall
  · subst hcall
    rcases hor with hsigned | ⟨debt, howed, hmem⟩
    · exact Or.inl hsigned
    · obtain rfl := Option.some.inj (hdebt.symm.trans howed)
      rcases List.mem_cons.mp hmem with rfl | hrest
      · exact Or.inl hout
      · exact Or.inr (hnext x hrest)
  · exact hor

/-- A section of the shell, of a call that owes nothing. -/
theorem Settled.proceed (h : Settled issued sys) (sessionTtlSeconds : Nat) {e : Event}
    (hdebt : sys.debts e.call = none)
    (hexchange : ∀ call c, e = .exchangeBootstrap call (.ok c) → c.handle ∈ issued) :
    Settled issued (sys.proceed sessionTtlSeconds e).2 := by
  have hmove := sys.world.step_move sessionTtlSeconds e
  have hstages : ∀ call c now, (sys.world.step sessionTtlSeconds e).2.stages call =
      some (.installing c now) → c.handle ∈ issued := by
    intro call c now hc
    by_cases he : ∃ call' x, e = .exchangeBootstrap call' x
    · obtain ⟨call', x, rfl⟩ := he
      rcases sys.world.exchange_installing sessionTtlSeconds call' hc with hold | rfl
      · exact h.installing call c now hold
      · exact hexchange call' c rfl
    · have hne : ∀ call' x, e ≠ .exchangeBootstrap call' x := fun call' x hx => he ⟨call', x, hx⟩
      exact h.installing call c now (sys.world.step_noArrival sessionTtlSeconds hne call c now hc)
  have hsessions : ∀ id r, (sys.world.step sessionTtlSeconds e).2.shell.sessions.get? id = some r →
      r.credential.handle ∈ issued := by
    intro id r hr
    rcases hmove.session hr with ⟨r₀, hr₀, hsame⟩ | ⟨call, now, hc⟩
    · exact hsame ▸ h.sessions id r₀ hr₀
    · exact h.installing call _ now hc
  have hlost : ∀ c ∈ sys.world.shell.lost (sys.world.step sessionTtlSeconds e).2.shell,
      c.handle ∈ issued := by
    intro c hc
    obtain ⟨id, r, hr, rfl⟩ := Shell.mem_lost hc
    exact h.sessions id r hr
  have hworld : Settled issued { sys with world := (sys.world.step sessionTtlSeconds e).2 } :=
    ⟨h.served, hsessions, hstages, h.dropped, h.gone⟩
  unfold System.proceed
  dsimp only
  split_ifs with hoverflow hnone
  · exact hworld.abort _
  · -- nothing is lost, so the record stays
    rw [hnone, List.append_nil, Function.update_eq_self]
    exact hworld.reply hdebt _
  · refine ⟨h.served, hsessions, hstages, fun call c hc => ?_, h.gone⟩
    dsimp only at hc ⊢
    rw [Function.update_apply] at hc ⊢
    split_ifs at hc ⊢ with hcall
    · rcases List.mem_append.mp hc with hold | hnew
      · obtain ⟨hissued, hout | ⟨debt, howed, -⟩⟩ := h.dropped e.call c hold
        · exact ⟨hissued, Or.inl hout⟩
        · exact nomatch hdebt.symm.trans howed
      · exact ⟨hlost c hnew, Or.inr ⟨_, rfl, hnew⟩⟩
    · exact h.dropped call c hc

theorem Settled.step (h : Settled issued sys) (sessionTtlSeconds : Nat) {a : Act}
    (hfresh : ∀ k ∈ a.issues, k ∉ issued) (hclock : ¬a.RollsBack sys) :
    Settled (issued ++ a.issues) (sys.step sessionTtlSeconds a).2 := by
  have hmono : Settled (issued ++ a.issues) sys := h.mono fun k => List.mem_append_left _
  cases a with
  | shell e =>
    rw [System.step]
    split_ifs with hcan
    · refine hmono.proceed sessionTtlSeconds hcan.2 ?_
      rintro call c rfl
      exact nomatch hcan.1
    · exact hmono
  | exchange call p now =>
    rw [System.step]
    split
    · next bootstrap _ hdebt _ =>
      have happly := h.apply (show (p.exchange bootstrap now).StartsNow from rfl) hfresh
      have hsession : p.session.handle ∈ issued ++ (p.exchange bootstrap now).issues :=
        List.mem_append_right _ List.mem_cons_self
      rcases hout : Auth.apply sys.store (p.exchange bootstrap now) with ⟨out, store⟩
      rw [hout] at happly
      dsimp only
      split
      · refine happly.proceed sessionTtlSeconds hdebt ?_
        intro call' c hc
        cases hc
        exact hsession
      · exact happly.proceed sessionTtlSeconds hdebt fun _ _ hc => nomatch hc
      · exact happly.proceed sessionTtlSeconds hdebt fun _ _ hc => nomatch hc
    · exact hmono
  | authenticate call now authNow =>
    rw [System.step]
    split
    · next session hdebt _ =>
      have happly := @Settled.apply _ _ h (.authenticateSession session.credential
        session.credential.digest authNow) trivial hfresh
      dsimp only
      split
      · exact happly.proceed sessionTtlSeconds (e := .authenticateSession call now false) hdebt
          fun _ _ hc => nomatch hc
      · exact happly.proceed sessionTtlSeconds (e := .authenticateSession call now true) hdebt
          fun _ _ hc => nomatch hc
      · exact happly.proceed sessionTtlSeconds (e := .raises call) hdebt fun _ _ hc => nomatch hc
    · exact hmono
  | revoke call now =>
    rw [System.step]
    split
    · next c cs r hdebt =>
      have happly := @Settled.apply _ _ h (.revokeSession c c.digest now) trivial hfresh
      have hout : SignedOut (Auth.apply sys.store (.revokeSession c c.digest now)).2 c :=
        signedOut_revokeSession h.served.dated h.served.started
          fun hback => hclock ⟨c, cs, r, hdebt, hback⟩
      rcases hresult : Auth.apply sys.store (.revokeSession c c.digest now) with ⟨out, store⟩
      rw [hresult] at happly hout
      dsimp only
      have hpaid := @Settled.pay _ _ happly call c cs r hdebt hout
      split
      · exact (hpaid none nofun).reply (Function.update_self ..) r
      · exact (hpaid none nofun).reply (Function.update_self ..) r
      · exact hpaid _ fun x hx => ⟨_, rfl, hx⟩
      · exact hpaid _ fun x hx => ⟨_, rfl, hx⟩
      · exact happly.abort call
    · exact hmono
  | raises call =>
    rw [System.step]
    split
    · exact hmono.abort call
    · exact hmono
  | service op starts => exact h.apply starts hfresh

/-! ### Runs -/

/-- No handle is issued twice. -/
def Fresh (acts : List Act) : Prop := (acts.flatMap Act.issues).Nodup

namespace Sample

end Sample

end MyCogni.Web
