import MyCogni.Auth.Durable
import MyCogni.Base.JsonWords

/-! Wrong proofs against the one-use records of the durable store. A wrong proof costs an attempt
in memory, but a record without attempts is no valid record, and the decision that spends the last
attempt is never written. -/

namespace MyCogni.Auth
open Command

/-- A record that is presented with a proof and used once. -/
inductive OneUse where
  | bootstrap (handle : OpaqueId)
  | recovery (handle : OpaqueId)
  | stepUp (handle : OpaqueId)
deriving DecidableEq

def Store.attempts? (s : Store) : OneUse → Option Attempts
  | .bootstrap handle => (s.bootstraps.get? handle).map (·.toAttempts)
  | .recovery handle => (s.recoveries.get? handle).map (·.toAttempts)
  | .stepUp handle => (s.stepUps.get? handle).map (·.toAttempts)

section Attempts
variable {s : Store} {handle : OpaqueId}

theorem attempts?_bootstrap {b : BootstrapRecord} (h : s.bootstraps.get? handle = some b) :
    s.attempts? (.bootstrap handle) = some b.toAttempts := congrArg (Option.map _) h

theorem attempts?_recovery {r : RecoveryRecord} (h : s.recoveries.get? handle = some r) :
    s.attempts? (.recovery handle) = some r.toAttempts := congrArg (Option.map _) h

theorem attempts?_stepUp {c : StepUpRecord} (h : s.stepUps.get? handle = some c) :
    s.attempts? (.stepUp handle) = some c.toAttempts := congrArg (Option.map _) h

theorem attempts?_putBootstrap (s : Store) {b : BootstrapRecord} (h : b.handle = handle) :
    (s.putBootstrap b).attempts? (.bootstrap handle) = some b.toAttempts :=
  attempts?_bootstrap (Table.get?_put_of_eq _ h)

theorem attempts?_putRecovery (s : Store) {r : RecoveryRecord} (h : r.handle = handle) :
    (s.putRecovery r).attempts? (.recovery handle) = some r.toAttempts :=
  attempts?_recovery (Table.get?_put_of_eq _ h)

theorem attempts?_putStepUp (s : Store) {c : StepUpRecord} (h : c.handle = handle) :
    (s.putStepUp c).attempts? (.stepUp handle) = some c.toAttempts :=
  attempts?_stepUp (Table.get?_put_of_eq _ h)

/-- No record without attempts passes the checks of its constructor. -/
theorem RecordsValid.attempts_pos (hs : RecordsValid s) {p : OneUse} {u : Attempts}
    (h : s.attempts? p = some u) : 1 ≤ u.attemptsRemaining := by
  cases p with
  | bootstrap k =>
    obtain ⟨b, hb, rfl⟩ := Option.map_eq_some_iff.mp h
    exact (hs.bootstraps b (Table.get?_eq_some.mp hb).1).2.1
  | recovery k =>
    obtain ⟨r, hr, rfl⟩ := Option.map_eq_some_iff.mp h
    exact (hs.recoveries r (Table.get?_eq_some.mp hr).1).2.2
  | stepUp k =>
    obtain ⟨c, hc, rfl⟩ := Option.map_eq_some_iff.mp h
    exact (hs.stepUps c (Table.get?_eq_some.mp hc).1).2.2.2

end Attempts

/-- The one-use record that a call presents. -/
def Op.presents : Op → Option OneUse
  | exchangeBootstrap handle _ _ _ _ _ => some (.bootstrap handle)
  | exchangeReprovisionBootstrap handle _ _ _ _ _ _ _ _ _ _ _ => some (.bootstrap handle)
  | recover recovery _ _ _ _ => some (.recovery recovery.handle)
  | consumeStepUp challenge _ _ _ _ _ _ _ _ => some (.stepUp challenge.handle)
  | _ => none

/-- An unspent record is met inside its window with a digest that is not its own. -/
def Attempts.Missed (u : Attempts) (notBeforeUtc expiresAtUtc : Datetime)
    (digest presented : SecretDigest) (now : Datetime) : Prop :=
  u.consumed = false ∧ timeDenial now notBeforeUtc expiresAtUtc = none ∧ digest ≠ presented

instance (u : Attempts) (nb exp : Datetime) (digest presented : SecretDigest) (now : Datetime) :
    Decidable (u.Missed nb exp digest presented now) := inferInstanceAs (Decidable (_ ∧ _ ∧ _))

/-- The record against whose digest the call compares a wrong proof. -/
def Op.guess? (s : Store) : Op → Option OneUse
  | exchangeBootstrap handle d now _ _ _ => do
    let record ← s.bootstraps.get? handle
    let actor ← s.actors.get? record.actorId
    if record.rootPurpose ≠ some .reprovision ∧ actor.lastObservedUtc ≤ now ∧
      record.Missed record.notBeforeUtc record.expiresAtUtc record.digest d now
    then some (.bootstrap handle) else none
  | exchangeReprovisionBootstrap handle d sv sd c cd now _ _ _ tombstones replay =>
    match burnProof handle sv sd c cd now tombstones replay s with
    | (.ok (record, _), s') => do
      let actor ← s'.actors.get? record.actorId
      if actor.lastObservedUtc ≤ now ∧
        record.Missed record.notBeforeUtc record.expiresAtUtc record.digest d now
      then some (.bootstrap handle) else none
    | (.error _, _) => none
  | recover recovery d now _ _ => do
    let record ← s.recoveries.get? recovery.handle
    let actor ← s.actors.get? record.actorId
    if actor.lastObservedUtc ≤ now ∧
      record.Missed record.notBeforeUtc record.expiresAtUtc record.digest d now
    then some (.recovery recovery.handle) else none
  | consumeStepUp challenge cd session d _ _ _ _ now => do
    let record ← s.stepUps.get? challenge.handle
    match authenticateSessionLocked session d now s with
    | (.ok _, s') => do
      let actor ← s'.actors.get? record.actorId
      if session.handle = record.sessionId ∧ record.epoch = actor.epoch ∧
        record.Missed record.notBeforeUtc record.expiresAtUtc record.digest cd now
      then some (.stepUp challenge.handle) else none
    | (.error _, _) => none
  | _ => none

/-! ### What a wrong proof does in memory -/

section Volatile
variable {s : Store} {now : Datetime}

theorem read_run (s : Store) : (read : Decision Store) s = (.ok s, s) := rfl

theorem observe_ok {actorId : OpaqueId} {actor : ActorRecord}
    (found : s.actors.get? actorId = some actor) (h : actor.lastObservedUtc ≤ now) :
    observe actorId now s = (.ok (), s.observed actor now) := by
  rw [observe, bind_ok (read_run s), bind_ok (demand_some found _ s), bind_ok (require_pos h _ s)]
  rfl

theorem presentLive_missed {u : Attempts} {nb exp : Datetime} {digest presented : SecretDigest}
    {save : Attempts → Decision Unit} {f : Attempts → Store → Store}
    (hsave : ∀ u, save u = write (f u)) (h : u.Missed nb exp digest presented now) :
    presentLive u nb exp digest presented now save s =
      (.error (.denied u.wrongProofDenial), f (u.wrongProof now) s) := by
  rw [presentLive, h.2.1]
  dsimp only
  rw [if_neg h.2.2, hsave]
  rfl

theorem presentOnce_missed {u : Attempts} {nb exp : Datetime} {digest presented : SecretDigest}
    {save : Attempts → Decision Unit} {f : Attempts → Store → Store}
    (hsave : ∀ u, save u = write (f u)) (h : u.Missed nb exp digest presented now) :
    presentOnce u nb exp digest presented now save s =
      (.error (.denied u.wrongProofDenial), f (u.wrongProof now) s) := by
  rw [presentOnce, bind_ok (require_pos h.1 _ s)]
  exact presentLive_missed hsave h

end Volatile

/-- The call is denied for a wrong proof, and leaves the record with an attempt less. -/
def Misses (s : Store) (op : Op) (p : OneUse) : Prop :=
  ∃ u now, s.attempts? p = some u ∧ u.consumed = false ∧
    (apply s op).1 = .error (.denied u.wrongProofDenial) ∧
    (apply s op).2.attempts? p = some (u.wrongProof now)

section Volatile
variable {s : Store} {p : OneUse}

theorem misses_exchangeBootstrap {handle : OpaqueId} {d : SecretDigest} {now : Datetime}
    {session : SessionRecord} {recovery : RecoveryRecord} {replacement : RootCapabilityIssue}
    (h : (Op.exchangeBootstrap handle d now session recovery replacement).guess? s = some p) :
    Misses s (.exchangeBootstrap handle d now session recovery replacement) p := by
  obtain ⟨record, hrecord, h⟩ := Option.bind_eq_some_iff.mp h
  obtain ⟨actor, hactor, h⟩ := Option.bind_eq_some_iff.mp h
  rw [Option.ite_none_right_eq_some] at h
  obtain ⟨⟨hpurpose, hobserved, hmissed⟩, h⟩ := h
  cases h
  have hmiss : presentOnce record.toAttempts record.notBeforeUtc record.expiresAtUtc record.digest
      d now record.save (s.observed actor now) =
        (.error (.denied record.wrongProofDenial), (s.observed actor now).putBootstrap
          { record with toAttempts := record.toAttempts.wrongProof now }) :=
    presentOnce_missed (f := fun u s => s.putBootstrap { record with toAttempts := u })
      (fun _ => rfl) hmissed
  have hrun : exchangeBootstrap handle d now session recovery replacement s =
      (.error (.denied record.wrongProofDenial), (s.observed actor now).putBootstrap
        { record with toAttempts := record.toAttempts.wrongProof now }) := by
    rw [exchangeBootstrap, bind_ok (read_run s), bind_ok (demand_some hrecord _ s),
      bind_ok (require_pos hpurpose _ s), bind_ok (observe_ok hactor hobserved), bind_error hmiss]
  refine ⟨record.toAttempts, now, attempts?_bootstrap hrecord, hmissed.1, ?_, ?_⟩
  · rw [apply, Op.decide, bind_error hrun]
  · rw [apply, Op.decide, bind_error hrun]
    exact attempts?_putBootstrap _ (show record.handle = handle from Table.key_of_get? hrecord)

theorem misses_recover {recovery : OpaqueCredential} {d : SecretDigest} {now : Datetime}
    {session : SessionIssue} {replacement : RecoveryIssue}
    (h : (Op.recover recovery d now session replacement).guess? s = some p) :
    Misses s (.recover recovery d now session replacement) p := by
  obtain ⟨record, hrecord, h⟩ := Option.bind_eq_some_iff.mp h
  obtain ⟨actor, hactor, h⟩ := Option.bind_eq_some_iff.mp h
  rw [Option.ite_none_right_eq_some] at h
  obtain ⟨⟨hobserved, hmissed⟩, h⟩ := h
  cases h
  have hmiss : presentOnce record.toAttempts record.notBeforeUtc record.expiresAtUtc record.digest
      d now record.save (s.observed actor now) =
        (.error (.denied record.wrongProofDenial), (s.observed actor now).putRecovery
          { record with toAttempts := record.toAttempts.wrongProof now }) :=
    presentOnce_missed (f := fun u s => s.putRecovery { record with toAttempts := u })
      (fun _ => rfl) hmissed
  have hrun : recover recovery d now session replacement s =
      (.error (.denied record.wrongProofDenial), (s.observed actor now).putRecovery
        { record with toAttempts := record.toAttempts.wrongProof now }) := by
    rw [recover, bind_ok (read_run s), bind_ok (demand_some hrecord _ s),
      bind_ok (observe_ok hactor hobserved), bind_error hmiss]
  refine ⟨record.toAttempts, now, attempts?_recovery hrecord, hmissed.1, ?_, ?_⟩
  · rw [apply, Op.decide, bind_error hrun]
  · rw [apply, Op.decide, bind_error hrun]
    exact attempts?_putRecovery _ (show record.handle = recovery.handle from Table.key_of_get? hrecord)

theorem misses_consumeStepUp {challenge : OpaqueCredential} {cd : SecretDigest}
    {session : OpaqueCredential} {d : SecretDigest} {a q : OpaqueId} {purpose : AuthPurpose}
    {scopes : Finset AuthScope} {now : Datetime}
    (h : (Op.consumeStepUp challenge cd session d a q purpose scopes now).guess? s = some p) :
    Misses s (.consumeStepUp challenge cd session d a q purpose scopes now) p := by
  obtain ⟨record, hrecord, h⟩ := Option.bind_eq_some_iff.mp h
  split at h
  case h_2 => exact nomatch h
  rename_i r s' hsession
  obtain ⟨actor, hactor, h⟩ := Option.bind_eq_some_iff.mp h
  rw [Option.ite_none_right_eq_some] at h
  obtain ⟨⟨hown, hepoch, hmissed⟩, h⟩ := h
  cases h
  have hmiss : presentOnce record.toAttempts record.notBeforeUtc record.expiresAtUtc record.digest
      cd now record.save s' =
        (.error (.denied record.wrongProofDenial), s'.putStepUp
          { record with toAttempts := record.toAttempts.wrongProof now }) :=
    presentOnce_missed (f := fun u s => s.putStepUp { record with toAttempts := u })
      (fun _ => rfl) hmissed
  have hrun : consumeStepUp challenge cd session d a q purpose scopes now s =
      (.error (.denied record.wrongProofDenial), s'.putStepUp
        { record with toAttempts := record.toAttempts.wrongProof now }) := by
    rw [consumeStepUp, bind_ok (read_run s), bind_ok (demand_some hrecord _ s), bind_ok hsession,
      bind_ok (require_pos hown _ s'), bind_ok (read_run s'), bind_ok (demand_some hactor _ s'),
      bind_ok (require_pos hepoch _ s'), bind_error hmiss]
  refine ⟨record.toAttempts, now, attempts?_stepUp hrecord, hmissed.1, ?_, ?_⟩
  · rw [apply, Op.decide, bind_error hrun]
  · rw [apply, Op.decide, bind_error hrun]
    exact attempts?_putStepUp _ (show record.handle = challenge.handle from Table.key_of_get? hrecord)

/-- Burning a ceremony proof finds its bootstrap and leaves it. -/
theorem burnProof_record {handle : OpaqueId} {sv : OpaqueCredential} {sd : SecretDigest}
    {c : OpaqueCredential} {cd : SecretDigest} {now : Datetime} {tombstones replay : Int}
    {record : BootstrapRecord} {root : RootCapabilityRecord} {s' : Store}
    (h : burnProof handle sv sd c cd now tombstones replay s = (.ok (record, root), s')) :
    s.bootstraps.get? handle = some record := by
  have hspec : wp (burnProof handle sv sd c cd now tombstones replay)
      (fun burned _ => s.bootstraps.get? handle = some burned.1) (Ends s (.cancelBootstrap handle now))
      s := wp_burnProof fun _ _ _ _ hproof => hproof.foundRecord
  have hok : (burnProof handle sv sd c cd now tombstones replay s).1 = .ok (record, root) := by
    rw [h]
  exact (wp_iff.mp hspec).1 _ hok

theorem misses_exchangeReprovisionBootstrap {handle : OpaqueId} {d : SecretDigest}
    {sv : OpaqueCredential} {sd : SecretDigest} {c : OpaqueCredential} {cd : SecretDigest}
    {now : Datetime} {session : SessionRecord} {recovery : RecoveryRecord}
    {replacement : RootCapabilityIssue} {tombstones replay : Int}
    (h : (Op.exchangeReprovisionBootstrap handle d sv sd c cd now session recovery replacement
      tombstones replay).guess? s = some p) :
    Misses s (.exchangeReprovisionBootstrap handle d sv sd c cd now session recovery replacement
      tombstones replay) p := by
  rw [Op.guess?] at h
  split at h
  case h_2 => exact nomatch h
  rename_i record root s' hburn
  obtain ⟨actor, hactor, h⟩ := Option.bind_eq_some_iff.mp h
  rw [Option.ite_none_right_eq_some] at h
  obtain ⟨⟨hobserved, hmissed⟩, h⟩ := h
  cases h
  have hrecord := burnProof_record hburn
  have hmiss : presentLive record.toAttempts record.notBeforeUtc record.expiresAtUtc record.digest
      d now record.save (s'.observed actor now) =
        (.error (.denied record.wrongProofDenial), (s'.observed actor now).putBootstrap
          { record with toAttempts := record.toAttempts.wrongProof now }) :=
    presentLive_missed (f := fun u s => s.putBootstrap { record with toAttempts := u })
      (fun _ => rfl) hmissed
  have hrun : exchangeReprovisionBootstrap handle d sv sd c cd now session recovery replacement
      tombstones replay s =
      (.error (.denied record.wrongProofDenial), (s'.observed actor now).putBootstrap
        { record with toAttempts := record.toAttempts.wrongProof now }) := by
    rw [exchangeReprovisionBootstrap, bind_ok hburn, reprovision,
      bind_ok (observe_ok hactor hobserved), bind_ok (require_pos hmissed.1 _ _), bind_error hmiss]
  refine ⟨record.toAttempts, now, attempts?_bootstrap hrecord, hmissed.1, ?_, ?_⟩
  · rw [apply, Op.decide, bind_error hrun]
  · rw [apply, Op.decide, bind_error hrun]
    exact attempts?_putBootstrap _ (show record.handle = handle from Table.key_of_get? hrecord)

theorem misses_of_guess {op : Op} (h : op.guess? s = some p) : Misses s op p := by
  cases op with
  | exchangeBootstrap => exact misses_exchangeBootstrap h
  | exchangeReprovisionBootstrap => exact misses_exchangeReprovisionBootstrap h
  | recover => exact misses_recover h
  | consumeStepUp => exact misses_consumeStepUp h
  | _ => exact nomatch h

end Volatile

/-! ### Wrong proofs over a run -/

section Machine
variable (R : Reader)

/-- The store in the database, as it is loaded. -/
def Runtime.stored (r : Runtime) : Option Store := (loadState R r.database).toOption.map Prod.fst

def Runtime.attempts? (r : Runtime) (p : OneUse) : Option Attempts :=
  (r.stored R).bind fun s => s.attempts? p

/-- The record against whose digest an input compares a wrong proof. -/
def Runtime.guess? (r : Runtime) : Input → Option OneUse
  | .decision _ call fault =>
    if r.acceptingNewWork = true ∧ fault ≠ .beforeCommit then
      (r.stored R).bind fun s => call.1.guess? s
    else none
  | _ => none

/-- The number of wrong proofs that a run compares with the digest of the record. -/
def guesses (p : OneUse) (r : Runtime) : List Input → Nat
  | [] => 0
  | i :: is => (if r.guess? R i = some p then 1 else 0) + guesses p (step R r i).2 is

/-- A decision that presents the record returns a value. -/
def Runtime.Accepts (r : Runtime) (p : OneUse) : Input → Prop
  | .decision handle call fault =>
    call.1.presents = some p ∧ ∃ v, (r.decision R handle call.1 fault).1.answer = .ok (.ok v)
  | _ => False

/-- The record is guessed at most `n` times, and the last guess spends it for good. -/
structure Bounded (p : OneUse) (n : Nat) (r : Runtime) (is : List Input) : Prop where
  compared : guesses R p r is ≤ n
  spent : ∀ before i after, is = before ++ i :: after → guesses R p r before + 1 = n →
    (run (step R) r before).guess? R i = some p →
    ∃ u, (run (step R) r (before ++ [i])).attempts? R p = some u ∧ u.consumed = true
  ended : ∀ before i between j after, is = before ++ i :: (between ++ j :: after) →
    guesses R p r before + 1 = n → (run (step R) r before).guess? R i = some p →
    ¬(run (step R) r (before ++ i :: between)).Accepts R p j

/-- What a wrong proof leaves in the database: an unspent record, with an attempt less where the
decision was written. -/
structure Spared (u : Attempts) (r : Runtime) (p : OneUse) (out : Report × Runtime) : Prop where
  live : ∃ u', out.2.attempts? R p = some u' ∧ u'.consumed = false ∧ 1 ≤ u'.attemptsRemaining ∧
    (u' = u ∨ u' = { u with attemptsRemaining := u.attemptsRemaining - 1 })
  last : u.attemptsRemaining = 1 →
    out.2.database = r.database ∧ ∃ e, out.1.answer = .error e

end Machine

section Run
variable {R : Reader}

theorem Image.stored {ops : List Op} {r : Runtime} (h : Image R ops r.database)
    (hops : ∀ op ∈ ops, op.IsDecision) : r.stored R = some (run apply .empty ops) := by
  rw [Runtime.stored, h.load hops]
  rfl

/-- A stored record has an attempt left. -/
theorem Image.attempts_pos {ops : List Op} {db : Database} (h : Image R ops db) {p : OneUse}
    {u : Attempts} (hu : (run apply .empty ops).attempts? p = some u) :
    1 ≤ u.attemptsRemaining := by
  have hne : ops ≠ [] := by
    rintro rfl
    cases p <;> exact nomatch hu
  obtain ⟨payload, hpayload⟩ := h.snapshot_ne hne
  exact (snapshot_eq_some.mp hpayload).1.1.records.attempts_pos hu

theorem wrongProof_of_pos {u : Attempts} {now : Datetime}
    (h : 1 ≤ (u.wrongProof now).attemptsRemaining) :
    u.wrongProof now = { u with attemptsRemaining := u.attemptsRemaining - 1 } ∧
      u.attemptsRemaining ≠ 1 := by
  unfold Attempts.wrongProof at h ⊢
  split_ifs at h ⊢ with hlast
  · exact absurd h (Nat.not_succ_le_zero 0)
  · exact ⟨rfl, fun hone => hlast (by rw [hone])⟩

/-- A wrong proof never spends the record in the database. -/
theorem guess_spared {ops : List Op} {r : Runtime} (himage : Image R ops r.database)
    (hops : ∀ op ∈ ops, op.IsDecision) {p : OneUse} {i : Input}
    (h : r.guess? R i = some p) :
    ∃ u, r.attempts? R p = some u ∧ Spared R u r p (step R r i) := by
  cases i with
  | armCrashOnce | pause | restart => exact nomatch h
  | decision handle call fault =>
    have hstored := himage.stored hops
    rw [Runtime.guess?, Option.ite_none_right_eq_some, hstored, Option.bind_some] at h
    obtain ⟨u, now, hu, hlive, -, hafter⟩ := misses_of_guess h.2
    have hpos := himage.attempts_pos hu
    have hattempts : r.attempts? R p = some u := by
      rw [Runtime.attempts?, hstored, Option.bind_some, hu]
    refine ⟨u, hattempts, ?_⟩
    rcases decision_cases R r handle call.1 fault with
      ⟨-, herror, hdb⟩ | ⟨result, written, ht, -, -, hdb, -⟩
    · have hsame : (step R r (.decision handle call fault)).2.attempts? R p = some u := by
        rw [← hattempts, step, Runtime.attempts?, Runtime.attempts?, Runtime.stored,
          Runtime.stored, hdb]
      exact ⟨⟨u, hsame, hlive, hpos, Or.inl rfl⟩, fun _ => ⟨hdb, herror⟩⟩
    · -- The decision was written, so the record was valid and kept an attempt.
      have himage' := (himage.transact hops ht).2
      have hrun : run apply .empty (ops ++ [call.1]) = (apply (run apply .empty ops) call.1).2 := by
        rw [run_append]
        rfl
      rw [← hrun] at hafter
      rw [← hdb] at himage'
      have hpos' := himage'.attempts_pos hafter
      obtain ⟨hwrong, hne⟩ := wrongProof_of_pos hpos'
      have hops' : ∀ op ∈ ops ++ [call.1], op.IsDecision := by
        intro op hop
        rcases List.mem_append.mp hop with hop | hop
        · exact hops op hop
        · rw [List.mem_singleton.mp hop]
          exact call.2
      have hstored' : (step R r (.decision handle call fault)).2.attempts? R p =
          some (u.wrongProof now) := by
        rw [step, Runtime.attempts?, himage'.stored hops', Option.bind_some, hafter]
      refine ⟨⟨_, hstored', ?_, hpos', Or.inr hwrong⟩, fun hone => absurd hone hne⟩
      rw [hwrong]
      exact hlive

theorem guesses_nil (p : OneUse) (r : Runtime) : guesses R p r [] = 0 := rfl

/-- A run with `n` guesses has an `n`-th guess. -/
theorem exists_guess {p : OneUse} {n : Nat} (hn : 1 ≤ n) {r : Runtime} {is : List Input}
    (h : n ≤ guesses R p r is) :
    ∃ before i after, is = before ++ i :: after ∧ guesses R p r before + 1 = n ∧
      (run (step R) r before).guess? R i = some p := by
  induction is generalizing r n with
  | nil =>
    rw [guesses_nil] at h
    omega
  | cons i is ih =>
    rw [guesses] at h
    by_cases hi : r.guess? R i = some p
    · by_cases hone : n = 1
      · exact ⟨[], i, is, rfl, by rw [hone, guesses_nil], hi⟩
      · rw [if_pos hi] at h
        obtain ⟨before, j, after, rfl, hcount, hj⟩ :=
          ih (n := n - 1) (r := (step R r i).2) (by omega) (by omega)
        refine ⟨i :: before, j, after, rfl, ?_, hj⟩
        rw [guesses, if_pos hi]
        omega
    · rw [if_neg hi, zero_add] at h
      obtain ⟨before, j, after, rfl, hcount, hj⟩ := ih hn h
      refine ⟨i :: before, j, after, rfl, ?_, hj⟩
      rw [guesses, if_neg hi, zero_add]
      exact hcount

theorem guesses_before {p : OneUse} {r : Runtime} {before after : List Input} {i : Input}
    (h : (run (step R) r before).guess? R i = some p) :
    guesses R p r before + 1 ≤ guesses R p r (before ++ i :: after) := by
  induction before generalizing r with
  | nil =>
    rw [run_nil] at h
    rw [List.nil_append, guesses, guesses, if_pos h]
    omega
  | cons j before ih =>
    rw [run_cons] at h
    rw [List.cons_append, guesses, guesses]
    have := ih h
    omega

end Run

/-- A record that is stored with `n` attempts is guarded by its bound in a run exactly when the run
compares fewer than `n` wrong proofs with it: every wrong proof leaves it unspent, and the last
attempt is never written off. -/
theorem guessing_exact (R : Reader) (is : List Input) (p : OneUse) (n : Nat)
    (hissued : (run (step R) (.opened .empty) is).attempts? R p =
      some { attemptsRemaining := n }) (js : List Input) :
    (Bounded R p n (run (step R) (.opened .empty) is) js ↔
      guesses R p (run (step R) (.opened .empty) is) js < n) ∧
    ∀ before i after, js = before ++ i :: after →
      (run (step R) (.opened .empty) (is ++ before)).guess? R i = some p →
      ∃ u, (run (step R) (.opened .empty) (is ++ before)).attempts? R p = some u ∧
        Spared R u (run (step R) (.opened .empty) (is ++ before)) p
          (step R (run (step R) (.opened .empty) (is ++ before)) i) := by
  have hspared : ∀ (ks : List Input) (i : Input),
      (run (step R) (.opened .empty) ks).guess? R i = some p →
      ∃ u, (run (step R) (.opened .empty) ks).attempts? R p = some u ∧
        Spared R u (run (step R) (.opened .empty) ks) p
          (step R (run (step R) (.opened .empty) ks) i) :=
    fun ks i h => guess_spared (run_image ks) effective_isDecision h
  have hn : 1 ≤ n := by
    have himage := run_image (R := R) is
    have hstored := himage.stored effective_isDecision
    rw [Runtime.attempts?, hstored, Option.bind_some] at hissued
    exact himage.attempts_pos hissued
  refine ⟨⟨fun h => ?_, fun h => ⟨h.le, ?_, ?_⟩⟩, fun before i after _ => hspared (is ++ before) i⟩
  · by_contra hmany
    obtain ⟨before, i, after, rfl, hcount, hguess⟩ := exists_guess hn (not_lt.mp hmany)
    obtain ⟨u, hu, hconsumed⟩ := h.spent before i after rfl hcount hguess
    rw [← run_append] at hguess
    obtain ⟨_, -, hsp⟩ := hspared _ i hguess
    obtain ⟨u', hu', hlive, -⟩ := hsp.live
    have hrun : run (step R) (run (step R) (.opened .empty) is) (before ++ [i]) =
        (step R (run (step R) (.opened .empty) (is ++ before)) i).2 := by
      rw [run_append, run_append]
      rfl
    rw [hrun, hu', Option.some.injEq] at hu
    rw [← hu, hlive] at hconsumed
    exact nomatch hconsumed
  · intro before i after hjs hcount hguess
    have hle : guesses R _ _ before + 1 ≤ guesses R _ _ (before ++ i :: after) :=
      guesses_before hguess
    rw [← hjs] at hle
    omega
  · intro before i between j after hjs hcount hguess
    have hle : guesses R _ _ before + 1 ≤
        guesses R _ _ (before ++ i :: (between ++ j :: after)) := guesses_before hguess
    rw [← hjs] at hle
    omega

/-! ### Runs without faults -/

theorem solid_secretWords : ∀ word ∈ secretWords, Solid word := by
  have hword : ∀ word ∈ secretWords, word ≠ [] ∧ structural.all (fun c => c ∉ word) = true := by
    decide +kernel
  intro word h
  exact ⟨(hword word h).1, forall_mem_of_all (hword word h).2⟩

/-- A state whose strings hold no reserved word has a snapshot. -/
theorem exists_snapshot {R : Reader} {s : Store} (hs : Exportable s) (hv : Wire.V1 s)
    (hdigits : ((Wire.state R).encode s).digitsOk = true)
    (hclean : ∀ word ∈ secretWords, ((Wire.state R).encode s).lacks word = true) :
    ∃ payload, snapshot R s = some payload := by
  have hrender : canonical R s = some _ := if_pos hdigits
  refine ⟨_, snapshot_eq_some.mpr ⟨⟨hs, hv⟩, hrender, ?_⟩⟩
  rintro ⟨word, hword, h⟩
  exact not_infix_render (solid_secretWords word hword) (hclean word hword) hrender h

/-- The runtime accepts work, with no crash armed, over the image of the calls. -/
structure Serving (R : Reader) (ops : List Op) (r : Runtime) : Prop where
  image : Image R ops r.database
  decisions : ∀ op ∈ ops, op.IsDecision
  accepting : r.acceptingNewWork = true
  unarmed : r.crashOnce = fun _ => none

section Serving
variable {R : Reader} {ops : List Op} {r : Runtime}

/-- A decision that meets no fault. -/
def calmly (op : Op) (h : op.IsDecision) : Input := .decision 0 ⟨op, h⟩ .none

theorem guess?_calmly (h : r.acceptingNewWork = true) {op : Op} (hop : op.IsDecision) :
    r.guess? R (calmly op hop) = (r.stored R).bind fun s => op.guess? s := if_pos ⟨h, by decide⟩

theorem accepts_calmly {p : OneUse} {op : Op} (hop : op.IsDecision) (hp : op.presents = some p)
    {v : Value} (h : (step R r (calmly op hop)).1.answer = .ok (.ok v)) :
    r.Accepts R p (calmly op hop) := ⟨hp, v, h⟩

theorem Serving.decides (h : Serving R ops r) (op : Op) (hop : op.IsDecision)
    {result : Except Halt Value} {payload : Text}
    (hresult : returned (apply (run apply .empty ops) op).1 = .ok result)
    (hp : snapshot R (apply (run apply .empty ops) op).2 = some payload) :
    (step R r (calmly op hop)).1.answer = .ok result ∧
      Serving R (ops ++ [op]) (step R r (calmly op hop)).2 := by
  obtain ⟨written, ht⟩ := h.image.transact_of_snapshot h.decisions hp
  rw [hresult] at ht
  have hdecision : step R r (calmly op hop) =
      (⟨.ok result, some op⟩, { r with database := written }) := by
    rw [calmly, step, Runtime.decision, if_neg (by rw [h.accepting]; decide), if_neg (by decide), ht]
    dsimp only [Except.map]
    rw [h.unarmed, if_neg (by decide), if_neg (by decide)]
  rw [hdecision]
  refine ⟨rfl, (h.image.transact h.decisions ht).2, fun op' hop' => ?_, h.accepting, h.unarmed⟩
  rcases List.mem_append.mp hop' with hop' | hop'
  · exact h.decisions op' hop'
  · rw [List.mem_singleton.mp hop']
    exact hop

theorem Serving.refuses (h : Serving R ops r) (op : Op) (hop : op.IsDecision)
    {result : Except Halt Value}
    (hresult : returned (apply (run apply .empty ops) op).1 = .ok result)
    (hp : snapshot R (apply (run apply .empty ops) op).2 = none) :
    (step R r (calmly op hop)).2 = r := by
  have ht : transact R r.database op = .error .refused := by
    rw [transact_of_load (h.image.load h.decisions), hresult, hp]
    rfl
  rw [calmly, step, Runtime.decision, if_neg (by rw [h.accepting]; decide), if_neg (by decide), ht]

end Serving

namespace Sample

/-- A bootstrap, `16`, that is issued with one attempt. -/
def single : BootstrapRecord :=
  { bootstrap 16 (id 11) (some .initialBootstrap) with attemptsRemaining := 1 }

def oneShot : Op :=
  .createRootBootstrap (capability 11 .initialBootstrap) (digest 11) single (time 10)

def wrongGuess : Op :=
  .exchangeBootstrap (id 16) (digest 17) (time 20) (session 21) (recovery 22) ⟨id 23, digest 23⟩

def rightGuess : Op := exchange 16 (time 30) 21 22 23

theorem setup_isDecision : setup.IsDecision := trivial

theorem oneShot_isDecision : oneShot.IsDecision := trivial

theorem wrongGuess_isDecision : wrongGuess.IsDecision := trivial

theorem rightGuess_isDecision : rightGuess.IsDecision := trivial

def guessing : List Input := [calmly setup setup_isDecision, calmly oneShot oneShot_isDecision]

def guessed : Runtime := run (step .strict) (.opened .empty) guessing

theorem serving_setup :
    Serving .strict [setup] (step .strict (.opened .empty) (calmly setup setup_isDecision)).2 := by
  have hstart : Serving .strict [] (.opened .empty) := ⟨.empty, by simp, rfl, rfl⟩
  have hresult : (apply .empty setup).1 = .ok .unit := by decide +kernel
  have hreturned : returned (apply (run apply .empty []) setup).1 = .ok (.ok .unit) := by
    rw [run_nil, hresult]
    rfl
  obtain ⟨payload, hpayload⟩ :
      ∃ payload, snapshot .strict (apply .empty setup).2 = some payload :=
    exists_snapshot (by decide +kernel) (by decide +kernel) (by decide +kernel) (by decide +kernel)
  exact (hstart.decides setup setup_isDecision hreturned hpayload).2

theorem serving_guessed : Serving .strict [setup, oneShot] guessed := by
  have hresult : (apply (run apply .empty [setup]) oneShot).1 = .ok (.bootstrap single) := by
    decide +kernel
  have hreturned : returned (apply (run apply .empty [setup]) oneShot).1 =
      .ok (.ok (.bootstrap single)) := by
    rw [hresult]
    rfl
  obtain ⟨payload, hpayload⟩ :
      ∃ payload, snapshot .strict (apply (run apply .empty [setup]) oneShot).2 = some payload :=
    exists_snapshot (by decide +kernel) (by decide +kernel) (by decide +kernel) (by decide +kernel)
  have h := (serving_setup.decides oneShot oneShot_isDecision hreturned hpayload).2
  rw [guessed, guessing, run_cons, run_cons, run_nil]
  exact h

theorem attempts_guessed :
    guessed.attempts? .strict (.bootstrap (id 16)) = some { attemptsRemaining := 1 } := by
  rw [Runtime.attempts?, serving_guessed.image.stored serving_guessed.decisions, Option.bind_some]
  decide +kernel

theorem guess_guessed :
    guessed.guess? .strict (calmly wrongGuess wrongGuess_isDecision) = some (.bootstrap (id 16)) := by
  rw [guess?_calmly serving_guessed.accepting,
    serving_guessed.image.stored serving_guessed.decisions, Option.bind_some]
  decide +kernel

theorem wrong_refused : (step .strict guessed (calmly wrongGuess wrongGuess_isDecision)).2 = guessed := by
  have hresult : (apply (run apply .empty [setup, oneShot]) wrongGuess).1 =
      .error (.denied .attemptsExhausted) := by decide +kernel
  have hreturned : returned (apply (run apply .empty [setup, oneShot]) wrongGuess).1 =
      .ok (.error (.denied .attemptsExhausted)) := by
    rw [hresult]
    rfl
  have hinvalid : ¬(Exportable (apply (run apply .empty [setup, oneShot]) wrongGuess).2 ∧
      Wire.V1 (apply (run apply .empty [setup, oneShot]) wrongGuess).2) := by decide +kernel
  exact serving_guessed.refuses wrongGuess wrongGuess_isDecision hreturned (if_neg hinvalid)

theorem right_accepted :
    guessed.Accepts .strict (.bootstrap (id 16)) (calmly rightGuess rightGuess_isDecision) := by
  have hresult : (apply (run apply .empty [setup, oneShot]) rightGuess).1 =
      .ok (.decision { actorId := id 2, representedProfileId := id 3, epoch := 1 }) := by
    decide +kernel
  have hreturned : returned (apply (run apply .empty [setup, oneShot]) rightGuess).1 =
      .ok (.ok (.decision { actorId := id 2, representedProfileId := id 3, epoch := 1 })) := by
    rw [hresult]
    rfl
  obtain ⟨payload, hpayload⟩ : ∃ payload,
      snapshot .strict (apply (run apply .empty [setup, oneShot]) rightGuess).2 = some payload :=
    exists_snapshot (by decide +kernel) (by decide +kernel) (by decide +kernel) (by decide +kernel)
  exact accepts_calmly rightGuess_isDecision rfl
    (serving_guessed.decides rightGuess rightGuess_isDecision hreturned hpayload).1

/-- The one wrong proof that the bootstrap allows is not written, and its secret is accepted
afterwards. -/
theorem last_guess_spared :
    guessed.attempts? .strict (.bootstrap (id 16)) = some { attemptsRemaining := 1 } ∧
    guessed.guess? .strict (calmly wrongGuess wrongGuess_isDecision) = some (.bootstrap (id 16)) ∧
    (step .strict guessed (calmly wrongGuess wrongGuess_isDecision)).2.Accepts .strict
      (.bootstrap (id 16)) (calmly rightGuess rightGuess_isDecision) ∧
    ¬Bounded .strict (.bootstrap (id 16)) 1 guessed
      [calmly wrongGuess wrongGuess_isDecision, calmly rightGuess rightGuess_isDecision] := by
  refine ⟨attempts_guessed, guess_guessed, ?_, fun h => ?_⟩
  · rw [wrong_refused]
    exact right_accepted
  · have hlast : guesses .strict (.bootstrap (id 16)) guessed [] + 1 = 1 := by rw [guesses_nil]
    have hguess : (run (step .strict) guessed []).guess? .strict
        (calmly wrongGuess wrongGuess_isDecision) = some (.bootstrap (id 16)) := by
      rw [run_nil]
      exact guess_guessed
    refine h.ended [] _ [] (calmly rightGuess rightGuess_isDecision) [] rfl hlast hguess ?_
    rw [List.nil_append, run_cons, run_nil, wrong_refused]
    exact right_accepted

/-- Before the wrong proof is compared, the bound still holds. -/
theorem guessing_started :
    Bounded .strict (.bootstrap (id 16)) 1 (run (step .strict) (.opened .empty) guessing) [] := by
  have hissued := attempts_guessed
  rw [guessed] at hissued
  have hexact := (guessing_exact .strict guessing (.bootstrap (id 16)) 1 hissued []).1
  refine hexact.mpr ?_
  rw [guesses_nil]
  exact Nat.one_pos

end Sample

end MyCogni.Auth
