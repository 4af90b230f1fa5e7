import MyCogni.Auth.Sqlite
import MyCogni.Auth.Consistency

/-! Runs of decisions through the handles of one database. The row is the encoding of the volatile
store run on the decisions whose commit took effect, whatever goes wrong on the way. -/

namespace MyCogni.Auth
open Command

/-- The durable store arms no crash inside the store it loads. -/
def Op.IsDecision : Op → Prop
  | armCrashOnce _ => False
  | _ => True

abbrev Call := { op : Op // op.IsDecision }

inductive Input where
  | decision (handle : Nat) (call : Call) (fault : Fault)
  | armCrashOnce (handle : Nat) (point : DurableAuthCrashPoint)
  /-- The runtime stops accepting new work after a failure of the storage. -/
  | pause
  /-- A new runtime over the database, with new handles. -/
  | restart

section Machine
variable (R : Reader)

def step (r : Runtime) : Input → Report × Runtime
  | .decision handle call fault => r.decision R handle call.1 fault
  | .armCrashOnce handle point => (⟨.ok (.ok .unit), none⟩, r.arm handle (some point))
  | .pause => (⟨.ok (.ok .unit), none⟩, r.abandon)
  | .restart => (⟨.ok (.ok .unit), none⟩, .opened r.database)

/-- The calls whose commit took effect, in order. -/
def effective (r : Runtime) : List Input → List Op
  | [] => []
  | i :: is => (step R r i).1.committed.toList ++ effective (step R r i).2 is

/-- The row and the handles that the decisions leave. -/
inductive Image : List Op → Database → Prop
  | empty : Image [] .empty
  | written {ops : List Op} {payload : Text} {authorities : List AuthorityRow} (h : ops ≠ [])
      (hpayload : snapshot R (run apply .empty ops) = some payload)
      (hauthorities : authorityRegistry (run apply .empty ops) = some authorities) :
      Image ops ⟨some ⟨stateSchemaVersion, ops.length, payload⟩, authorities⟩

end Machine

/-! ### One transaction -/

theorem map_authorityEntries (s : Store) : s.authorityEntries.map Prod.fst = s.authorityHandles := by
  rw [Store.authorityEntries, Store.authorityHandles, List.map_append, List.map_map,
    List.map_flatMap]
  rfl

theorem Exportable.registry {s : Store} (h : Exportable s) :
    ∃ rows, authorityRegistry s = some rows := by
  refine ⟨_, if_pos ?_⟩
  rw [map_authorityEntries]
  exact h.consistent.authorities

section Transaction
variable {R : Reader} {db written : Database} {op : Op} {result : Except Halt Value}

theorem elim_eq_ok {α ε : Type} {o : Option α} {e : ε} {a : α} :
    o.elim (.error e) Except.ok = .ok a ↔ o = some a := by
  cases o <;> simp

theorem returned_eq_ok {outcome : Except Halt Value} (h : returned outcome = .ok result) :
    outcome = result := by
  rcases outcome with (d | _ | _ | _) | v
  case ok => exact Except.ok.inj h
  case error.denied => exact Except.ok.inj h
  all_goals exact nomatch h

/-- The rest of a transaction, once the state is loaded. -/
theorem transact_of_load {store : Store} {revision : Int} {known : Bool}
    (h : loadState R db = .ok (store, revision, known)) (op : Op) :
    transact R db op = do
      let result ← returned (apply store op).1
      let payload ← (snapshot R (apply store op).2).elim (.error .refused) .ok
      let authorities ← (authorityRegistry (apply store op).2).elim (.error .refused) .ok
      return (result, ⟨some ⟨stateSchemaVersion, revision + 1, payload⟩, authorities⟩) := by
  rw [transact, h]
  rfl

theorem transact_eq_ok :
    transact R db op = .ok (result, written) ↔
      ∃ store revision known, loadState R db = .ok (store, revision, known) ∧
        returned (apply store op).1 = .ok result ∧
        ∃ payload, snapshot R (apply store op).2 = some payload ∧
          ∃ authorities, authorityRegistry (apply store op).2 = some authorities ∧
            ⟨some ⟨stateSchemaVersion, revision + 1, payload⟩, authorities⟩ = written := by
  simp only [transact, bind_eq_ok_iff, elim_eq_ok, pure_eq_ok_iff, Prod.mk.injEq, Prod.exists]
  constructor
  · rintro ⟨store, revision, known, hload, r, hr, p, hp, rows, hrows, rfl, hw⟩
    exact ⟨store, revision, known, hload, hr, p, hp, rows, hrows, hw⟩
  · rintro ⟨store, revision, known, hload, hr, p, hp, rows, hrows, hw⟩
    exact ⟨store, revision, known, hload, result, hr, p, hp, rows, hrows, rfl, hw⟩

end Transaction

/-! ### The state that is loaded -/

/-- No decision of the durable store arms a crash. -/
theorem apply_unarmed {op : Op} (hop : op.IsDecision) {s : Store} (h : s.crashOnce = none) :
    (apply s op).2.crashOnce = none := by
  by_cases hroutine : op.IsRoutine
  · exact (apply_steady hroutine s).unarmed h
  · cases op <;> try exact absurd trivial hroutine
    case armCrashOnce => exact hop.elim
    case initializeInstallation i a p records o sv now =>
      rcases apply_initializeInstallation (s := s) i a p records o sv now with heq | ⟨-, heq⟩
      · rw [heq]
        exact h
      · rw [heq]
        exact h
    case garbageCollect now n =>
      by_cases hn : RetentionOk n
      · rw [apply_garbageCollect now hn]
        exact h
      · rw [apply_garbageCollect_refused now hn]
        exact h

theorem run_unarmed {ops : List Op} (h : ∀ op ∈ ops, op.IsDecision) :
    (run apply .empty ops).crashOnce = none := by
  induction ops using List.reverseRecOn with
  | nil => rfl
  | append_singleton ops op ih =>
    rw [run_append]
    exact apply_unarmed (h op (by simp)) (ih fun op' hop' => h op' (by simp [hop']))

section Load
variable {R : Reader} {ops : List Op} {db : Database}

theorem restore_snapshot {s : Store} {payload : Text} (hs : s.crashOnce = none)
    (h : snapshot R s = some payload) : restore R payload = some s := by
  obtain ⟨⟨hexport, hv⟩, hpayload, -⟩ := snapshot_eq_some.mp h
  rw [restore_canonical hexport hv hpayload]
  cases s
  cases hs
  rfl

/-- A row that the store wrote is never reported as corrupt. -/
theorem Image.load (h : Image R ops db) (hops : ∀ op ∈ ops, op.IsDecision) :
    loadState R db = .ok (run apply .empty ops, ops.length, decide (ops ≠ [])) := by
  cases h with
  | empty => rfl
  | written hne hpayload hauthorities =>
    have hrevision : (1 : Int) ≤ ops.length := by
      have := List.length_pos_iff.mpr hne
      omega
    unfold loadState
    dsimp only
    rw [if_pos ⟨rfl, hrevision⟩, restore_snapshot (run_unarmed hops) hpayload, Option.elim_some,
      ok_bind, hauthorities, Option.elim_some, ok_bind, ensure_bind rfl, decide_eq_true hne]
    rfl

theorem Image.snapshot_ne (h : Image R ops db) (hne : ops ≠ []) :
    ∃ payload, snapshot R (run apply .empty ops) = some payload := by
  cases h with
  | empty => exact absurd rfl hne
  | written _ hpayload _ => exact ⟨_, hpayload⟩

/-- The transaction of a call writes the image of the calls followed by it. -/
theorem Image.transact (h : Image R ops db) (hops : ∀ op ∈ ops, op.IsDecision) {op : Op}
    {result : Except Halt Value} {written : Database}
    (ht : Auth.transact R db op = .ok (result, written)) :
    result = (apply (run apply .empty ops) op).1 ∧ Image R (ops ++ [op]) written := by
  obtain ⟨store, revision, known, hload, hresult, payload, hpayload, rows, hrows, rfl⟩ :=
    transact_eq_ok.mp ht
  rw [h.load hops, Except.ok.injEq, Prod.mk.injEq, Prod.mk.injEq] at hload
  obtain ⟨rfl, rfl, -⟩ := hload
  refine ⟨(returned_eq_ok hresult).symm, ?_⟩
  have hlength : ((ops ++ [op]).length : Int) = ops.length + 1 := by simp
  have hrun : run apply .empty (ops ++ [op]) = (apply (run apply .empty ops) op).2 := by
    rw [run_append]
    rfl
  rw [← hlength]
  exact .written (by simp) (hrun ▸ hpayload) (hrun ▸ hrows)

/-- What a transaction on the image can raise. -/
theorem Image.transact_error (h : Image R ops db) (hops : ∀ op ∈ ops, op.IsDecision) {op : Op}
    {e : Failure} (he : Auth.transact R db op = .error e) :
    e = .refused ∨ ∃ halt, e = .raised halt := by
  rw [transact_of_load (h.load hops)] at he
  rcases bind_eq_error_iff.mp he with he | ⟨_, -, he⟩
  · rcases hr : (apply (run apply .empty ops) op).1 with (_ | _ | _ | _) | _ <;>
      rw [hr] at he <;> cases he <;> exact Or.inr ⟨_, rfl⟩
  left
  rcases bind_eq_error_iff.mp he with he | ⟨_, -, he⟩
  · rcases hp : snapshot R (apply (run apply .empty ops) op).2 with _ | _ <;>
      rw [hp] at he <;> cases he
    rfl
  rcases bind_eq_error_iff.mp he with he | ⟨_, -, he⟩
  · rcases hp : authorityRegistry (apply (run apply .empty ops) op).2 with _ | _ <;>
      rw [hp] at he <;> cases he
    rfl
  exact nomatch he

/-- A call whose state can be exported gets the answer of the volatile store. -/
theorem Image.transact_of_snapshot (h : Image R ops db) (hops : ∀ op ∈ ops, op.IsDecision)
    {op : Op} {payload : Text}
    (hp : snapshot R (apply (run apply .empty ops) op).2 = some payload) :
    (∃ written, Auth.transact R db op =
        (returned (apply (run apply .empty ops) op).1).map fun result => (result, written)) := by
  obtain ⟨rows, hrows⟩ := (snapshot_eq_some.mp hp).1.1.registry
  rw [transact_of_load (h.load hops), hp, hrows]
  cases returned (apply (run apply .empty ops) op).1 with
  | error e => exact ⟨db, rfl⟩
  | ok result => exact ⟨_, rfl⟩

end Load

/-! ### One decision -/

section Decision
variable {R : Reader} {r : Runtime} {handle : Nat} {op : Op} {fault : Fault}

/-- A decision fails and leaves the database, or its commit takes effect. -/
theorem decision_cases (R : Reader) (r : Runtime) (handle : Nat) (op : Op) (fault : Fault) :
    ((r.decision R handle op fault).1.committed = none ∧
        (∃ e, (r.decision R handle op fault).1.answer = .error e) ∧
        (r.decision R handle op fault).2.database = r.database) ∨
      ∃ result written, transact R r.database op = .ok (result, written) ∧
        r.acceptingNewWork = true ∧
        (r.decision R handle op fault).1.committed = some op ∧
        (r.decision R handle op fault).2.database = written ∧
        ((r.decision R handle op fault).1.answer = .ok result ∨
          (r.decision R handle op fault).1.answer = .error .commitOutcomeUnknown) := by
  unfold Runtime.decision
  split
  · exact Or.inl ⟨rfl, ⟨_, rfl⟩, rfl⟩
  rename_i haccept
  split
  · exact Or.inl ⟨rfl, ⟨_, rfl⟩, rfl⟩
  split
  · exact Or.inl ⟨rfl, ⟨_, rfl⟩, rfl⟩
  · exact Or.inl ⟨rfl, ⟨_, rfl⟩, rfl⟩
  rename_i result written ht
  split
  · exact Or.inl ⟨rfl, ⟨_, rfl⟩, rfl⟩
  have haccepting : r.acceptingNewWork = true := by simpa using haccept
  split
  · exact Or.inl ⟨rfl, ⟨_, rfl⟩, rfl⟩
  · exact Or.inr ⟨result, written, ht, haccepting, rfl, rfl, Or.inr rfl⟩
  · split
    · exact Or.inr ⟨result, written, ht, haccepting, rfl, rfl, Or.inr rfl⟩
    · exact Or.inr ⟨result, written, ht, haccepting, rfl, rfl, Or.inl rfl⟩

/-- An unknown outcome stops the runtime. -/
theorem decision_unknown (ht : transact R r.database op ≠ .error .commitOutcomeUnknown)
    (h : (r.decision R handle op fault).1.answer = .error .commitOutcomeUnknown) :
    (r.decision R handle op fault).2.acceptingNewWork = false := by
  unfold Runtime.decision at h ⊢
  by_cases haccept : r.acceptingNewWork = false
  · rw [if_pos haccept] at h
    exact nomatch h
  rw [if_neg haccept] at h ⊢
  by_cases hbefore : fault = .beforeCommit
  · rw [if_pos hbefore] at h
    exact nomatch h
  rw [if_neg hbefore] at h ⊢
  rcases hx : transact R r.database op with e | ⟨result, written⟩
  · rw [hx] at h ht
    cases e with
    | commitOutcomeUnknown => exact absurd rfl ht
    | notReady | corrupt | raised _ | refused | interrupted => exact nomatch h
  rw [hx] at h
  dsimp only at h ⊢
  by_cases harmed : r.crashOnce handle = some .beforeCommit
  · rw [if_pos harmed] at h
    exact nomatch h
  rw [if_neg harmed] at h ⊢
  rcases fault with _ | _ | (_ | _)
  · dsimp only at h ⊢
    by_cases hafter : r.crashOnce handle = some .afterCommit
    · rw [if_pos hafter]
      rfl
    · rw [if_neg hafter] at h
      exact nomatch h
  · exact absurd rfl hbefore
  · rfl
  · rfl

theorem decision_corrupt (h : (r.decision R handle op fault).1.answer = .error .corrupt) :
    transact R r.database op = .error .corrupt := by
  unfold Runtime.decision at h
  split at h
  · exact nomatch h
  split at h
  · exact nomatch h
  split at h
  · assumption
  · rename_i e _ ht
    rw [ht]
    exact congrArg _ (Except.error.inj h)
  split at h
  · exact nomatch h
  split at h
  · exact nomatch h
  · exact nomatch h
  · split at h <;> exact nomatch h

/-- Without a fault, the answer is that of the transaction. -/
theorem decision_quiet (haccept : r.acceptingNewWork = true)
    (harmed : r.crashOnce handle = none) :
    (r.decision R handle op .none).1.answer = (transact R r.database op).map Prod.fst := by
  unfold Runtime.decision
  rw [if_neg (ne_false_of_eq_true haccept), if_neg (by decide)]
  rcases hx : transact R r.database op with e | ⟨result, written⟩
  · cases e <;> rfl
  · dsimp only
    rw [harmed, if_neg (by decide), if_neg (by decide)]
    rfl

/-- A runtime that is not accepting work answers so, and changes nothing. -/
theorem decision_notReady (h : r.acceptingNewWork = false) :
    r.decision R handle op fault = (⟨.error .notReady, none⟩, r) := if_pos h

end Decision

/-! ### Runs -/

section Run
variable {R : Reader}

theorem effective_append (r : Runtime) (is js : List Input) :
    effective R r (is ++ js) = effective R r is ++ effective R (run (step R) r is) js := by
  induction is generalizing r with
  | nil => rfl
  | cons i is ih => rw [List.cons_append, effective, effective, ih, List.append_assoc, run_cons]

theorem step_isDecision {r : Runtime} {i : Input} {op : Op}
    (h : (step R r i).1.committed = some op) : op.IsDecision := by
  cases i with
  | decision handle call fault =>
    rcases decision_cases R r handle call.1 fault with ⟨hnone, -⟩ | ⟨-, -, -, -, hsome, -⟩
    · rw [step, hnone] at h
      exact nomatch h
    · rw [step, hsome, Option.some.injEq] at h
      exact h ▸ call.2
  | armCrashOnce | pause | restart => exact nomatch h

theorem effective_isDecision {r : Runtime} {is : List Input} :
    ∀ op ∈ effective R r is, op.IsDecision := by
  induction is generalizing r with
  | nil => exact fun op h => nomatch h
  | cons i is ih =>
    rw [effective, List.forall_mem_append]
    refine ⟨fun op hop => ?_, ih⟩
    exact step_isDecision (Option.mem_toList.mp hop)

/-- Every input extends the image by the call whose commit took effect. -/
theorem Image.step {ops : List Op} {r : Runtime} (h : Image R ops r.database)
    (hops : ∀ op ∈ ops, op.IsDecision) (i : Input) :
    Image R (ops ++ (step R r i).1.committed.toList) (step R r i).2.database := by
  cases i with
  | decision handle call fault =>
    rcases decision_cases R r handle call.1 fault with
      ⟨hnone, -, hdb⟩ | ⟨result, written, ht, -, hsome, hdb, -⟩
    · rw [Auth.step, hnone, hdb, Option.toList_none, List.append_nil]
      exact h
    · rw [Auth.step, hsome, hdb, Option.toList_some]
      exact (h.transact hops ht).2
  | armCrashOnce | pause | restart =>
    rw [← List.append_nil ops] at h
    exact h

theorem run_image (is : List Input) :
    Image R (effective R (.opened .empty) is) (run (step R) (.opened .empty) is).database := by
  induction is using List.reverseRecOn with
  | nil => exact .empty
  | append_singleton is i ih =>
    rw [effective_append, run_append]
    have h := ih.step effective_isDecision i
    rwa [← List.append_nil (step R _ i).1.committed.toList] at h

/-- A runtime that is not accepting work stays so until a restart, and decides nothing. -/
theorem run_notReady {r : Runtime} (h : r.acceptingNewWork = false) {is : List Input}
    (his : Input.restart ∉ is) :
    (run (step R) r is).acceptingNewWork = false ∧ (run (step R) r is).database = r.database := by
  induction is generalizing r with
  | nil => exact ⟨h, rfl⟩
  | cons i is ih =>
    rw [List.mem_cons, not_or] at his
    have hstep : (step R r i).2.acceptingNewWork = false ∧
        (step R r i).2.database = r.database := by
      cases i with
      | decision handle call fault =>
        rw [step, decision_notReady h]
        exact ⟨h, rfl⟩
      | armCrashOnce => exact ⟨h, rfl⟩
      | pause => exact ⟨rfl, rfl⟩
      | restart => exact absurd rfl his.1
    rw [run_cons, ← hstep.2]
    exact ih hstep.1 his.2

end Run

/-- What a caller gets for a decision, made after the calls `ops` have taken effect. -/
structure Served (R : Reader) (ops : List Op) (r : Runtime) (op : Op) (out : Report × Runtime) :
    Prop where
  /-- What is returned is the outcome of the volatile store, and durable. -/
  returned : ∀ outcome, out.1.answer = .ok outcome →
    outcome = (apply (run apply .empty ops) op).1 ∧ Image R (ops ++ [op]) out.2.database
  /-- An exception before the commit changes nothing. -/
  failed : ∀ e, out.1.answer = .error e → e ≠ .commitOutcomeUnknown →
    out.2.database = r.database
  /-- An unknown outcome is the old state or the new one, and the last decision of the runtime. -/
  unknown : out.1.answer = .error .commitOutcomeUnknown →
    (out.2.database = r.database ∨ Image R (ops ++ [op]) out.2.database) ∧
    ∀ is, Input.restart ∉ is → (run (step R) out.2 is).database = out.2.database ∧
      ∀ handle call fault,
        ((run (step R) out.2 is).decision R handle call fault).1.answer = .error .notReady
  uncorrupted : out.1.answer ≠ .error .corrupt

section Decision
variable {R : Reader} {ops : List Op} {r : Runtime}

theorem Image.served (h : Image R ops r.database) (hops : ∀ op ∈ ops, op.IsDecision)
    (handle : Nat) (op : Op) (fault : Fault) :
    Served R ops r op (r.decision R handle op fault) := by
  have hunknown : Auth.transact R r.database op ≠ .error .commitOutcomeUnknown := by
    intro he
    rcases h.transact_error hops he with hno | ⟨_, hno⟩ <;> exact nomatch hno
  have hcorrupt : Auth.transact R r.database op ≠ .error .corrupt := by
    intro he
    rcases h.transact_error hops he with hno | ⟨_, hno⟩ <;> exact nomatch hno
  -- A runtime whose outcome is unknown is not accepting work any more.
  have hlast : ∀ {out : Runtime}, out.acceptingNewWork = false → ∀ is, Input.restart ∉ is →
      (run (Auth.step R) out is).database = out.database ∧ ∀ handle call fault,
        ((run (Auth.step R) out is).decision R handle call fault).1.answer =
          .error .notReady := by
    intro out hout is his
    obtain ⟨hstill, hsame⟩ := run_notReady (R := R) hout his
    exact ⟨hsame, fun _ _ _ => by rw [decision_notReady hstill]⟩
  refine ⟨fun outcome hok => ?_, fun e he hne => ?_, fun hu => ⟨?_, ?_⟩, fun hc => ?_⟩
  · rcases decision_cases R r handle op fault with
      ⟨-, ⟨e, he⟩, -⟩ | ⟨result, written, ht, -, -, hdb, hanswer | hanswer⟩
    · rw [he] at hok
      exact nomatch hok
    · rw [hanswer, Except.ok.injEq] at hok
      rw [hdb, ← hok]
      exact h.transact hops ht
    · rw [hanswer] at hok
      exact nomatch hok
  · rcases decision_cases R r handle op fault with
      ⟨-, -, hdb⟩ | ⟨result, written, -, -, -, -, hanswer | hanswer⟩
    · exact hdb
    · rw [hanswer] at he
      exact nomatch he
    · rw [hanswer, Except.error.injEq] at he
      exact absurd he.symm hne
  · rcases decision_cases R r handle op fault with
      ⟨-, -, hdb⟩ | ⟨result, written, ht, -, -, hdb, -⟩
    · exact Or.inl hdb
    · rw [hdb]
      exact Or.inr (h.transact hops ht).2
  · exact hlast (decision_unknown hunknown hu)
  · exact hcorrupt (decision_corrupt hc)

/-- Where the state can be exported and nothing goes wrong, the answer is the volatile one. -/
theorem Image.answered (h : Image R ops r.database) (hops : ∀ op ∈ ops, op.IsDecision)
    {handle : Nat} {op : Op} (haccept : r.acceptingNewWork = true)
    (harmed : r.crashOnce handle = none)
    (hp : (snapshot R (apply (run apply .empty ops) op).2).isSome) :
    (r.decision R handle op .none).1.answer =
      Auth.returned (apply (run apply .empty ops) op).1 := by
  obtain ⟨payload, hpayload⟩ := Option.isSome_iff_exists.mp hp
  obtain ⟨written, ht⟩ := h.transact_of_snapshot hops hpayload
  rw [decision_quiet haccept harmed, ht]
  cases Auth.returned (apply (run apply .empty ops) op).1 <;> rfl

end Decision

/-- After every run, the database is the image of the calls whose commit took effect, with one
revision for each; it loads as the volatile store run on them; and every further decision is
served as that store would serve it. -/
theorem durable_refines (R : Reader) (is : List Input) :
    Image R (effective R (.opened .empty) is) (run (step R) (.opened .empty) is).database ∧
    loadState R (run (step R) (.opened .empty) is).database =
      .ok (run apply .empty (effective R (.opened .empty) is),
        (effective R (.opened .empty) is).length,
        decide (effective R (.opened .empty) is ≠ [])) ∧
    (∀ handle (call : Call) fault,
      Served R (effective R (.opened .empty) is) (run (step R) (.opened .empty) is) call.1
        ((run (step R) (.opened .empty) is).decision R handle call.1 fault)) ∧
    ∀ handle (call : Call),
      (run (step R) (.opened .empty) is).acceptingNewWork = true →
      (run (step R) (.opened .empty) is).crashOnce handle = none →
      (snapshot R (apply (run apply .empty (effective R (.opened .empty) is)) call.1).2).isSome →
      ((run (step R) (.opened .empty) is).decision R handle call.1 .none).1.answer =
        returned (apply (run apply .empty (effective R (.opened .empty) is)) call.1).1 := by
  have himage := run_image (R := R) is
  have hops := @effective_isDecision R (.opened .empty) is
  refine ⟨himage, himage.load hops, fun handle call fault => himage.served hops handle _ fault, ?_⟩
  exact fun handle call haccept harmed hp => himage.answered hops haccept harmed hp

end MyCogni.Auth
