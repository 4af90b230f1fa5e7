import MyCogni.Mailbox.Accepted
import MyCogni.Mailbox.Congruence
import MyCogni.Mailbox.Course

/-! Several handles over one database. However their calls interleave, and wherever a process dies
or a commit fails, what is stored is what the volatile machine makes of the calls whose transaction
ended, one after the other, and callers learn what that machine answers. -/

namespace MyCogni.Mailbox

/-! ### Handles -/

/-- A handle that has answered an unknown outcome is poisoned. One whose construction failed, that
was closed or whose process is gone has ended. -/
inductive HandleState where
  | live
  | poisoned
  | ended
deriving DecidableEq

inductive Act where
  | opens (nonce : Nonce) (fate : Fate)
  | calls (handle : Nat) (i : Call × Env) (nonce : Nonce) (fate : Fate)
  | closes (handle : Nat) (fails : Bool)
  | dies (handle : Nat)

/-- The row and the handles in the order of their opening. The calls whose transaction has ended
and the number of those that changed the row are a record. -/
structure Database where
  row : Option Row
  handles : List HandleState
  settled : List (Call × Env)
  transitions : Nat

def Fate.dies : Fate → Bool
  | .diesBeforeCommit | .diesAfterCommit => true
  | _ => false

def Fate.commits : Fate → Bool
  | .sound | .commitFails true | .diesAfterCommit => true
  | _ => false

/-- How a transaction ends: what it wrote is committed, or it is rolled back since there is nothing
to write. -/
inductive Ending where
  | committed
  | unchanged
deriving DecidableEq

section
variable (inst : Installation)

/-- The end of the part of a transaction that works on a loaded repository. -/
def transactEnding (generation : Int) (s : Repository) (i : Call × Env) (nonce : Nonce)
    (fate : Fate) : Option Ending :=
  let (out, s') := apply inst.config s i
  if out = .error .valueError then none
  else
    match encodeState s, encodeState s' with
    | some before, some after =>
      if before = after then some .unchanged
      else
        match writeRepository inst s' (generation + 1) nonce with
        | .error _ => none
        | .ok _ => if fate.commits then some .committed else none
    | _, _ => none

/-- The end of the transaction of a call. There is none where it fails on the way. -/
def ending (row : Option Row) (i : Call × Env) (nonce : Nonce) (fate : Fate) : Option Ending :=
  match fate with
  | .contended | .unreadable => none
  | _ =>
    match row with
    | none => none
    | some stored =>
      match loadRepository inst stored with
      | .error _ => none
      | .ok (generation, s) => transactEnding inst generation s i nonce fate

namespace Database

/-- A call through a handle that is not poisoned. -/
def serve (db : Database) (handle : Nat) (i : Call × Env) (nonce : Nonce) (fate : Fate) :
    Option Outcome × Database :=
  let answer := transition inst db.row i nonce fate
  let ended := ending inst db.row i nonce fate
  (if fate.dies then none else answer.reply,
    { row := answer.row
      handles := db.handles.set handle
        (if fate.dies then .ended else if answer.poisoned then .poisoned else .live)
      settled := if ended = none then db.settled else db.settled ++ [i]
      transitions := if ended = some .committed then db.transitions + 1 else db.transitions })

/-- What the caller learns, and the database afterwards. A handle that has ended has nothing to
say: a closed one raises what the driver raises, and that is neither a value nor a denial. -/
def step (db : Database) : Act → Option Outcome × Database
  | .opens nonce fate =>
    let (usable, row) := openHandle inst db.row nonce fate
    (none, { db with row, handles := db.handles ++ [if usable then .live else .ended] })
  | .calls handle i nonce fate =>
    match db.handles[handle]? with
    | some .live => db.serve inst handle i nonce fate
    | some .poisoned => (some (.error uncertain), db)
    | _ => (none, db)
  | .closes handle fails =>
    match db.handles[handle]? with
    | some .live =>
      if fails then (some (.error uncertain), { db with handles := db.handles.set handle .poisoned })
      else (none, { db with handles := db.handles.set handle .ended })
    | _ => (none, db)
  | .dies handle => (none, { db with handles := db.handles.set handle .ended })

end Database

/-- The database after the acts, from one without a row. -/
def database (acts : List Act) : Database := run (Database.step inst) ⟨none, [], [], 0⟩ acts

/-- Every frame committed so far is accepted. -/
def FramesLoad (acts : List Act) : Prop :=
  ∀ before, before <+: acts → ∀ row ∈ (database inst before).row,
    ∃ loaded, loadRepository inst row = .ok loaded

/-- The volatile machine after the calls. -/
def machine (calls : List (Call × Env)) : Repository := run (apply inst.config) .empty calls

end

/-! ### What is read and written -/

variable {inst : Installation} {s t : Repository} {row next : Row} {generation : Int}
  {nonce : Nonce} {fate : Fate} {i : Call × Env}

theorem Repository.Same.trans {u : Repository} (h : s.Same t) (h' : t.Same u) : s.Same u := by
  refine ⟨fun id => ?_, fun id => (h'.tombstones id).trans (h.tombstones id), h'.time.trans h.time,
    h'.active.trans h.active, h'.evidence.trans h.evidence, h'.committed.trans h.committed⟩
  have hrel := h.records id
  have hrel' := h'.records id
  generalize s.records.get? id = x at hrel
  generalize t.records.get? id = y at hrel hrel'
  generalize u.records.get? id = z at hrel'
  cases hrel with
  | none =>
    cases hrel' with
    | none => exact .none
  | some hsame =>
    cases hrel' with
    | some hsame' => exact .some (hsame.trans hsame')

/-- A repository with the text of a loaded one is the same as that. -/
theorem Accepted.same (h : Accepted inst row t) (hs : s.Keyed)
    (hencode : encodeState s = encodeState t) : s.Same t := by
  obtain ⟨serialized, -, ht, hshort⟩ := h.decrypts
  have hread : decodeState inst.limits serialized = some t :=
    (decodeState_encodeState h.coherent.keyed ht).mpr ⟨hshort, h.fits, h.canonical⟩
  have hcanonical := ((decodeState_encodeState hs (hencode.trans ht)).mp hread).2.2
  rw [← hcanonical]
  exact same_repository_canonical s

/-- What is loaded from a written row is the same as what was written. -/
theorem Accepted.written (hwrite : writeRepository inst s generation nonce = .ok row)
    (h : Accepted inst row t) (hs : s.Keyed) : s.Same t := by
  obtain ⟨serialized, hencode, -, -, -, rfl⟩ := writeRepository_eq_ok hwrite
  obtain ⟨serialized', hdecrypt, ht, -⟩ := h.decrypts
  dsimp only at hdecrypt
  rw [inst.aead.decrypt_encrypt] at hdecrypt
  obtain rfl := Option.some.inj hdecrypt
  exact h.same hs (hencode.trans ht.symm)

theorem generation_written (hwrite : writeRepository inst s generation nonce = .ok row) :
    row.generation = generation := by
  obtain ⟨serialized, -, -, -, -, rfl⟩ := writeRepository_eq_ok hwrite
  rfl

/-! ### One transaction -/

/-- What the adapter may answer beside what the machine does. -/
def extraOutcomes : List Outcome :=
  [.error (.denied .contended), .error (.denied .oversize), .error uncertain]

/-- The ways of a transaction: it fails and leaves the row, its process dies with it, it has nothing
to write, or it commits. -/
inductive Transacted (inst : Installation) (row : Option Row) (i : Call × Env) (nonce : Nonce)
    (fate : Fate) : Option Ending → Answer → Prop
  | failed {out : Outcome} (poisoned : Bool) (hout : out ∈ extraOutcomes)
      (hpoisoned : out = .error uncertain → poisoned = true) :
      Transacted inst row i nonce fate none ⟨some out, poisoned, row⟩
  | lost (hdies : fate = .diesBeforeCommit) :
      Transacted inst row i nonce fate none ⟨none, true, row⟩
  | unchanged {stored : Row} {generation : Int} {s : Repository} (hrow : row = some stored)
      (hload : loadRepository inst stored = .ok (generation, s))
      (hencode : encodeState (apply inst.config s i).2 = encodeState s) :
      Transacted inst row i nonce fate (some .unchanged)
        (.replied (apply inst.config s i).1 row)
  | committed {stored next : Row} {generation : Int} {s : Repository} {reply : Option Outcome}
      (poisoned : Bool) (hrow : row = some stored)
      (hload : loadRepository inst stored = .ok (generation, s))
      (hwrite : writeRepository inst (apply inst.config s i).2 (generation + 1) nonce = .ok next)
      (hreply : reply = some (apply inst.config s i).1 ∨ fate = .diesAfterCommit ∧ reply = none ∨
        fate = .commitFails true ∧ reply = some (.error uncertain))
      (hpoisoned : reply = some (.error uncertain) → poisoned = true) :
      Transacted inst row i nonce fate (some .committed) ⟨reply, poisoned, some next⟩

theorem uncertain_mem : Except.error uncertain ∈ extraOutcomes := by simp [extraOutcomes]

theorem Transacted.replied {row : Option Row} {out : Outcome} (hout : out ∈ extraOutcomes) :
    Transacted inst row i nonce fate none (.replied out row) :=
  .failed _ hout fun h => decide_eq_true h

theorem Transacted.unknown {row : Option Row} :
    Transacted inst row i nonce fate none (.unknown row) := .failed _ uncertain_mem fun _ => rfl

/-- A coherent state is refused for its generation, for its size, or since it does not render. -/
theorem writeRepository_error {e : Failure} (hs : Coherent inst.config s)
    (h : writeRepository inst s generation nonce = .error e) :
    e = .valueError ∨ Except.error e ∈ extraOutcomes := by
  by_cases hgeneration : 0 ≤ generation ∧ generation < maxFrameGeneration
  · cases hb : encodeState s with
    | none =>
      unfold writeRepository at h
      rw [ensure_bind hgeneration, hs.validate, ok_bind, hb] at h
      exact Or.inl (Except.error.inj h).symm
    | some b =>
      obtain ⟨hfits, hlong⟩ := @writeRepository_of_coherent inst s generation nonce hs hgeneration b hb
      by_cases hlength : b.length ≤ inst.limits.maxSerializedBytes
      · obtain ⟨row, hrow⟩ := hfits hlength
        cases hrow.symm.trans h
      · obtain rfl := Except.error.inj ((hlong (not_le.mp hlength)).symm.trans h)
        exact Or.inr (by simp [extraOutcomes])
  · unfold writeRepository at h
    rw [ensure, if_neg hgeneration] at h
    obtain rfl := Except.error.inj h
    exact Or.inr uncertain_mem

/-- The writing of a state that differs from the stored one. -/
theorem commitThenReply_transacted {stored : Row} (fate : Fate) (hcontended : fate ≠ .contended)
    (hreadable : fate ≠ .unreadable) (hload : loadRepository inst stored = .ok (generation, s))
    (hwrite : writeRepository inst (apply inst.config s i).2 (generation + 1) nonce = .ok next) :
    Transacted inst (some stored) i nonce fate (if fate.commits then some .committed else none)
      (commitThenReply fate (apply inst.config s i).1 (some stored) next) := by
  cases fate with
  | contended => exact absurd rfl hcontended
  | unreadable => exact absurd rfl hreadable
  | sound =>
    exact .committed _ rfl hload hwrite (Or.inl rfl) fun h => decide_eq_true (Option.some.inj h)
  | unwritable => exact .unknown
  | diesBeforeCommit => exact .lost rfl
  | diesAfterCommit =>
    exact .committed _ rfl hload hwrite (Or.inr (Or.inl ⟨rfl, rfl⟩)) fun _ => rfl
  | commitFails landed =>
    cases landed with
    | false => exact .unknown
    | true => exact .committed _ rfl hload hwrite (Or.inr (Or.inr ⟨rfl, rfl⟩)) fun _ => rfl

theorem transact_transacted {stored : Row} (i : Call × Env) (nonce : Nonce) (fate : Fate)
    (hcontended : fate ≠ .contended) (hreadable : fate ≠ .unreadable)
    (hload : loadRepository inst stored = .ok (generation, s)) :
    Transacted inst (some stored) i nonce fate (transactEnding inst generation s i nonce fate)
      (transact inst (some stored) generation s i nonce fate) := by
  have hs' : Coherent inst.config (apply inst.config s i).2 :=
    (apply_step inst.config s i).coherent (loadRepository_accepted hload).2.coherent
  unfold transactEnding transact
  dsimp only
  by_cases hvalue : (apply inst.config s i).1 = .error .valueError
  · rw [if_pos hvalue, if_pos hvalue]
    exact .unknown
  rw [if_neg hvalue, if_neg hvalue]
  cases hbefore : encodeState s with
  | none => exact .unknown
  | some before =>
    cases hafter : encodeState (apply inst.config s i).2 with
    | none => exact .unknown
    | some after =>
      dsimp only
      by_cases hequal : before = after
      · rw [if_pos hequal, if_pos hequal]
        exact .unchanged rfl hload (by rw [hbefore, hafter, hequal])
      rw [if_neg hequal, if_neg hequal]
      cases hwrite : writeRepository inst (apply inst.config s i).2 (generation + 1) nonce with
      | error e =>
        dsimp only
        rcases writeRepository_error hs' hwrite with rfl | hextra
        · exact .unknown
        · cases e with
          | valueError => exact .unknown
          | denied denial => exact .replied hextra
          | injectedCrash point => exact .replied hextra
      | ok next => exact commitThenReply_transacted fate hcontended hreadable hload hwrite

theorem transition_transacted (inst : Installation) (row : Option Row) (i : Call × Env)
    (nonce : Nonce) (fate : Fate) :
    Transacted inst row i nonce fate (ending inst row i nonce fate)
      (transition inst row i nonce fate) := by
  unfold ending transition
  cases fate with
  | contended => exact .replied (by simp [extraOutcomes])
  | unreadable => exact .unknown
  | _ =>
    cases row with
    | none => exact .unknown
    | some stored =>
      dsimp only
      cases hload : loadRepository inst stored with
      | error e => exact .unknown
      | ok loaded =>
        exact transact_transacted i nonce _ (fun h => by cases h) (fun h => by cases h) hload

/-! ### Handles that know no outcome -/

/-- A poisoned handle stays so, unless its process ends. -/
theorem Database.step_spent {db : Database} {handle : Nat}
    (h : db.handles[handle]? = some .poisoned ∨ db.handles[handle]? = some .ended) (act : Act) :
    (db.step inst act).2.handles[handle]? = some .poisoned ∨
      (db.step inst act).2.handles[handle]? = some .ended := by
  have hlt : handle < db.handles.length := by
    by_contra hle
    rw [List.getElem?_eq_none (not_lt.mp hle)] at h
    simp at h
  have hset : ∀ other (state : HandleState), (state ≠ .live ∨ db.handles[other]? = some .live) →
      (db.handles.set other state)[handle]? = some .poisoned ∨
        (db.handles.set other state)[handle]? = some .ended := by
    intro other state hstate
    by_cases heq : other = handle
    · subst heq
      rw [List.getElem?_set_self hlt]
      rcases hstate with hstate | hlive
      · cases state <;> simp_all
      · rw [hlive] at h
        simp at h
    · rw [List.getElem?_set_ne heq]
      exact h
  cases act with
  | opens nonce fate =>
    unfold Database.step
    dsimp only
    rw [List.getElem?_append_left hlt]
    exact h
  | calls other i nonce fate =>
    unfold Database.step
    dsimp only
    split
    next hlive => exact hset other _ (Or.inr hlive)
    · exact h
    · exact h
  | closes other fails =>
    unfold Database.step
    dsimp only
    split
    next hlive =>
      split_ifs
      · exact hset other _ (Or.inr hlive)
      · exact hset other _ (Or.inr hlive)
    · exact h
  | dies other => exact hset other _ (Or.inl (fun h => by cases h))

theorem Database.run_spent (inst : Installation) {db : Database} {handle : Nat}
    (h : db.handles[handle]? = some .poisoned ∨ db.handles[handle]? = some .ended)
    (acts : List Act) :
    (run (Database.step inst) db acts).handles[handle]? = some .poisoned ∨
      (run (Database.step inst) db acts).handles[handle]? = some .ended := by
  induction acts generalizing db with
  | nil => exact h
  | cons act acts ih => exact ih (step_spent h act)

/-! ### What is stored -/

/-- The row holds what the machine makes of the settled calls, under the number of transitions. -/
structure Database.Stored (inst : Installation) (db : Database) : Prop where
  empty : db.row = none → db.settled = [] ∧ db.transitions = 0
  loaded : ∀ row ∈ db.row, ∃ s, loadRepository inst row = .ok ((db.transitions : Int), s) ∧
    (machine inst db.settled).Same s

theorem coherent_machine (inst : Installation) (calls : List (Call × Env)) :
    Coherent inst.config (machine inst calls) := coherent_run inst.config calls

theorem machine_append (inst : Installation) (calls : List (Call × Env)) (i : Call × Env) :
    machine inst (calls ++ [i]) = (apply inst.config (machine inst calls) i).2 := by
  unfold machine
  rw [run_append, run_cons, run_nil]

namespace Database.Stored
variable {db : Database}

/-- The call on what is stored and the call of the machine. -/
theorem agree {stored : Row} (h : db.Stored inst) (hrow : db.row = some stored)
    (hload : loadRepository inst stored = .ok (generation, s)) (i : Call × Env) :
    generation = db.transitions ∧
      AgreeAfter Reply.Same Repository.Same (apply inst.config (machine inst db.settled) i)
        (apply inst.config s i) := by
  obtain ⟨s', hload', hsame⟩ := h.loaded stored hrow
  cases hload.symm.trans hload'
  exact ⟨rfl, apply_same hsame (coherent_machine inst _) i⟩

theorem serve (h : db.Stored inst) (handle : Nat) (i : Call × Env) (nonce : Nonce) (fate : Fate)
    (hframe : ∀ row ∈ (db.serve inst handle i nonce fate).2.row,
      ∃ loaded, loadRepository inst row = .ok loaded) :
    (db.serve inst handle i nonce fate).2.Stored inst := by
  have htransacted := transition_transacted inst db.row i nonce fate
  unfold Database.serve at hframe ⊢
  dsimp only at hframe ⊢
  generalize transition inst db.row i nonce fate = answer at htransacted hframe ⊢
  generalize ending inst db.row i nonce fate = ended at htransacted ⊢
  cases htransacted with
  | failed => exact ⟨h.empty, h.loaded⟩
  | lost => exact ⟨h.empty, h.loaded⟩
  | @unchanged stored generation s hrow hload hencode =>
    obtain ⟨hgeneration, hagree⟩ := h.agree hrow hload i
    have haccepted := (loadRepository_accepted hload).2
    have hkeyed := ((apply_step inst.config s i).coherent haccepted.coherent).keyed
    refine ⟨fun hnone => ?_, fun row hmem => ?_⟩
    · cases hnone.symm.trans hrow
    · obtain rfl : stored = row := Option.some.inj (hrow.symm.trans hmem)
      refine ⟨s, hgeneration ▸ hload, ?_⟩
      have hstate := hagree.state.trans (haccepted.same hkeyed hencode)
      rw [← machine_append] at hstate
      exact hstate
  | @committed stored next generation s reply poisoned hrow hload hwrite hreply hpoisoned =>
    obtain ⟨hgeneration, hagree⟩ := h.agree hrow hload i
    have haccepted := (loadRepository_accepted hload).2
    have hkeyed := ((apply_step inst.config s i).coherent haccepted.coherent).keyed
    obtain ⟨⟨generation', t⟩, hnext⟩ := hframe next rfl
    obtain ⟨hat, hnextAccepted⟩ := loadRepository_accepted hnext
    refine ⟨(fun hnone => by cases hnone), fun row hmem => ?_⟩
    obtain rfl : next = row := Option.some.inj hmem
    refine ⟨t, ?_, ?_⟩
    · rw [← hat, generation_written hwrite, hgeneration] at hnext
      exact hnext
    · have hstate := hagree.state.trans (hnextAccepted.written hwrite hkeyed)
      rw [← machine_append] at hstate
      exact hstate

/-- One act keeps what is stored in step with the machine. -/
theorem step (h : db.Stored inst) (act : Act)
    (hframe : ∀ row ∈ (db.step inst act).2.row, ∃ loaded, loadRepository inst row = .ok loaded) :
    (db.step inst act).2.Stored inst := by
  have hsame : ∀ handles, ({ db with handles } : Database).Stored inst :=
    fun _ => ⟨h.empty, h.loaded⟩
  cases act with
  | opens nonce fate =>
    unfold Database.step at hframe ⊢
    dsimp only at hframe ⊢
    rcases openHandle_row inst db.row nonce fate with hrow | ⟨first, hnone, hwrite, hrow⟩
    · rw [hrow]
      exact hsame _
    · obtain ⟨⟨generation, t⟩, hload⟩ := hframe first hrow
      obtain ⟨hat, haccepted⟩ := loadRepository_accepted hload
      obtain ⟨hsettled, htransitions⟩ := h.empty hnone
      refine ⟨fun hempty => ?_, fun row hmem => ?_⟩
      · cases hempty.symm.trans hrow
      · obtain rfl : first = row := Option.some.inj (hrow.symm.trans hmem)
        refine ⟨t, ?_, ?_⟩
        · dsimp only
          rw [htransitions]
          rw [← hat, generation_written hwrite] at hload
          exact hload
        · dsimp only
          rw [hsettled]
          exact haccepted.written hwrite (coherent_empty inst.config).keyed
  | calls handle i nonce fate =>
    unfold Database.step at hframe ⊢
    dsimp only at hframe ⊢
    cases hhandle : db.handles[handle]? with
    | none => exact h
    | some state =>
      rw [hhandle] at hframe
      cases state with
      | live => exact h.serve handle i nonce fate hframe
      | poisoned => exact h
      | ended => exact h
  | closes handle fails =>
    unfold Database.step
    dsimp only
    split
    · split_ifs
      · exact hsame _
      · exact hsame _
    · exact h
  | dies handle => exact hsame _

end Database.Stored

theorem stored_database (acts : List Act) (hframes : FramesLoad inst acts) :
    (database inst acts).Stored inst := by
  induction acts using List.reverseRecOn with
  | nil => exact ⟨fun _ => ⟨rfl, rfl⟩, fun row hrow => by cases hrow⟩
  | append_singleton acts act ih =>
    have hbefore : FramesLoad inst acts :=
      fun before hbefore => hframes before (hbefore.trans (List.prefix_append acts [act]))
    have hlast := hframes (acts ++ [act]) (List.prefix_refl _)
    unfold database at hlast ⊢
    rw [run_append, run_cons, run_nil] at hlast ⊢
    exact (ih hbefore).step act hlast

/-! ### What callers learn -/

theorem Database.Stored.answered {db : Database} {handle : Nat} {out : Outcome}
    (h : db.Stored inst) (hout : (db.step inst (.calls handle i nonce fate)).1 = some out) :
    ((ending inst db.row i nonce fate).isSome ∧
        Agree Reply.Same (apply inst.config (machine inst db.settled) i).1 out) ∨
      out ∈ extraOutcomes ∧
        ((db.step inst (.calls handle i nonce fate)).2.row = db.row ∨ fate = .commitFails true) := by
  unfold Database.step at hout ⊢
  dsimp only at hout ⊢
  cases hhandle : db.handles[handle]? with
  | none =>
    rw [hhandle] at hout
    cases hout
  | some state =>
    rw [hhandle] at hout
    cases state with
    | ended => cases hout
    | poisoned =>
      obtain rfl := Option.some.inj hout
      exact Or.inr ⟨uncertain_mem, Or.inl rfl⟩
    | live =>
      have htransacted := transition_transacted inst db.row i nonce fate
      unfold Database.serve at hout ⊢
      dsimp only at hout ⊢
      split_ifs at hout with hdies
      generalize transition inst db.row i nonce fate = answer at htransacted hout ⊢
      generalize ending inst db.row i nonce fate = ended at htransacted ⊢
      cases htransacted with
      | failed poisoned hextra =>
        obtain rfl := Option.some.inj hout
        exact Or.inr ⟨hextra, Or.inl rfl⟩
      | lost => cases hout
      | unchanged hrow hload =>
        obtain rfl := Option.some.inj hout
        exact Or.inl ⟨rfl, (h.agree hrow hload i).2.outcome⟩
      | committed poisoned hrow hload hwrite hreply =>
        rcases hreply with rfl | ⟨rfl, -⟩ | ⟨rfl, rfl⟩
        · obtain rfl := Option.some.inj hout
          exact Or.inl ⟨rfl, (h.agree hrow hload i).2.outcome⟩
        · cases hdies rfl
        · obtain rfl := Option.some.inj hout
          exact Or.inr ⟨uncertain_mem, Or.inr rfl⟩

/-- A call through a live handle is answered, unless the process dies on the way. -/
theorem Database.answers {db : Database} {handle : Nat} (hlive : db.handles[handle]? = some .live)
    (hdies : fate.dies = false) :
    ∃ out, (db.step inst (.calls handle i nonce fate)).1 = some out := by
  have htransacted := transition_transacted inst db.row i nonce fate
  unfold Database.step
  dsimp only
  rw [hlive]
  dsimp only
  unfold Database.serve
  dsimp only
  rw [hdies]
  generalize transition inst db.row i nonce fate = answer at htransacted ⊢
  generalize ending inst db.row i nonce fate = ended at htransacted
  cases htransacted with
  | failed => exact ⟨_, rfl⟩
  | lost hfate =>
    subst hfate
    cases hdies
  | unchanged => exact ⟨_, rfl⟩
  | committed _ _ _ _ hreply =>
    rcases hreply with rfl | ⟨rfl, -⟩ | ⟨-, rfl⟩
    · exact ⟨_, rfl⟩
    · cases hdies
    · exact ⟨_, rfl⟩

/-- A handle that answers an unknown outcome is poisoned from then on. -/
theorem Database.answered_uncertain {db : Database} {handle : Nat}
    (hout : (db.step inst (.calls handle i nonce fate)).1 = some (.error uncertain)) :
    (db.step inst (.calls handle i nonce fate)).2.handles[handle]? = some .poisoned := by
  unfold Database.step at hout ⊢
  dsimp only at hout ⊢
  cases hhandle : db.handles[handle]? with
  | none =>
    rw [hhandle] at hout
    cases hout
  | some state =>
    rw [hhandle] at hout
    cases state with
    | ended => cases hout
    | poisoned => exact hhandle
    | live =>
      have hlt : handle < db.handles.length := (List.getElem?_eq_some_iff.mp hhandle).1
      have htransacted := transition_transacted inst db.row i nonce fate
      unfold Database.serve at hout ⊢
      dsimp only at hout ⊢
      split_ifs at hout with hdies
      rw [List.getElem?_set_self hlt, if_neg hdies]
      have hpoisoned : (transition inst db.row i nonce fate).poisoned = true := by
        generalize transition inst db.row i nonce fate = answer at htransacted hout ⊢
        generalize ending inst db.row i nonce fate = ended at htransacted
        cases htransacted with
        | failed poisoned hextra hpoisoned => exact hpoisoned (Option.some.inj hout)
        | lost => rfl
        | unchanged => exact decide_eq_true (Option.some.inj hout)
        | committed poisoned hrow hload hwrite hreply hpoisoned => exact hpoisoned hout
      rw [if_pos hpoisoned]

/-! ### Generations -/

/-- What an act does to the row: nothing, the first frame, or the frame of the next generation in
the place of the last. -/
inductive Moved (inst : Installation) (db : Database) (act : Act) : Database → Prop
  | stays {db' : Database} (hrow : db'.row = db.row) (htransitions : db'.transitions = db.transitions) :
      Moved inst db act db'
  | first {db' : Database} {first : Row} (hnone : db.row = none) (hrow : db'.row = some first)
      (hgeneration : first.generation = 0) (htransitions : db'.transitions = db.transitions) :
      Moved inst db act db'
  | grows {db' : Database} {row next : Row} {handle : Nat} {i : Call × Env} {nonce : Nonce}
      {fate : Fate} (hact : act = .calls handle i nonce fate)
      (hcommitted : ending inst db.row i nonce fate = some .committed) (hrow : db.row = some row)
      (hnext : db'.row = some next) (hgeneration : next.generation = row.generation + 1)
      (htransitions : db'.transitions = db.transitions + 1) : Moved inst db act db'

theorem Database.step_moved (inst : Installation) (db : Database) (act : Act) :
    Moved inst db act (db.step inst act).2 := by
  cases act with
  | opens nonce fate =>
    rcases openHandle_row inst db.row nonce fate with hrow | ⟨first, hnone, hwrite, hrow⟩
    · exact .stays hrow rfl
    · exact .first hnone hrow (generation_written hwrite) rfl
  | calls handle i nonce fate =>
    have hserve : Moved inst db (.calls handle i nonce fate)
        (db.serve inst handle i nonce fate).2 := by
      have htransacted := transition_transacted inst db.row i nonce fate
      have hcommitted : ∀ {row next : Row}, db.row = some row →
          (transition inst db.row i nonce fate).row = some next →
          next.generation = row.generation + 1 →
          ending inst db.row i nonce fate = some .committed →
          Moved inst db (.calls handle i nonce fate) (db.serve inst handle i nonce fate).2 := by
        intro row next hrow hnext hgeneration hended
        exact .grows rfl hended hrow hnext hgeneration (if_pos hended)
      have hstays : (transition inst db.row i nonce fate).row = db.row →
          ending inst db.row i nonce fate ≠ some .committed →
          Moved inst db (.calls handle i nonce fate) (db.serve inst handle i nonce fate).2 :=
        fun hrow hended => .stays hrow (if_neg hended)
      generalize transition inst db.row i nonce fate = answer at htransacted hcommitted hstays
      generalize ending inst db.row i nonce fate = ended at htransacted hcommitted hstays
      cases htransacted with
      | failed => exact hstays rfl (by simp)
      | lost => exact hstays rfl (by simp)
      | unchanged => exact hstays rfl (by simp)
      | committed poisoned hrow hload hwrite =>
        have hat := (loadRepository_accepted hload).1
        refine hcommitted hrow rfl ?_ rfl
        rw [generation_written hwrite, hat]
    unfold Database.step
    dsimp only
    split
    · exact hserve
    · exact .stays rfl rfl
    · exact .stays rfl rfl
  | closes handle fails =>
    unfold Database.step
    dsimp only
    split
    · split_ifs
      · exact .stays rfl rfl
      · exact .stays rfl rfl
    · exact .stays rfl rfl
  | dies handle => exact .stays rfl rfl

/-! ### The simulation -/

/-- What the handles of a database simulate. -/
structure Refinement (inst : Installation) (acts : List Act) : Prop where
  /-- The row holds what the machine makes of the settled calls, in the order of their ends. -/
  persisted : ∀ row ∈ (database inst acts).row, ∃ s,
    loadRepository inst row = .ok (((database inst acts).transitions : Int), s) ∧
      (machine inst (database inst acts).settled).Same s
  fresh : (database inst acts).row = none →
    (database inst acts).settled = [] ∧ (database inst acts).transitions = 0
  /-- A caller learns what the machine answers at that point, or an outcome of the adapter's own. -/
  answered : ∀ handle i nonce fate out,
    ((database inst acts).step inst (.calls handle i nonce fate)).1 = some out →
    ((ending inst (database inst acts).row i nonce fate).isSome ∧
        Agree Reply.Same (apply inst.config (machine inst (database inst acts).settled) i).1 out) ∨
      out ∈ extraOutcomes ∧
        (((database inst acts).step inst (.calls handle i nonce fate)).2.row =
          (database inst acts).row ∨ fate = .commitFails true)
  answers : ∀ handle i nonce fate, (database inst acts).handles[handle]? = some .live →
    fate.dies = false →
    ∃ out, ((database inst acts).step inst (.calls handle i nonce fate)).1 = some out
  moved : ∀ act, Moved inst (database inst acts) act ((database inst acts).step inst act).2
  /-- A handle that has answered an unknown outcome neither reads nor changes the row again. -/
  spent : ∀ before handle i nonce fate after,
    acts = before ++ .calls handle i nonce fate :: after →
    ((database inst before).step inst (.calls handle i nonce fate)).1 = some (.error uncertain) →
    ∃ reply, (reply = none ∨ reply = some (.error uncertain)) ∧
      ∀ row i' nonce' fate',
        ({ database inst acts with row } : Database).step inst (.calls handle i' nonce' fate') =
          (reply, { database inst acts with row })

/-- Handles over one database, whose frames are accepted, simulate the volatile machine. -/
theorem persistent_refines (inst : Installation) (acts : List Act)
    (hframes : FramesLoad inst acts) : Refinement inst acts := by
  have hstored := stored_database acts hframes
  refine
    { persisted := hstored.loaded
      fresh := hstored.empty
      answered := fun handle i nonce fate out hout => hstored.answered hout
      answers := fun handle i nonce fate hlive hdies => Database.answers hlive hdies
      moved := Database.step_moved inst _
      spent := ?_ }
  rintro before handle i nonce fate after rfl hout
  have hpoisoned := Database.answered_uncertain hout
  have hspent := Database.run_spent inst (Or.inl hpoisoned) after
  have hrun : database inst (before ++ .calls handle i nonce fate :: after) =
      run (Database.step inst) ((database inst before).step inst (.calls handle i nonce fate)).2
        after := by
    unfold database
    rw [run_append, run_cons]
  rw [← hrun] at hspent
  generalize database inst (before ++ .calls handle i nonce fate :: after) = db at hspent
  rcases hspent with hstate | hstate
  · refine ⟨some (.error uncertain), Or.inr rfl, fun row i' nonce' fate' => ?_⟩
    unfold Database.step
    dsimp only
    rw [hstate]
  · refine ⟨none, Or.inl rfl, fun row i' nonce' fate' => ?_⟩
    unfold Database.step
    dsimp only
    rw [hstate]

/-! ### A mailbox is opened -/

theorem openHandle_usable (h : (openHandle inst none nonce .sound).2 = some row) :
    (openHandle inst none nonce .sound).1 = true := by
  have hsound : ∀ fate, fate = .sound → (openHandle inst none nonce fate).2 = some row →
      (openHandle inst none nonce fate).1 = true := by
    intro fate hfate hrow
    unfold openHandle at hrow ⊢
    generalize writeRepository inst .empty 0 nonce = written at hrow ⊢
    subst hfate
    cases written with
    | error e => cases hrow
    | ok first => rfl
  exact hsound _ rfl h

theorem database_opened (inst : Installation) (nonce : Nonce) (fate : Fate) :
    (database inst [.opens nonce fate]).row = stored inst [.opens nonce fate] := rfl

theorem framesLoad_append {acts : List Act} {act : Act} (h : FramesLoad inst acts)
    (hlast : ∀ row ∈ (database inst (acts ++ [act])).row,
      ∃ loaded, loadRepository inst row = .ok loaded) : FramesLoad inst (acts ++ [act]) := by
  intro before hprefix
  rcases List.prefix_concat_iff.mp hprefix with rfl | hbefore
  · exact hlast
  · exact h before hbefore

/-- A call through a live handle, as an act and as an event. -/
theorem database_served {acts : List Act} {es : List Event} {handle : Nat} {request : Request}
    {call : Call} {env : Env} (hrow : (database inst acts).row = stored inst es)
    (hlive : (database inst acts).handles[handle]? = some .live)
    (hcall : request.call inst.config = .ok call) :
    (database inst (acts ++ [.calls handle (call, env) nonce fate])).row =
      stored inst (es ++ [.serves request env nonce fate]) := by
  rw [stored_append, Event.row, hcall, ← hrow]
  unfold database at hlive ⊢
  rw [run_append, run_cons, run_nil]
  generalize run (Database.step inst) ⟨none, [], [], 0⟩ acts = db at hlive ⊢
  unfold Database.step
  dsimp only
  rw [hlive]
  rfl

theorem live_opened (h : stored inst [.opens nonce fate] = some row) (hfate : fate = .sound) :
    (database inst [.opens nonce fate]).handles[0]? = some .live := by
  have hopen : (openHandle inst none nonce fate).2 = some row := h
  have husable : (openHandle inst none nonce fate).1 = true := by
    subst hfate
    exact openHandle_usable hopen
  have hhandles : (database inst [.opens nonce fate]).handles =
      [if (openHandle inst none nonce fate).1 then .live else .ended] := rfl
  rw [hhandles, husable]
  rfl

namespace Tight

def acts : List Act :=
  [.opens Sample.env.nonce .sound] ++
    [.calls 0 (Sample.openCall binding, Sample.env) Sample.env.nonce .sound]

/-- The frames of a first handle and of a first mailbox are accepted. -/
theorem persistent_refines_opened : (∃ row s, (database installation acts).row = some row ∧
    loadRepository installation row =
      .ok (((database installation acts).transitions : Int), s) ∧
    s.records.get? binding.mailboxId = some (Sample.blankOf binding)) ∧ Refinement installation acts := by
  obtain ⟨hfound, halone⟩ := course.open_found
  obtain ⟨first, generation, hfirst, hload, -⟩ := course.loads_empty
  have hcourse := course.step course.loads_empty (by decide) Course.open_request rfl
    course.open_spec.1 hfound halone course.renders_blank rfl (fun _ hx => by cases hx)
  obtain ⟨next, generation', hnext, hload', -⟩ := hcourse.loads
  have hopen := database_opened installation Sample.env.nonce .sound
  have hserved : (database installation acts).row = some next :=
    (database_served hopen (live_opened hfirst rfl) Course.open_request).trans hnext
  have hnone : FramesLoad installation [] := by
    intro before hprefix row hrow
    obtain rfl := List.prefix_nil.mp hprefix
    cases hrow
  have hopened : FramesLoad installation ([] ++ [.opens Sample.env.nonce .sound]) := by
    refine framesLoad_append hnone fun row hrow => ?_
    rw [List.nil_append, hopen, hfirst] at hrow
    exact ⟨_, Option.some.inj hrow ▸ hload⟩
  have hframes : FramesLoad installation acts := by
    refine framesLoad_append hopened fun row hrow => ?_
    obtain rfl := Option.some.inj (hserved.symm.trans hrow)
    exact ⟨_, hload'⟩
  have hrefines := persistent_refines installation acts hframes
  obtain ⟨s, hstored, -⟩ := hrefines.persisted next hserved
  cases hload'.symm.trans hstored
  exact ⟨⟨next, _, hserved, hstored, hcourse.found⟩, hrefines⟩

end Tight
end MyCogni.Mailbox
