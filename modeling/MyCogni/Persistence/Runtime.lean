import MyCogni.Base.Bytes
import MyCogni.Base.Command

/-! The lifetimes of the owner of a database. Two small files tell the next owner how the last one
ended: the dirty marker, which only a clean close removes, and the recovery latch, which nothing
removes. Every operation may fail, and the process may die before it. -/

namespace MyCogni.Persistence
open Command

/-! ### Files -/

inductive StateFileName where
  | dirtyMarker
  | recoveryLatch
deriving DecidableEq

def StateFileName.payload : StateFileName → Bytes
  | dirtyMarker => ascii "\x7b\"schema\":1,\"state\":\"open\"\x7d\n"
  | recoveryLatch => ascii "\x7b\"schema\":1,\"state\":\"recovery-required\"\x7d\n"

def maxMarkerBytes : Nat := 128

/-- What a file holds for the processes, and what it holds after a loss of power. -/
structure StateFile where
  visible : Option Bytes
  durable : Option Bytes
deriving DecidableEq

abbrev Disk := StateFileName → StateFile

/-- The synchronisation of the directory. -/
def Disk.sync (d : Disk) : Disk := fun n => ⟨(d n).visible, (d n).visible⟩

def Disk.write (d : Disk) (n : StateFileName) (content : Option Bytes) : Disk :=
  Function.update d n { d n with visible := content }

/-- A loss of power leaves anything of what was not synchronised. -/
def Disk.losePower (d : Disk) (left : StateFileName → Option Bytes) : Disk := fun n =>
  if (d n).visible = (d n).durable then d n else ⟨left n, left n⟩

/-! ### Readiness -/

inductive SQLiteOperatorState where
  | ready
  | recoveryRequired
  | storageExhausted
  | storageIoFailure
  | integrityFailure
  | writerContention
  | shutdownBlocked
deriving DecidableEq

/-- The state for a primary error code of SQLite. -/
def operatorStateForError (code : Nat) : Option SQLiteOperatorState :=
  match code % 256 with
  | 13 => some .storageExhausted
  | 10 => some .storageIoFailure
  | 11 => some .integrityFailure
  | 26 => some .integrityFailure
  | 5 => some .writerContention
  | 6 => some .writerContention
  | _ => none

structure SQLiteReadiness where
  acceptingNewWork : Bool
  externalActionsMustRemainPaused : Bool
  operatorState : SQLiteOperatorState
deriving DecidableEq

/-- What another thread may do to the runtime between two operations. -/
inductive Interference where
  | driverError (code : Nat)
  /-- A unit of work could not be cleaned up. -/
  | cleanupFailure
  /-- The lifecycle lock was held for another call. -/
  | lifecycleInProgress
deriving DecidableEq

def Interference.operatorState : Interference → Option SQLiteOperatorState
  | driverError code => operatorStateForError code
  | cleanupFailure => some .storageIoFailure
  | lifecycleInProgress => some .shutdownBlocked

inductive Outcome where
  | ok
  | fail
  | short (written : Nat)
  | die
deriving DecidableEq

/-- How one operation ends, and what happens in the process before it. -/
structure Choice where
  outcome : Outcome
  interference : Option Interference := none
deriving DecidableEq

/-- One process over the disk, with the outcomes of its operations to come. -/
structure Host where
  disk : Disk
  choices : List Choice
  readiness : SQLiteReadiness
  closed : Bool
  /-- A close that had found the state ready has reached the removal of the marker. -/
  readyRemoval : Bool

inductive Stop where
  | raised
  | died
deriving DecidableEq

abbrev Action := Command Host Stop

def SQLiteReadiness.pause (state : SQLiteOperatorState) : SQLiteReadiness := ⟨false, true, state⟩

def Host.interfere (h : Host) (i : Option Interference) : Host :=
  match i.bind Interference.operatorState with
  | some state => { h with readiness := .pause state }
  | none => h

/-- The outcome of the next operation, unless the process dies first. -/
def next : Action Outcome := fun h =>
  match h.choices with
  | [] => (.error .died, h)
  | c :: cs =>
    let h' := ({ h with choices := cs }).interfere c.interference
    if c.outcome = .die then (.error .died, h') else (.ok c.outcome, h')

/-- An operation without an effect on the files. -/
def operation : Action Unit := do
  let outcome ← next
  require (outcome = .ok) .raised

def pause (state : SQLiteOperatorState) : Action Unit :=
  write fun h => { h with readiness := .pause state }

/-- `try: c except BaseException: handler; raise` -/
def onRaise {α : Type} (c : Action α) (handler : Action Unit) : Action α := fun h =>
  match c h with
  | (.error .raised, h') =>
    match handler h' with
    | (.ok _, h'') => (.error .raised, h'')
    | (.error e, h'') => (.error e, h'')
  | p => p

/-- `try: c finally: f` -/
def andFinally (c f : Action Unit) : Action Unit := fun h =>
  match c h with
  | (.error .died, h') => (.error .died, h')
  | (r, h') =>
    match f h' with
    | (.ok _, h'') => (r, h'')
    | (.error e, h'') => (.error e, h'')

/-! ### State files -/

def fsyncDirectory : Action Unit := do
  operation
  write fun h => { h with disk := h.disk.sync }

def writeVisible (n : StateFileName) (content : Option Bytes) : Action Unit :=
  write fun h => { h with disk := h.disk.write n content }

def readStateFile (n : StateFileName) : Action Bool := do
  operation
  let h ← read
  match (h.disk n).visible with
  | none => return false
  | some content => do
    -- The file is a regular one of the owner.
    operation
    require (content.length ≤ maxMarkerBytes) .raised
    operation
    require (content = n.payload) .raised
    return true

/-- The part of `_create_state_file` for a file that is not there. -/
def writeStateFile (n : StateFileName) : Action Unit := do
  operation
  writeVisible n (some [])
  operation
  let outcome ← next
  match outcome with
  | .ok => writeVisible n (some n.payload)
  | .short written => do
    writeVisible n (some (n.payload.take written))
    require (written = n.payload.length) .raised
  | _ => stop .raised
  -- The synchronisation of the file, and its descriptor's close.
  operation
  operation
  fsyncDirectory

def createStateFile (n : StateFileName) : Action Unit := do
  let found ← readStateFile n
  if found then
    -- A previous creation may have failed only at the synchronisation.
    fsyncDirectory
  else writeStateFile n

def removeStateFile (n : StateFileName) : Action Unit := do
  operation
  let h ← read
  require ((h.disk n).visible ≠ none) .raised
  operation
  writeVisible n none
  fsyncDirectory

def preserveRecoveryState : Action Unit := do
  createStateFile .dirtyMarker
  createStateFile .recoveryLatch

/-! ### The runtime -/

inductive SQLiteProcessRole where
  | allInOne
  | migration
deriving DecidableEq

inductive ShutdownState where
  | clean
  | dirty
deriving DecidableEq

structure SQLiteStartupReport where
  previousShutdown : ShutdownState
  requiresReconciliation : Bool
  externalActionsMustRemainPaused : Bool
deriving DecidableEq

/-- The end of an open, once the files have been read and the latch is created. -/
def finishOpen (role : SQLiteProcessRole) (inheritedDirty recoveryLatched : Bool) :
    Action SQLiteStartupReport := do
  require (¬(role = .migration ∧ recoveryLatched = true)) .raised
  createStateFile .dirtyMarker
  -- The engine, its quick check, and the files it manages.
  operation
  -- The recovery checkpoint.
  if inheritedDirty then operation
  write fun h => { h with
    readiness :=
      { acceptingNewWork := !recoveryLatched
        externalActionsMustRemainPaused := recoveryLatched
        operatorState := if recoveryLatched then .recoveryRequired else .ready }
    closed := false
    readyRemoval := false }
  return { previousShutdown := if inheritedDirty then .dirty else .clean
           requiresReconciliation := recoveryLatched
           externalActionsMustRemainPaused := recoveryLatched }

/-- `SQLiteRuntime.open`. What is done after a failure has no effect on the files. -/
def openRuntime (role : SQLiteProcessRole) : Action SQLiteStartupReport := do
  -- The writer lease.
  operation
  let inheritedDirty ← readStateFile .dirtyMarker
  let latched ← readStateFile .recoveryLatch
  if inheritedDirty then
    createStateFile .recoveryLatch
    finishOpen role true true
  else finishOpen role false latched

/-- Whether no application work was active. -/
def denyNewWorkAndReserveShutdown : Action Bool := do
  write fun h => { h with readiness := { h.readiness with acceptingNewWork := false } }
  let outcome ← next
  if outcome = .ok then return true
  pause .shutdownBlocked
  return false

/-- What a call does where application work was active. -/
def blockShutdown : Action Unit := do
  andFinally preserveRecoveryState (pause .shutdownBlocked)
  stop .raised

/-- The end of a clean close, once the database is validated. -/
def removeMarker : Action Unit := do
  let h ← read
  let requiresLatch := h.readiness.operatorState ≠ .ready
  if requiresLatch then createStateFile .recoveryLatch
  -- The engine is disposed of.
  operation
  if ¬requiresLatch then write fun h => { h with readyRemoval := true }
  removeStateFile .dirtyMarker
  -- The lease is released.
  operation

def closeCleanlyExclusive : Action Unit := do
  let h ← read
  if h.closed then return ()
  if ← denyNewWorkAndReserveShutdown then
    -- The seal, the connection, the checkpoint and the quick check.
    onRaise (do operation; operation; operation; operation) <|
      andFinally preserveRecoveryState (do pause .shutdownBlocked; operation)
    onRaise removeMarker do
      pause .storageIoFailure
      if (← next) = .ok then andFinally preserveRecoveryState operation
    write fun h => { h with closed := true }
  else blockShutdown

def abandonExclusive : Action Unit := do
  let h ← read
  if h.closed then return ()
  if ← denyNewWorkAndReserveShutdown then
    pause .shutdownBlocked
    preserveRecoveryState
    -- The seal, the engine's disposal and the release of the lease.
    operation
    operation
    operation
    write fun h => { h with closed := true }
  else blockShutdown

inductive RuntimeCall where
  | closeCleanly
  | abandon
  /-- Other work of the process. -/
  | work
deriving DecidableEq

/-- Under the lifecycle lock, which is not waited for. -/
def exclusively (c : Action Unit) : Action Unit := do
  if (← next) = .ok then c
  else
    pause .shutdownBlocked
    stop .raised

def RuntimeCall.run : RuntimeCall → Action Unit
  | closeCleanly => exclusively closeCleanlyExclusive
  | abandon => exclusively abandonExclusive
  | work => operation

/-! ### Lifetimes -/

/-- One process: what a loss of power before it left, and what it does. -/
structure Lifetime where
  outage : Option (StateFileName → Option Bytes) := none
  choices : List Choice
  role : SQLiteProcessRole := .allInOne
  calls : List RuntimeCall := []

def Lifetime.start (l : Lifetime) (d : Disk) : Host where
  disk := l.outage.elim d d.losePower
  choices := l.choices
  readiness := ⟨false, true, .recoveryRequired⟩
  closed := false
  readyRemoval := false

/-- The calls of a runtime, until the process dies. A call that raises is followed by the next. -/
def runCalls : List RuntimeCall → Host → Host
  | [], h => h
  | c :: cs, h =>
    match c.run h with
    | (.error .died, h') => h'
    | (_, h') => runCalls cs h'

/-- The state in which a lifetime ends. -/
def Lifetime.after (l : Lifetime) (d : Disk) : Host :=
  match openRuntime l.role (l.start d) with
  | (.ok _, h) => runCalls l.calls h
  | (.error _, h) => h

/-- The disk after a sequence of lifetimes. -/
def afterLifetimes (d : Disk) (ls : List Lifetime) : Disk :=
  ls.foldl (fun d l => (l.after d).disk) d

/-! ### What every action keeps -/

/-- The file is there for good. -/
def Disk.Holds (d : Disk) (n : StateFileName) : Prop := d n = ⟨some n.payload, some n.payload⟩

/-- The file of the second state is there if that of the first was. -/
def Keeps (n : StateFileName) (h h' : Host) : Prop := h.disk.Holds n → h'.disk.Holds n

theorem Keeps.refl {n : StateFileName} (h : Host) : Keeps n h h := id

theorem Keeps.trans {n : StateFileName} (a b c : Host) (hab : Keeps n a b) (hbc : Keeps n b c) :
    Keeps n a c := fun h => hbc (hab h)

/-- A runtime that has stopped accepting work does not start again. -/
structure Onward (h h' : Host) : Prop where
  accepting : h'.readiness.acceptingNewWork = true → h.readiness.acceptingNewWork = true
  paused : h.readiness.externalActionsMustRemainPaused = true →
    h'.readiness.externalActionsMustRemainPaused = true
  ready : h'.readiness.operatorState = .ready → h.readiness.operatorState = .ready
  removal : h.readyRemoval = true → h'.readyRemoval = true

theorem Onward.refl (h : Host) : Onward h h := ⟨id, id, id, id⟩

theorem Onward.trans (a b c : Host) (hab : Onward a b) (hbc : Onward b c) : Onward a c :=
  ⟨fun h => hab.accepting (hbc.accepting h), fun h => hbc.paused (hab.paused h),
    fun h => hab.ready (hbc.ready h), fun h => hbc.removal (hab.removal h)⟩

theorem operatorStateForError_ne_ready (code : Nat) :
    operatorStateForError code ≠ some .ready := by
  unfold operatorStateForError
  split <;> exact nofun

theorem Interference.ne_ready (i : Interference) : i.operatorState ≠ some .ready := by
  cases i with
  | driverError code => exact operatorStateForError_ne_ready code
  | cleanupFailure | lifecycleInProgress => exact nofun

theorem onward_pause (h : Host) {state : SQLiteOperatorState} (hs : state ≠ .ready) :
    Onward h { h with readiness := .pause state } :=
  ⟨nofun, fun _ => rfl, fun heq => absurd heq hs, id⟩

section Rules
variable {α : Type} {r : Host → Host → Prop}

theorem respects_onRaise (htrans : ∀ a b c, r a b → r b c → r a c) {c : Action α}
    {handler : Action Unit} (hc : Respects r c) (hh : Respects r handler) :
    Respects r (onRaise c handler) := by
  intro h
  have hr := hc h
  unfold onRaise
  rcases hx : c h with ⟨(_ | _) | a, h'⟩
  · rw [hx] at hr
    have hr' := hh h'
    dsimp only
    rcases hy : handler h' with ⟨e | u, h''⟩ <;> rw [hy] at hr' <;> exact htrans _ _ _ hr hr'
  · rw [hx] at hr
    exact hr
  · rw [hx] at hr
    exact hr

theorem respects_andFinally (htrans : ∀ a b c, r a b → r b c → r a c) {c f : Action Unit}
    (hc : Respects r c) (hf : Respects r f) : Respects r (andFinally c f) := by
  intro h
  have hr := hc h
  unfold andFinally
  rcases hx : c h with ⟨(_ | _) | a, h'⟩
  · rw [hx] at hr
    have hr' := hf h'
    dsimp only
    rcases hy : f h' with ⟨e | u, h''⟩ <;> rw [hy] at hr' <;> exact htrans _ _ _ hr hr'
  · rw [hx] at hr
    exact hr
  · rw [hx] at hr
    have hr' := hf h'
    dsimp only
    rcases hy : f h' with ⟨e | u, h''⟩ <;> rw [hy] at hr' <;> exact htrans _ _ _ hr hr'

end Rules

section Keeps
variable {n m : StateFileName}

theorem holds_sync {d : Disk} (h : d.Holds n) : d.sync.Holds n := by
  unfold Disk.Holds Disk.sync at *
  rw [h]

theorem holds_write {d : Disk} (h : d.Holds n) {content : Option Bytes}
    (hc : m = n → content = some n.payload) : (d.write m content).Holds n := by
  unfold Disk.Holds Disk.write at *
  by_cases hm : n = m
  · subst hm
    rw [Function.update_self, h, hc rfl]
  · rw [Function.update_of_ne hm, h]

theorem Host.interfere_disk (h : Host) (i : Option Interference) : (h.interfere i).disk = h.disk := by
  unfold interfere
  split <;> rfl

theorem next_disk (h : Host) : (next h).2.disk = h.disk := by
  unfold next
  split
  · rfl
  · dsimp only
    split <;> exact Host.interfere_disk _ _

theorem next_keeps : Respects (Keeps n) next := by
  intro h hn
  rwa [next_disk]

theorem operation_keeps : Respects (Keeps n) operation :=
  next_keeps.bind Keeps.trans fun _ => respects_require Keeps.refl _ _

theorem pause_keeps (state : SQLiteOperatorState) : Respects (Keeps n) (pause state) :=
  respects_write fun _ => id

theorem fsyncDirectory_keeps : Respects (Keeps n) fsyncDirectory :=
  operation_keeps.bind Keeps.trans fun _ => respects_write fun _ => holds_sync

section Specs
variable {h : Host} {halt : Stop → Host → Prop}

theorem wp_next {post : Outcome → Host → Prop} (hpost : ∀ o h', h'.disk = h.disk → post o h')
    (hhalt : ∀ e h', h'.disk = h.disk → halt e h') : wp next post halt h :=
  wp_iff.mpr ⟨fun o _ => hpost o _ (next_disk h), fun e _ => hhalt e _ (next_disk h)⟩

theorem wp_operation {post : Unit → Host → Prop} (hpost : ∀ h', h'.disk = h.disk → post () h')
    (hhalt : ∀ e h', h'.disk = h.disk → halt e h') : wp operation post halt h := by
  rw [operation, wp_bind]
  refine wp_next (fun o h' hd => ?_) hhalt
  rw [wp_require]
  exact ⟨fun _ => hpost h' hd, fun _ => hhalt _ h' hd⟩

theorem readStateFile_spec (n : StateFileName) (h : Host) :
    wp (readStateFile n)
      (fun found h' => h'.disk = h.disk ∧
        (h.disk n).visible = if found then some n.payload else none)
      (fun _ h' => h'.disk = h.disk) h := by
  rw [readStateFile, wp_bind]
  refine wp_operation (fun h₁ hd₁ => ?_) fun _ _ => id
  rw [wp_bind, wp_read]
  dsimp only
  rw [hd₁]
  split
  · rename_i hnone
    exact ⟨hd₁, hnone⟩
  · rename_i content hcontent
    rw [wp_bind]
    refine wp_operation (fun h₂ hd₂ => ?_) fun _ _ hd => hd.trans hd₁
    rw [wp_bind, wp_require]
    refine ⟨fun _ => ?_, fun _ => hd₂.trans hd₁⟩
    rw [wp_bind]
    refine wp_operation (fun h₃ hd₃ => ?_) fun _ _ hd => hd.trans (hd₂.trans hd₁)
    have hd := hd₃.trans (hd₂.trans hd₁)
    rw [wp_bind, wp_require]
    refine ⟨fun heq => ⟨hd, ?_⟩, fun _ => hd⟩
    rw [hcontent, heq]
    rfl

theorem fsyncDirectory_spec (h : Host) :
    wp fsyncDirectory (fun _ h' => h'.disk = h.disk.sync) (fun _ h' => h'.disk = h.disk) h := by
  rw [fsyncDirectory, wp_bind]
  refine wp_operation (fun h₁ hd₁ => ?_) fun _ _ => id
  rw [wp_write]
  exact congrArg Disk.sync hd₁

/-- The disk, or the disk after a write to the file. -/
def Wrote (m : StateFileName) (d d' : Disk) : Prop := d' = d ∨ ∃ content, d' = d.write m content

theorem write_write (d : Disk) (m : StateFileName) (c c' : Option Bytes) :
    (d.write m c).write m c' = d.write m c' := by
  unfold Disk.write
  rw [Function.update_idem, Function.update_self]

theorem writeStateFile_spec (m : StateFileName) (h : Host) :
    wp (writeStateFile m) (fun _ h' => h'.disk = (h.disk.write m (some m.payload)).sync)
      (fun _ h' => Wrote m h.disk h'.disk) h := by
  have hwrote : ∀ {c : Option Bytes} {h' : Host}, h'.disk = h.disk.write m c →
      Wrote m h.disk h'.disk := fun hd => Or.inr ⟨_, hd⟩
  rw [writeStateFile, wp_bind]
  refine wp_operation (fun h₁ hd₁ => ?_) fun _ _ => Or.inl
  rw [wp_bind, writeVisible, wp_write]
  dsimp only
  rw [hd₁, wp_bind]
  refine wp_operation (fun h₂ hd₂ => ?_) fun _ _ => hwrote
  rw [wp_bind]
  refine wp_next (fun o h₃ hd₃ => ?_) fun _ _ hd => hwrote (hd.trans hd₂)
  have hd := hd₃.trans hd₂
  -- Past the write, the payload is there and only synchronisations follow.
  have htail : ∀ h₄ : Host, h₄.disk = h.disk.write m (some m.payload) →
      wp (do operation; operation; fsyncDirectory)
        (fun _ h' => h'.disk = (h.disk.write m (some m.payload)).sync)
        (fun _ h' => Wrote m h.disk h'.disk) h₄ := by
    intro h₄ hd₄
    rw [wp_bind]
    refine wp_operation (fun h₅ hd₅ => ?_) fun _ _ hd => hwrote (hd.trans hd₄)
    rw [wp_bind]
    refine wp_operation (fun h₆ hd₆ => ?_) fun _ _ hd => hwrote (hd.trans (hd₅.trans hd₄))
    have hd₆' := hd₆.trans (hd₅.trans hd₄)
    refine wp_mono (fsyncDirectory_spec h₆) (fun _ _ hd => ?_) fun _ _ hd => hwrote (hd.trans hd₆')
    rw [hd, hd₆']
  cases o with
  | ok =>
    rw [wp_bind, writeVisible, wp_write]
    refine htail _ ?_
    dsimp only
    rw [hd, write_write]
  | short written =>
    rw [wp_bind, wp_bind, writeVisible, wp_write]
    dsimp only
    rw [wp_require]
    refine ⟨fun hlength => htail _ ?_, fun _ => ?_⟩
    · dsimp only
      rw [hd, write_write, hlength, List.take_length]
    · dsimp only
      rw [hd, write_write]
      exact Or.inr ⟨_, rfl⟩
  | fail | die =>
    rw [wp_bind, wp_stop]
    exact hwrote hd

/-- A file that is created is there for good; no file is lost on the way. -/
theorem createStateFile_spec (m : StateFileName) (h : Host) :
    wp (createStateFile m)
      (fun _ h' => h'.disk.Holds m ∧ ∀ n, h.disk.Holds n → h'.disk.Holds n)
      (fun _ h' => ∀ n, h.disk.Holds n → h'.disk.Holds n) h := by
  rw [createStateFile, wp_bind]
  refine wp_mono (readStateFile_spec m h) (fun found h₁ hfound => ?_) fun _ h' hd n hn => hd ▸ hn
  obtain ⟨hd₁, hvisible⟩ := hfound
  cases found with
  | true =>
    refine wp_mono (fsyncDirectory_spec h₁) (fun _ h₂ hd₂ => ?_) fun _ h' hd n hn => ?_
    · rw [hd₂, hd₁]
      refine ⟨?_, fun n => holds_sync⟩
      unfold Disk.Holds Disk.sync
      rw [hvisible]
      rfl
    · rw [hd, hd₁]
      exact hn
  | false =>
    -- The file was not there, so writing it loses none.
    have hlost : ∀ content n, h.disk.Holds n → (h.disk.write m content).Holds n := by
      refine fun content n hn => holds_write hn fun hm => ?_
      subst hm
      rw [hn] at hvisible
      exact nomatch hvisible
    refine wp_mono (writeStateFile_spec m h₁) (fun _ h₂ hd₂ => ?_) fun _ h' hd n hn => ?_
    · rw [hd₂, hd₁]
      refine ⟨?_, fun n hn => holds_sync (hlost _ n hn)⟩
      unfold Disk.Holds Disk.sync Disk.write
      rw [Function.update_self]
    · rw [hd₁] at hd
      rcases hd with hd | ⟨content, hd⟩
      · rw [hd]
        exact hn
      · rw [hd]
        exact hlost content n hn

end Specs

theorem createStateFile_keeps : Respects (Keeps n) (createStateFile m) :=
  respects_of_wp fun h => wp_mono (createStateFile_spec m h) (fun _ _ h => h.2 n) fun _ _ h => h n

theorem preserveRecoveryState_keeps : Respects (Keeps n) preserveRecoveryState :=
  createStateFile_keeps.bind Keeps.trans fun _ => createStateFile_keeps

theorem removeStateFile_keeps (hne : m ≠ n) : Respects (Keeps n) (removeStateFile m) := by
  refine operation_keeps.bind Keeps.trans fun _ => (respects_read Keeps.refl).bind Keeps.trans
    fun _ => (respects_require Keeps.refl _ _).bind Keeps.trans fun _ =>
    operation_keeps.bind Keeps.trans fun _ => ?_
  refine Respects.bind Keeps.trans (respects_write fun h hn => ?_) fun _ => fsyncDirectory_keeps
  exact holds_write hn fun hm => absurd hm hne

theorem denyNewWork_keeps : Respects (Keeps n) denyNewWorkAndReserveShutdown := by
  refine Respects.bind Keeps.trans (respects_write fun _ => id) fun _ =>
    next_keeps.bind Keeps.trans fun o => ?_
  split
  · exact respects_pure Keeps.refl _
  · exact (pause_keeps _).bind Keeps.trans fun _ => respects_pure Keeps.refl _

theorem blockShutdown_keeps : Respects (Keeps n) blockShutdown :=
  (respects_andFinally Keeps.trans preserveRecoveryState_keeps (pause_keeps _)).bind Keeps.trans
    fun _ => respects_stop Keeps.refl _

end Keeps

section Onward

theorem onward_of_eq {h h' : Host} (hr : h'.readiness = h.readiness)
    (hf : h'.readyRemoval = h.readyRemoval) : Onward h h' := by
  refine ⟨?_, ?_, ?_, ?_⟩ <;> simp only [hr, hf, imp_self]

theorem onward_interfere (h : Host) (i : Option Interference) : Onward h (h.interfere i) := by
  unfold Host.interfere
  split
  · rename_i state hstate
    refine onward_pause h ?_
    rintro rfl
    obtain ⟨i', -, hi'⟩ := Option.bind_eq_some_iff.mp hstate
    exact i'.ne_ready hi'
  · exact Onward.refl h

theorem next_onward : Respects Onward next := by
  intro h
  unfold next
  split
  · exact Onward.refl h
  · rename_i c cs _
    have hstep : Onward h (({ h with choices := cs }).interfere c.interference) :=
      Onward.trans _ { h with choices := cs } _ (onward_of_eq rfl rfl) (onward_interfere _ _)
    dsimp only
    split <;> exact hstep

theorem operation_onward : Respects Onward operation :=
  next_onward.bind Onward.trans fun _ => respects_require Onward.refl _ _

theorem pause_onward (state : SQLiteOperatorState) (h : state ≠ .ready) :
    Respects Onward (pause state) := respects_write fun s => onward_pause s h

theorem fsyncDirectory_onward : Respects Onward fsyncDirectory :=
  operation_onward.bind Onward.trans fun _ => respects_write fun _ => onward_of_eq rfl rfl

theorem writeVisible_onward (n : StateFileName) (content : Option Bytes) :
    Respects Onward (writeVisible n content) := respects_write fun _ => onward_of_eq rfl rfl

theorem readStateFile_onward (n : StateFileName) : Respects Onward (readStateFile n) := by
  refine operation_onward.bind Onward.trans fun _ => (respects_read Onward.refl).bind Onward.trans
    fun h => ?_
  split
  · exact respects_pure Onward.refl _
  · exact operation_onward.bind Onward.trans fun _ =>
      (respects_require Onward.refl _ _).bind Onward.trans fun _ =>
      operation_onward.bind Onward.trans fun _ =>
      (respects_require Onward.refl _ _).bind Onward.trans fun _ => respects_pure Onward.refl _

theorem writeStateFile_onward (n : StateFileName) : Respects Onward (writeStateFile n) := by
  have htail : Respects Onward (do operation; operation; fsyncDirectory) :=
    operation_onward.bind Onward.trans fun _ => operation_onward.bind Onward.trans fun _ =>
      fsyncDirectory_onward
  refine operation_onward.bind Onward.trans fun _ =>
    (writeVisible_onward n _).bind Onward.trans fun _ =>
    operation_onward.bind Onward.trans fun _ => next_onward.bind Onward.trans fun o => ?_
  cases o with
  | ok => exact (writeVisible_onward n _).bind Onward.trans fun _ => htail
  | short written =>
    exact ((writeVisible_onward n _).bind Onward.trans fun _ =>
      respects_require Onward.refl _ _).bind Onward.trans fun _ => htail
  | fail | die => exact (respects_stop Onward.refl _).bind Onward.trans fun _ => htail

theorem createStateFile_onward (n : StateFileName) : Respects Onward (createStateFile n) := by
  refine (readStateFile_onward n).bind Onward.trans fun found => ?_
  cases found with
  | true => exact fsyncDirectory_onward
  | false => exact writeStateFile_onward n

theorem removeStateFile_onward (n : StateFileName) : Respects Onward (removeStateFile n) :=
  operation_onward.bind Onward.trans fun _ => (respects_read Onward.refl).bind Onward.trans
    fun _ => (respects_require Onward.refl _ _).bind Onward.trans fun _ =>
    operation_onward.bind Onward.trans fun _ =>
    (writeVisible_onward n none).bind Onward.trans fun _ => fsyncDirectory_onward

theorem preserveRecoveryState_onward : Respects Onward preserveRecoveryState :=
  (createStateFile_onward _).bind Onward.trans fun _ => createStateFile_onward _

theorem denyNewWork_onward : Respects Onward denyNewWorkAndReserveShutdown := by
  refine Respects.bind Onward.trans (respects_write fun h => ⟨nofun, id, id, id⟩) fun _ =>
    next_onward.bind Onward.trans fun o => ?_
  split
  · exact respects_pure Onward.refl _
  · exact (pause_onward .shutdownBlocked nofun).bind Onward.trans fun _ => respects_pure Onward.refl _

theorem blockShutdown_onward : Respects Onward blockShutdown :=
  (respects_andFinally Onward.trans preserveRecoveryState_onward (pause_onward .shutdownBlocked nofun)).bind
    Onward.trans fun _ => respects_stop Onward.refl _

end Onward

/-! ### What the calls of a runtime keep -/

/-- The next owner will learn that recovery is required, unless the state was found ready. -/
def Secured (h : Host) : Prop :=
  h.readyRemoval = true ∨ h.disk.Holds .dirtyMarker ∨ h.disk.Holds .recoveryLatch

structure Guarded (h h' : Host) : Prop where
  onward : Onward h h'
  latch : Keeps .recoveryLatch h h'
  secured : Secured h → Secured h'

theorem Guarded.refl (h : Host) : Guarded h h := ⟨.refl h, .refl h, id⟩

theorem Guarded.trans (a b c : Host) (hab : Guarded a b) (hbc : Guarded b c) : Guarded a c :=
  ⟨.trans _ _ _ hab.onward hbc.onward, .trans _ _ _ hab.latch hbc.latch,
    fun h => hbc.secured (hab.secured h)⟩

section Guarded
variable {α : Type}

/-- What loses neither file is guarded. -/
theorem guarded_of_keeps {c : Action α} (ho : Respects Onward c)
    (hk : ∀ n, Respects (Keeps n) c) : Respects Guarded c := by
  intro h
  refine ⟨ho h, hk _ h, fun hs => ?_⟩
  rcases hs with hs | hs | hs
  · exact Or.inl ((ho h).removal hs)
  · exact Or.inr (Or.inl (hk _ h hs))
  · exact Or.inr (Or.inr (hk _ h hs))

theorem next_guarded : Respects Guarded next := guarded_of_keeps next_onward fun _ => next_keeps

theorem operation_guarded : Respects Guarded operation :=
  guarded_of_keeps operation_onward fun _ => operation_keeps

theorem pause_guarded (state : SQLiteOperatorState) (h : state ≠ .ready) :
    Respects Guarded (pause state) := guarded_of_keeps (pause_onward _ h) fun _ => pause_keeps _

theorem preserveRecoveryState_guarded : Respects Guarded preserveRecoveryState :=
  guarded_of_keeps preserveRecoveryState_onward fun _ => preserveRecoveryState_keeps

theorem denyNewWork_guarded : Respects Guarded denyNewWorkAndReserveShutdown :=
  guarded_of_keeps denyNewWork_onward fun _ => denyNewWork_keeps

theorem blockShutdown_guarded : Respects Guarded blockShutdown :=
  guarded_of_keeps blockShutdown_onward fun _ => blockShutdown_keeps

/-- The marker is removed only under the latch, or where the state was found ready. -/
theorem removeMarker_guarded : Respects Guarded removeMarker := by
  have hkeeps : Respects (Keeps .recoveryLatch) (do removeStateFile .dirtyMarker; operation) :=
    (removeStateFile_keeps (show StateFileName.dirtyMarker ≠ .recoveryLatch from nofun)).bind
      Keeps.trans fun _ => operation_keeps
  have honward : Respects Onward (do removeStateFile .dirtyMarker; operation) :=
    (removeStateFile_onward _).bind Onward.trans fun _ => operation_onward
  refine (respects_read Guarded.refl).bind Guarded.trans fun h => ?_
  by_cases hready : h.readiness.operatorState = .ready
  · have htail : Respects Guarded (do
        write fun h => { h with readyRemoval := true }
        removeStateFile .dirtyMarker
        operation) := by
      intro h'
      refine ⟨?_, fun hl => hkeeps _ hl, fun _ => Or.inl ((honward _).removal rfl)⟩
      exact Onward.trans _ { h' with readyRemoval := true } _ ⟨id, id, id, fun _ => rfl⟩ (honward _)
    simpa [hready] using operation_guarded.bind Guarded.trans fun _ => htail
  · have htail : Respects Guarded (do
        createStateFile .recoveryLatch
        operation
        removeStateFile .dirtyMarker
        operation) := by
      intro h'
      have hrest : Respects Onward (do operation; removeStateFile .dirtyMarker; operation) :=
        operation_onward.bind Onward.trans fun _ => honward
      have hlatch : Respects (Keeps .recoveryLatch)
          (do operation; removeStateFile .dirtyMarker; operation) :=
        operation_keeps.bind Keeps.trans fun _ => hkeeps
      refine ⟨?_, ?_, ?_⟩
      · exact (createStateFile_onward _).bind Onward.trans (fun _ => hrest) h'
      · exact createStateFile_keeps.bind Keeps.trans (fun _ => hlatch) h'
      · -- Once the latch is created it stays; until then the marker does.
        intro hs
        refine bind_state (wp_iff.mpr ⟨fun u hu => ?_, fun e he => ?_⟩)
        · have hcreated := (wp_iff.mp (createStateFile_spec .recoveryLatch h')).1 u hu
          exact Or.inr (Or.inr (hlatch _ hcreated.1))
        · exact (guarded_of_keeps (createStateFile_onward _)
            (fun _ => createStateFile_keeps) h').secured hs
    simpa [hready] using htail

theorem closeCleanlyExclusive_guarded : Respects Guarded closeCleanlyExclusive := by
  refine (respects_read Guarded.refl).bind Guarded.trans fun h => ?_
  split
  · exact respects_pure Guarded.refl _
  refine denyNewWork_guarded.bind Guarded.trans fun reserved => ?_
  cases reserved with
  | false => exact blockShutdown_guarded
  | true =>
    refine Respects.bind Guarded.trans (respects_onRaise Guarded.trans ?_ ?_) fun _ =>
      Respects.bind Guarded.trans (respects_onRaise Guarded.trans removeMarker_guarded ?_) fun _ =>
      respects_write fun h => ⟨onward_of_eq rfl rfl, id, id⟩
    · exact operation_guarded.bind Guarded.trans fun _ =>
        operation_guarded.bind Guarded.trans fun _ =>
        operation_guarded.bind Guarded.trans fun _ => operation_guarded
    · exact respects_andFinally Guarded.trans preserveRecoveryState_guarded
        ((pause_guarded .shutdownBlocked nofun).bind Guarded.trans fun _ => operation_guarded)
    · refine (pause_guarded .storageIoFailure nofun).bind Guarded.trans fun _ =>
        next_guarded.bind Guarded.trans fun owned => ?_
      split
      · exact respects_andFinally Guarded.trans preserveRecoveryState_guarded operation_guarded
      · exact respects_pure Guarded.refl _

theorem abandonExclusive_guarded : Respects Guarded abandonExclusive := by
  refine (respects_read Guarded.refl).bind Guarded.trans fun h => ?_
  split
  · exact respects_pure Guarded.refl _
  refine denyNewWork_guarded.bind Guarded.trans fun reserved => ?_
  cases reserved with
  | false => exact blockShutdown_guarded
  | true =>
    exact (pause_guarded .shutdownBlocked nofun).bind Guarded.trans fun _ =>
      preserveRecoveryState_guarded.bind Guarded.trans fun _ =>
      operation_guarded.bind Guarded.trans fun _ => operation_guarded.bind Guarded.trans fun _ =>
      operation_guarded.bind Guarded.trans fun _ =>
      respects_write fun h => ⟨onward_of_eq rfl rfl, id, id⟩

theorem exclusively_guarded {c : Action Unit} (hc : Respects Guarded c) :
    Respects Guarded (exclusively c) := by
  refine next_guarded.bind Guarded.trans fun acquired => ?_
  split
  · exact hc
  · exact (pause_guarded .shutdownBlocked nofun).bind Guarded.trans fun _ =>
      respects_stop Guarded.refl _

theorem RuntimeCall.guarded (c : RuntimeCall) : Respects Guarded c.run := by
  cases c with
  | closeCleanly => exact exclusively_guarded closeCleanlyExclusive_guarded
  | abandon => exact exclusively_guarded abandonExclusive_guarded
  | work => exact operation_guarded

theorem runCalls_guarded (cs : List RuntimeCall) (h : Host) : Guarded h (runCalls cs h) := by
  induction cs generalizing h with
  | nil => exact .refl h
  | cons c cs ih =>
    have hc := c.guarded h
    rw [runCalls]
    rcases hx : c.run h with ⟨(_ | _) | u, h'⟩ <;> rw [hx] at hc
    · exact .trans _ _ _ hc (ih h')
    · exact hc
    · exact .trans _ _ _ hc (ih h')

end Guarded

/-! ### What an open finds -/

/-- An open that returned. -/
structure Opened (role : SQLiteProcessRole) (h : Host) (report : SQLiteStartupReport) (h' : Host) :
    Prop where
  marked : h'.disk.Holds .dirtyMarker
  kept : ∀ n, h.disk.Holds n → h'.disk.Holds n
  latched : (∃ n, h.disk.Holds n) →
    h'.disk.Holds .recoveryLatch ∧ report.requiresReconciliation = true
  migration : role = .migration → report.requiresReconciliation = false
  external : report.externalActionsMustRemainPaused = report.requiresReconciliation
  readiness : h'.readiness =
    { acceptingNewWork := !report.requiresReconciliation
      externalActionsMustRemainPaused := report.requiresReconciliation
      operatorState := if report.requiresReconciliation then .recoveryRequired else .ready }
  fresh : h'.readyRemoval = false

theorem finishOpen_spec (role : SQLiteProcessRole) (inheritedDirty latched : Bool) (h : Host) :
    wp (finishOpen role inheritedDirty latched)
      (fun report h' => h'.disk.Holds .dirtyMarker ∧ (∀ n, h.disk.Holds n → h'.disk.Holds n) ∧
        report.requiresReconciliation = latched ∧
        (role = .migration → report.requiresReconciliation = false) ∧
        report.externalActionsMustRemainPaused = report.requiresReconciliation ∧
        h'.readiness =
          { acceptingNewWork := !report.requiresReconciliation
            externalActionsMustRemainPaused := report.requiresReconciliation
            operatorState :=
              if report.requiresReconciliation then .recoveryRequired else .ready } ∧
        h'.readyRemoval = false)
      (fun _ h' => ∀ n, h.disk.Holds n → h'.disk.Holds n) h := by
  rw [finishOpen, wp_bind, wp_require]
  refine ⟨fun hrole => ?_, fun _ _ => id⟩
  have hmigration : role = .migration → latched = false := by
    intro hm
    by_contra hlatched
    exact hrole ⟨hm, Bool.eq_true_of_not_eq_false hlatched⟩
  rw [wp_bind]
  refine wp_mono (createStateFile_spec .dirtyMarker h) (fun _ h₁ h₁spec => ?_) fun _ _ => id
  obtain ⟨hmarked, hkept⟩ := h₁spec
  rw [wp_bind]
  refine wp_operation (fun h₂ hd₂ => ?_) fun _ h' hd n hn => hd ▸ hkept n hn
  -- Only the readiness is set after the checks, with or without the checkpoint.
  have hend : ∀ h₃ : Host, h₃.disk = h₁.disk →
      h₃.disk.Holds .dirtyMarker ∧ ∀ n, h.disk.Holds n → h₃.disk.Holds n := by
    intro h₃ hd
    rw [hd]
    exact ⟨hmarked, hkept⟩
  cases inheritedDirty with
  | true =>
    rw [if_pos rfl, wp_bind]
    refine wp_operation (fun h₃ hd₃ => ?_) fun _ h' hd => (hend h' (hd.trans hd₂)).2
    obtain ⟨hm, hk⟩ := hend h₃ (hd₃.trans hd₂)
    exact ⟨hm, hk, rfl, hmigration, rfl, rfl, rfl⟩
  | false =>
    obtain ⟨hm, hk⟩ := hend h₂ hd₂
    exact ⟨hm, hk, rfl, hmigration, rfl, rfl, rfl⟩

/-- An open reports what either file tells it, and loses none. -/
theorem openRuntime_spec (role : SQLiteProcessRole) (h : Host) :
    wp (openRuntime role) (fun report h' => Opened role h report h')
      (fun _ h' => ∀ n, h.disk.Holds n → h'.disk.Holds n) h := by
  rw [openRuntime, wp_bind]
  refine wp_operation (fun h₁ hd₁ => ?_) fun _ h' hd n hn => hd ▸ hn
  rw [wp_bind]
  refine wp_mono (readStateFile_spec _ h₁) (fun inheritedDirty h₂ hread => ?_)
    fun _ h' hd n hn => by rwa [hd, hd₁]
  obtain ⟨hd₂, hmarker⟩ := hread
  rw [wp_bind]
  refine wp_mono (readStateFile_spec _ h₂) (fun latched h₃ hread => ?_)
    fun _ h' hd n hn => by rwa [hd, hd₂, hd₁]
  obtain ⟨hd₃, hlatch⟩ := hread
  rw [hd₁] at hmarker
  rw [hd₂, hd₁] at hlatch
  have hd : h₃.disk = h.disk := hd₃.trans (hd₂.trans hd₁)
  cases inheritedDirty with
  | true =>
    rw [if_pos rfl, wp_bind]
    refine wp_mono (createStateFile_spec .recoveryLatch h₃) (fun _ h₄ hcreated => ?_)
      fun _ h' hk n hn => hk n (by rwa [hd])
    obtain ⟨hl, hk⟩ := hcreated
    refine wp_mono (finishOpen_spec role true true h₄) (fun report h₅ hopened => ?_)
      fun _ h' hk' n hn => hk' n (hk n (by rwa [hd]))
    obtain ⟨hm, hk', hreport, hmigration, hexternal, hreadiness, hfresh⟩ := hopened
    exact ⟨hm, fun n hn => hk' n (hk n (by rwa [hd])), fun _ => ⟨hk' _ hl, hreport⟩, hmigration,
      hexternal, hreadiness, hfresh⟩
  | false =>
    rw [if_neg (by decide)]
    refine wp_mono (finishOpen_spec role false latched h₃) (fun report h₄ hopened => ?_)
      fun _ h' hk n hn => hk n (by rwa [hd])
    obtain ⟨hm, hk, hreport, hmigration, hexternal, hreadiness, hfresh⟩ := hopened
    refine ⟨hm, fun n hn => hk n (by rwa [hd]), fun hfound => ?_, hmigration, hexternal,
      hreadiness, hfresh⟩
    -- The marker was not there, so the file that is there is the latch.
    obtain ⟨n, hn⟩ := hfound
    cases n with
    | dirtyMarker =>
      rw [hn] at hmarker
      exact nomatch hmarker
    | recoveryLatch =>
      refine ⟨hk _ (by rwa [hd]), ?_⟩
      rw [hreport]
      cases latched with
      | true => rfl
      | false =>
        rw [hn] at hlatch
        exact nomatch hlatch

/-! ### Sequences of lifetimes -/

theorem holds_start {d : Disk} {n : StateFileName} (h : d.Holds n) (l : Lifetime) :
    (l.start d).disk.Holds n := by
  unfold Lifetime.start
  cases l.outage with
  | none => exact h
  | some left =>
    change (if (d n).visible = (d n).durable then d n else ⟨left n, left n⟩) = _
    rw [if_pos (by rw [h]), h]

/-- One of the files is there for good. -/
def Disk.Told (d : Disk) : Prop := ∃ n, d.Holds n

theorem told_after {d : Disk} (h : d.Told) (l : Lifetime) : (l.after d).disk.Told := by
  obtain ⟨n, hn⟩ := h
  have hstart := holds_start hn l
  obtain ⟨hopened, hfailed⟩ := wp_iff.mp (openRuntime_spec l.role (l.start d))
  unfold Lifetime.after
  rcases hx : openRuntime l.role (l.start d) with ⟨e | report, h'⟩
  · rw [hx] at hfailed
    exact ⟨n, hfailed e rfl n hstart⟩
  · rw [hx] at hopened
    exact ⟨_, (runCalls_guarded l.calls h').latch ((hopened report rfl).latched ⟨n, hstart⟩).1⟩

theorem told_afterLifetimes {d : Disk} (h : d.Told) (ls : List Lifetime) :
    (afterLifetimes d ls).Told := by
  induction ls generalizing d with
  | nil => exact h
  | cons l ls ih => exact ih (told_after h l)

/-- A lifetime whose open returned tells the next, unless it removed the marker of a state that it
had found ready. -/
theorem told_of_opened {d : Disk} {l : Lifetime} {report : SQLiteStartupReport}
    (hopen : (openRuntime l.role (l.start d)).1 = .ok report)
    (hremoval : (l.after d).readyRemoval = false) : (l.after d).disk.Told := by
  have hopened := (wp_iff.mp (openRuntime_spec l.role (l.start d))).1 report hopen
  have hafter : l.after d = runCalls l.calls (openRuntime l.role (l.start d)).2 := by
    unfold Lifetime.after
    rcases hx : openRuntime l.role (l.start d) with ⟨e | r, h'⟩
    · rw [hx] at hopen
      exact nomatch hopen
    · rfl
  rw [hafter] at hremoval ⊢
  rcases (runCalls_guarded l.calls _).secured (Or.inr (Or.inl hopened.marked)) with h | h | h
  · rw [hremoval] at h
    exact nomatch h
  · exact ⟨_, h⟩
  · exact ⟨_, h⟩

/-- Within a lifetime, later states are onward from earlier ones. -/
theorem runCalls_onward (cs cs' : List RuntimeCall) (h : Host) :
    Onward (runCalls cs h) (runCalls (cs ++ cs') h) := by
  induction cs generalizing h with
  | nil => exact (runCalls_guarded cs' h).onward
  | cons c cs ih =>
    rw [List.cons_append, runCalls, runCalls]
    rcases c.run h with ⟨(_ | _) | u, h'⟩
    · exact ih h'
    · exact .refl h'
    · exact ih h'

/-- Every open that returns after a lifetime that did not end cleanly requires reconciliation,
takes no work and keeps external actions paused, and is no migration; and within a lifetime neither
the work nor the ready state comes back. -/
theorem recovery_kept :
    (∀ (d : Disk) (before : List Lifetime) (l : Lifetime) (between : List Lifetime) (l' : Lifetime)
        (report report' : SQLiteStartupReport),
      (openRuntime l.role (l.start (afterLifetimes d before))).1 = .ok report →
      (l.after (afterLifetimes d before)).readyRemoval = false →
      (openRuntime l'.role (l'.start (afterLifetimes d (before ++ l :: between)))).1 =
        .ok report' →
      report'.requiresReconciliation = true ∧ report'.externalActionsMustRemainPaused = true ∧
        l'.role ≠ .migration ∧
        ∀ cs, (runCalls cs (openRuntime l'.role
            (l'.start (afterLifetimes d (before ++ l :: between)))).2).readiness.acceptingNewWork =
              false ∧
          (runCalls cs (openRuntime l'.role (l'.start (afterLifetimes d
            (before ++ l :: between)))).2).readiness.externalActionsMustRemainPaused = true) ∧
    ∀ (h : Host) (cs cs' : List RuntimeCall),
      ((runCalls cs h).readiness.acceptingNewWork = false →
        (runCalls (cs ++ cs') h).readiness.acceptingNewWork = false) ∧
      ((runCalls cs h).readiness.operatorState ≠ .ready →
        (runCalls (cs ++ cs') h).readiness.operatorState ≠ .ready) := by
  refine ⟨fun d before l between l' report report' hopen hremoval hopen' => ?_, fun h cs cs' => ?_⟩
  · have htold : (afterLifetimes d (before ++ l :: between)).Told := by
      rw [afterLifetimes, List.foldl_append, List.foldl_cons]
      exact told_afterLifetimes (told_of_opened hopen hremoval) between
    obtain ⟨n, hn⟩ := htold
    have hopened := (wp_iff.mp (openRuntime_spec l'.role _)).1 report' hopen'
    have hrequires := (hopened.latched ⟨n, holds_start hn l'⟩).2
    refine ⟨hrequires, hopened.external.trans hrequires, fun hm => ?_, fun cs => ?_⟩
    · exact nomatch (hopened.migration hm).symm.trans hrequires
    · have honward := (runCalls_guarded cs (openRuntime l'.role
        (l'.start (afterLifetimes d (before ++ l :: between)))).2).onward
      have hreadiness := hopened.readiness
      rw [hrequires] at hreadiness
      constructor
      · by_contra haccept
        have hstart := honward.accepting (Bool.eq_true_of_not_eq_false haccept)
        rw [hreadiness] at hstart
        exact nomatch hstart
      · refine honward.paused ?_
        rw [hreadiness]
  · have honward := runCalls_onward cs cs' h
    refine ⟨fun haccept => ?_, fun hready hback => hready (honward.ready hback)⟩
    by_contra hback
    exact nomatch haccept.symm.trans (honward.accepting (Bool.eq_true_of_not_eq_false hback))

namespace Sample

def smooth (n : Nat) : List Choice := List.replicate n ⟨.ok, none⟩

def blank : Disk := fun _ => ⟨none, none⟩

/-- A process that dies at work. -/
def working : Lifetime := { choices := smooth 20, calls := [.work] }

def successor : Lifetime := { choices := smooth 20 }

theorem recovery_kept_working :
    ∃ report, (openRuntime successor.role
        (successor.start (afterLifetimes blank [working]))).1 = .ok report ∧
      report.requiresReconciliation = true := by
  have hopen : (openRuntime working.role (working.start (afterLifetimes blank []))).1 =
      .ok ⟨.clean, false, false⟩ := by decide +kernel
  have hremoval : (working.after (afterLifetimes blank [])).readyRemoval = false := by
    decide +kernel
  have hopen' : (openRuntime successor.role (successor.start
      (afterLifetimes blank ([] ++ working :: [])))).1 = .ok ⟨.dirty, true, true⟩ := by
    decide +kernel
  exact ⟨_, hopen', (recovery_kept.1 blank [] working [] successor _ _ hopen hremoval hopen').1⟩

end Sample

end MyCogni.Persistence
