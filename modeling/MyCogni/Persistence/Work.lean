import MyCogni.Base.Program
import MyCogni.Persistence.Runtime

/-! The work of one runtime: units of work, reconciliation readers, and the calls that shut the runtime
down. All of them share its readiness and the reservation of application work. Every step may raise,
and between two steps of one thread the others take theirs. -/

namespace MyCogni.Persistence.Work

/-! ### The runtime -/

inductive CallName where
  | enter
  | statement
  | commit
  | rollback
  | exit
deriving DecidableEq

/-- What was done for a unit of work, a reader or a shutdown. -/
inductive Deed where
  | acquired
  /-- The release was tried. -/
  | released
  | begun
  /-- A statement was tried. -/
  | stated
  | committed
  | rolledBack
  | rollbackFailed
  | closed
  | closeFailed
  /-- A call has ended, and it has left the object terminal or not. -/
  | ended (call : CallName) (returned terminal : Bool)
deriving DecidableEq

structure Event where
  party : Nat
  deed : Deed
deriving DecidableEq

/-- What the threads share. -/
structure World where
  readiness : SQLiteReadiness
  requiresReconciliation : Bool
  closed : Bool := false
  /-- `_application_work_lock` -/
  locked : Bool := false
  /-- `_lifecycle_lock` -/
  lifecycleLocked : Bool := false
  /-- A record that no function reads, the latest event first. -/
  history : List Event := []

inductive Fault where
  | runtimeError
  | typeError
  | readinessError
  | recoveryError
  /-- Anything that a step raises. -/
  | raised
deriving DecidableEq

inductive Op where
  /-- `assert_accepting_new_work` -/
  | assertAccepting
  /-- `_assert_reconciliation_work` -/
  | assertReconciliation
  | acquire (p : Nat)
  | release (p : Nat)
  /-- The session or the connection. -/
  | connect (p : Nat)
  | queryOnly (p : Nat)
  | begin (p : Nat)
  | statement (p : Nat)
  | commit (p : Nat)
  | rollback (p : Nat)
  | close (p : Nat)
  /-- `_pause` -/
  | pause (state : SQLiteOperatorState)
  | ended (p : Nat) (call : CallName) (returned terminal : Bool)
  | acquireLifecycle
  | releaseLifecycle
  | isClosed
  | setClosed
  | denyNewWork
  /-- Operations of a shutdown on the files, the engine and the lease. -/
  | maintain

abbrev Value : Op → Type
  | .acquire _ | .acquireLifecycle | .isClosed => Bool
  | _ => Unit

abbrev Reply (o : Op) : Type := Except Fault (Value o)

/-- A step returns, or it raises, perhaps with an error of the driver. -/
inductive Fate where
  | returns
  | raises (code : Option Nat)

namespace World

def note (w : World) (p : Nat) (d : Option Deed) : World :=
  match d with
  | some d => { w with history := ⟨p, d⟩ :: w.history }
  | none => w

/-- `_handle_driver_error` -/
def driverFailure (w : World) (code : Option Nat) : World :=
  match code.bind operatorStateForError with
  | some state => { w with readiness := .pause state }
  | none => w

/-- A step of the driver for a party. -/
def driver (w : World) (p : Nat) (done failed : Option Deed) : Fate → Except Fault Unit × World
  | .returns => (.ok (), w.note p done)
  | .raises code => (.error .raised, (w.driverFailure code).note p failed)

/-- A check under the readiness lock, after the one of the lease. -/
def guarded (w : World) (c : Prop) [Decidable c] : Fate → Except Fault Unit × World
  | .returns => (if c then .ok () else .error .readinessError, w)
  | .raises _ => (.error .raised, w)

end World

def exec : (o : Op) → Fate → World → Reply o × World
  | .assertAccepting, fate, w =>
    w.guarded (w.closed = false ∧ w.readiness.acceptingNewWork = true) fate
  | .assertReconciliation, fate, w =>
    w.guarded (w.closed = false ∧ w.requiresReconciliation = true ∧
      w.readiness.acceptingNewWork = false ∧ w.readiness.operatorState = .recoveryRequired) fate
  | .acquire _, .raises _, w => (.error .raised, w)
  | .acquire p, .returns, w =>
    if w.locked then (.ok false, w) else (.ok true, { w with locked := true }.note p (some .acquired))
  | .release p, .raises _, w => (.error .raised, w.note p (some .released))
  | .release p, .returns, w =>
    if w.locked then (.ok (), { w with locked := false }.note p (some .released))
    else (.error .runtimeError, w.note p (some .released))
  | .connect p, fate, w => w.driver p none none fate
  | .queryOnly p, fate, w => w.driver p none none fate
  | .begin p, fate, w => w.driver p (some .begun) none fate
  | .statement p, fate, w => w.driver p (some .stated) (some .stated) fate
  | .commit p, fate, w => w.driver p (some .committed) none fate
  | .rollback p, fate, w => w.driver p (some .rolledBack) (some .rollbackFailed) fate
  | .close p, fate, w => w.driver p (some .closed) (some .closeFailed) fate
  | .pause state, _, w => (.ok (), { w with readiness := .pause state })
  | .ended p call returned terminal, _, w =>
    (.ok (), w.note p (some (.ended call returned terminal)))
  | .acquireLifecycle, _, w =>
    if w.lifecycleLocked then (.ok false, w) else (.ok true, { w with lifecycleLocked := true })
  | .releaseLifecycle, _, w => (.ok (), { w with lifecycleLocked := false })
  | .isClosed, _, w => (.ok w.closed, w)
  | .setClosed, _, w => (.ok (), { w with closed := true })
  | .denyNewWork, _, w =>
    (.ok (), { w with readiness := { w.readiness with acceptingNewWork := false } })
  | .maintain, fate, w => w.driver 0 none none fate

/-! ### Objects -/

/-- The fields of a unit of work or of a reader. -/
structure WorkObject where
  /-- The session or the connection is there. -/
  active : Bool := false
  terminal : Bool := false
  workReserved : Bool := false
deriving DecidableEq

/-- The body of a method, with the fields of its object. -/
abbrev Method (α : Type) : Type := ExceptT Fault (StateT WorkObject (Program Op Reply)) α

section Methods
variable {α : Type}

def step (o : Op) : Method (Value o) :=
  ExceptT.mk fun self => Program.lift o >>= fun r => pure (r, self)

def fields : Method WorkObject := ExceptT.mk fun self => pure (.ok self, self)

def setFields (f : WorkObject → WorkObject) : Method Unit :=
  ExceptT.mk fun self => pure (.ok (), f self)

/-- `except BaseException: handler` -/
def except (m : Method α) (handler : Fault → Method α) : Method α :=
  ExceptT.mk fun self => m.run self >>= fun r =>
    match r.1 with
    | .ok a => pure (.ok a, r.2)
    | .error e => (handler e).run r.2

/-- `finally: f`, where `f` does not raise. -/
def andFinally (m : Method α) (f : Method Unit) : Method α :=
  ExceptT.mk fun self => m.run self >>= fun r => f.run r.2 >>= fun r' =>
    match r'.1 with
    | .ok _ => pure (r.1, r'.2)
    | .error e => pure (.error e, r'.2)

end Methods

/-- `_report_cleanup_failure` -/
def reportCleanupFailure : Method Unit := except (step (.pause .storageIoFailure)) fun _ => pure ()

/-- A step of which a failure is reported, and no more. -/
def cleanup (o : Op) (m : Method Unit) : Method Unit :=
  except (step o >>= fun _ => m) fun _ => reportCleanupFailure

/-- `_release_work_once` -/
def releaseWorkOnce (p : Nat) : Method Unit := do
  let self ← fields
  if self.workReserved = true then do
    setFields fun self => { self with workReserved := false }
    cleanup (.release p) (pure ())
  else pure ()

/-- The reservation, which is not waited for. -/
def reserve (p : Nat) : Method Unit := do
  let reserved ← step (.acquire p)
  if reserved = true then pure () else throw .readinessError

namespace SqlAlchemyUnitOfWork
variable (p : Nat)

/-- `_admit_application_work` -/
def workAdmission : Method Unit := do
  step .assertAccepting
  reserve p

def beginImmediate : Method Unit := do
  step (.connect p)
  setFields fun self => { self with active := true }
  step (.begin p)

/-- What `__enter__` does once it has failed to begin. -/
def abandonEntry (e : Fault) : Method Unit := do
  let self ← fields
  setFields fun self => { self with active := false, terminal := true }
  if self.active = true then do
    cleanup (.rollback p) (pure ())
    cleanup (.close p) (pure ())
  else pure ()
  releaseWorkOnce p
  throw e

/-- `__enter__` -/
def enter : Method Unit := do
  let self ← fields
  if self.active = true ∨ self.terminal = true then throw .runtimeError
  else do
    except (workAdmission p) fun e => do
      setFields fun self => { self with terminal := true }
      throw e
    setFields fun self => { self with workReserved := true }
    except (beginImmediate p) (abandonEntry p)

def commitSession : Method Unit := do
  except (step .assertAccepting >>= fun _ => step (.commit p)) fun e => do
    cleanup (.rollback p) (pure ())
    cleanup (.close p) (pure ())
    throw e
  cleanup (.close p) (pure ())

def rollbackSession : Method Unit := do
  except (step (.rollback p)) fun e => do
    reportCleanupFailure
    cleanup (.rollback p) (pure ())
    cleanup (.close p) (pure ())
    throw e
  cleanup (.close p) (pure ())

/-- `_finish` -/
def finish (session : Method Unit) : Method Unit := do
  let self ← fields
  if self.active = true then do
    setFields fun self => { self with active := false, terminal := true }
    andFinally session (releaseWorkOnce p)
  else throw .runtimeError

def commit : Method Unit := finish p (commitSession p)

def rollback : Method Unit := finish p (rollbackSession p)

/-- `__exit__` -/
def exit : Method Unit := do
  let self ← fields
  if self.active = true then rollback p else pure ()

/-- A statement by way of `session`. -/
def statement : Method Unit := do
  let self ← fields
  if self.active = true then step (.statement p) else throw .runtimeError

end SqlAlchemyUnitOfWork

/-- A statement, as far as the reader looks at it. -/
structure Statement where
  isTextClause : Bool
  /-- It begins with `SELECT`, and there is no semicolon. -/
  isSelect : Bool
deriving DecidableEq

namespace SqlAlchemyReconciliationReader
variable (p : Nat)

/-- `_admit_reconciliation_work` -/
def workAdmission : Method Unit := do
  step .assertReconciliation
  reserve p

/-- `_cleanup` -/
def cleanupAll : Method Unit := do
  let self ← fields
  setFields fun self => { self with active := false, terminal := true }
  if self.active = true then
    except (step (.rollback p) >>= fun _ => step (.queryOnly p) >>= fun _ => step (.close p))
      fun _ => do
        reportCleanupFailure
        except (step (.close p)) fun _ => pure ()
  else pure ()
  releaseWorkOnce p

def beginReading : Method Unit := do
  step (.connect p)
  setFields fun self => { self with active := true }
  step (.queryOnly p)
  step (.begin p)

/-- `__enter__` -/
def enter : Method Unit := do
  let self ← fields
  if self.active = true ∨ self.terminal = true then throw .runtimeError
  else do
    workAdmission p
    setFields fun self => { self with workReserved := true }
    except (beginReading p) fun e => do
      cleanupAll p
      throw e

def execute (s : Statement) : Method Unit := do
  step .assertReconciliation
  let self ← fields
  if self.active = false ∨ self.terminal = true then throw .runtimeError
  else if s.isTextClause = false then throw .typeError
  else if s.isSelect = false then throw .runtimeError
  else step (.statement p)

/-- `__exit__` -/
def exit : Method Unit := cleanupAll p

end SqlAlchemyReconciliationReader

/-! ### Shutdowns -/

section Shutdown
variable (p : Nat)

/-- `_deny_new_work_and_reserve_shutdown` -/
def denyNewWorkAndReserveShutdown : Method Bool := do
  step .denyNewWork
  let reserved ← step (.acquire p)
  if reserved = true then pure true
  else do
    step (.pause .shutdownBlocked)
    pure false

def blockShutdown : Method Unit := do
  andFinally (step .maintain) (step (.pause .shutdownBlocked))
  throw .recoveryError

/-- The part of `_close_cleanly_exclusive` under the reservation. -/
def closeReserved : Method Unit := do
  except (step .maintain) fun _ => do
    andFinally (step .maintain) (step (.pause .shutdownBlocked) >>= fun _ => step .maintain)
    throw .recoveryError
  except (step .maintain) fun _ => do
    step (.pause .storageIoFailure)
    andFinally (step .maintain) (step .maintain)
    throw .recoveryError
  step .setClosed

/-- The part of `_abandon_exclusive` under the reservation. -/
def abandonReserved : Method Unit := do
  step (.pause .shutdownBlocked)
  step .maintain
  except (step .maintain) fun _ => do
    step .maintain
    throw .recoveryError
  step .setClosed

/-- `close_cleanly` and `abandon`, which differ in what they do under the reservation. -/
def shutdown (reserved : Method Unit) : Method Unit := do
  let exclusive ← step .acquireLifecycle
  if exclusive = true then
    andFinally
      (do
        let closed ← step .isClosed
        if closed = true then pure ()
        else do
          let reservation ← denyNewWorkAndReserveShutdown p
          if reservation = true then andFinally reserved (step (.release p)) else blockShutdown)
      (step .releaseLifecycle)
  else do
    step (.pause .shutdownBlocked)
    throw .recoveryError

def closeCleanly : Method Unit := shutdown p closeReserved

def abandon : Method Unit := shutdown p abandonReserved

end Shutdown

/-! ### Threads -/

inductive UnitOfWorkCall where
  | enter
  | statement
  | commit
  | rollback
  | exit
deriving DecidableEq

inductive ReaderCall where
  | enter
  | execute (s : Statement)
  | exit
deriving DecidableEq

def UnitOfWorkCall.run (p : Nat) : UnitOfWorkCall → CallName × Method Unit
  | .enter => (.enter, SqlAlchemyUnitOfWork.enter p)
  | .statement => (.statement, SqlAlchemyUnitOfWork.statement p)
  | .commit => (.commit, SqlAlchemyUnitOfWork.commit p)
  | .rollback => (.rollback, SqlAlchemyUnitOfWork.rollback p)
  | .exit => (.exit, SqlAlchemyUnitOfWork.exit p)

def ReaderCall.run (p : Nat) : ReaderCall → CallName × Method Unit
  | .enter => (.enter, SqlAlchemyReconciliationReader.enter p)
  | .execute s => (.statement, SqlAlchemyReconciliationReader.execute p s)
  | .exit => (.exit, SqlAlchemyReconciliationReader.exit p)

/-- The calls on one object, one after the other, whatever they return or raise. -/
def calls (p : Nat) : List (CallName × Method Unit) → WorkObject → Program Op Reply Unit
  | [], _ => pure ()
  | (call, body) :: rest, self => do
    let (r, self') ← body.run self
    let _ ← Program.lift (.ended p call r.isOk self'.terminal)
    calls p rest self'

/-- An object with the calls on it, or a call that shuts the runtime down. -/
inductive Client where
  | unitOfWork (script : List UnitOfWorkCall)
  | reader (script : List ReaderCall)
  | closeCleanly
  | abandon

/-- The object is there where `unit_of_work` or `reconciliation_reader` has not raised. -/
def Client.program (c : Client) (p : Nat) : Program Op Reply Unit :=
  match c with
  | .unitOfWork script => do
    match ← Program.lift .assertAccepting with
    | .ok _ => calls p (script.map (UnitOfWorkCall.run p)) {}
    | .error _ => pure ()
  | .reader script => do
    match ← Program.lift .assertReconciliation with
    | .ok _ => calls p (script.map (ReaderCall.run p)) {}
    | .error _ => pure ()
  | .closeCleanly => (Work.closeCleanly p).run {} >>= fun _ => pure ()
  | .abandon => (Work.abandon p).run {} >>= fun _ => pure ()

abbrev System := Pool Op Reply Unit World

abbrev System.step (s : System) (t : Turn Client Fate) : Unit × System :=
  Pool.step exec Client.program s t

end MyCogni.Persistence.Work
