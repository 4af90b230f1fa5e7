import MyCogni.Base.Outcome

/-! The writer lease: which connections are admitted while the process owns the database, while it
is shut down and while ownership is given up. The methods are atomic under the lease's lock, but
for `release`, which unlocks the file between two locked sections. -/

namespace MyCogni.Persistence

/-- A thread, by its identifier. -/
abbrev Thread := Nat

inductive LeaseLifecycle where
  | active
  | sealed
  | releasing
  | inactive
deriving DecidableEq

inductive OwnershipError where
  | inactive
  | sealed
  | underflow
  | alreadySealed
  | cannotSeal
  | maintenanceUnavailable
  | alreadyReleasing
  | cannotRelease
deriving DecidableEq

def OwnershipError.message : OwnershipError → String
  | inactive => "SQLite writer lease is inactive or belongs to another process"
  | sealed => "SQLite writer lease is sealed for shutdown"
  | underflow => "SQLite connection checkout accounting underflow"
  | alreadySealed => "SQLite writer lease is already sealed for shutdown"
  | cannotSeal => "SQLite shutdown cannot seal with checked-out connections"
  | maintenanceUnavailable => "SQLite shutdown maintenance is unavailable"
  | alreadyReleasing => "SQLite writer lease release is already in progress"
  | cannotRelease => "SQLite writer lease cannot release with checked-out connections"

/-- The lease, in the process that owns it and for the database it is bound to. -/
structure Lease where
  lifecycle : LeaseLifecycle := .active
  checkedOut : Int := 0
  maintenanceThreadId : Option Thread := none
  maintenancePermit : Bool := false
  maintenanceCheckoutActive : Bool := false
deriving DecidableEq

namespace Lease
variable (l : Lease)

def assertOwnedUnlocked : Except OwnershipError Unit :=
  ensure (l.lifecycle = .active ∨ l.lifecycle = .sealed) .inactive

def registerCheckout (thread : Thread) : Except OwnershipError Lease := do
  l.assertOwnedUnlocked
  if l.lifecycle = .active then
    return { l with checkedOut := l.checkedOut + 1 }
  ensure (l.maintenancePermit = true ∧ l.maintenanceThreadId = some thread) .sealed
  return { l with
    maintenancePermit := false
    maintenanceCheckoutActive := true
    checkedOut := l.checkedOut + 1 }

def registerCheckin : Except OwnershipError Lease := do
  ensure (0 < l.checkedOut) .underflow
  return { l with
    checkedOut := l.checkedOut - 1
    maintenanceCheckoutActive :=
      if l.lifecycle = .sealed ∧ l.checkedOut - 1 = 0 then false
      else l.maintenanceCheckoutActive }

def sealForShutdown : Except OwnershipError Lease := do
  l.assertOwnedUnlocked
  ensure (l.lifecycle = .active) .alreadySealed
  ensure (l.checkedOut = 0) .cannotSeal
  return { l with lifecycle := .sealed }

def endMaintenance : Lease :=
  { l with
    maintenanceThreadId := none
    maintenancePermit := false
    maintenanceCheckoutActive := false }

/-- The start of `shutdown_maintenance`. -/
def enterMaintenance (thread : Thread) : Except OwnershipError Lease := do
  l.assertOwnedUnlocked
  ensure (l.lifecycle = .sealed ∧ l.maintenanceThreadId = none ∧ l.checkedOut = 0)
    .maintenanceUnavailable
  return { l with maintenanceThreadId := some thread, maintenancePermit := true }

/-- The end of `shutdown_maintenance`. -/
def exitMaintenance (thread : Thread) : Lease :=
  if l.maintenanceThreadId = some thread then l.endMaintenance else l

/-- The lease where the call returns true, none where it returns false. -/
def unsealAfterFailedShutdown : Option Lease :=
  if l.lifecycle = .sealed ∧ l.checkedOut = 0 then
    some { l.endMaintenance with lifecycle := .active }
  else none

/-- The first locked section of `release`, on a lease that is not inactive. -/
def beginRelease : Except OwnershipError Lease := do
  ensure (l.lifecycle ≠ .releasing) .alreadyReleasing
  ensure (l.checkedOut = 0) .cannotRelease
  return { l.endMaintenance with lifecycle := .releasing }

/-! What each method does where it is not refused. -/

variable {l} {l' : Lease} {thread : Thread}

theorem registerCheckout_eq_ok (h : l.registerCheckout thread = .ok l') :
    l.lifecycle = .active ∧ l' = { l with checkedOut := l.checkedOut + 1 } ∨
      l.lifecycle = .sealed ∧ l.maintenancePermit = true ∧ l.maintenanceThreadId = some thread ∧
        l' = { l with
          maintenancePermit := false
          maintenanceCheckoutActive := true
          checkedOut := l.checkedOut + 1 } := by
  obtain ⟨⟨⟩, howned, h⟩ := bind_eq_ok_iff.mp h
  by_cases hactive : l.lifecycle = .active
  · rw [if_pos hactive] at h
    exact Or.inl ⟨hactive, (Except.ok.inj h).symm⟩
  · rw [if_neg hactive] at h
    obtain ⟨⟨⟩, hpermit, h⟩ := bind_eq_ok_iff.mp h
    rw [ensure_eq_ok] at hpermit
    exact Or.inr ⟨(ensure_eq_ok.mp howned).resolve_left hactive, hpermit.1, hpermit.2,
      (Except.ok.inj h).symm⟩

theorem registerCheckin_eq_ok (h : l.registerCheckin = .ok l') :
    0 < l.checkedOut ∧ l' = { l with
      checkedOut := l.checkedOut - 1
      maintenanceCheckoutActive :=
        if l.lifecycle = .sealed ∧ l.checkedOut - 1 = 0 then false
        else l.maintenanceCheckoutActive } := by
  obtain ⟨⟨⟩, hpos, h⟩ := bind_eq_ok_iff.mp h
  exact ⟨ensure_eq_ok.mp hpos, (Except.ok.inj h).symm⟩

theorem sealForShutdown_eq_ok (h : l.sealForShutdown = .ok l') :
    l.lifecycle = .active ∧ l.checkedOut = 0 ∧ l' = { l with lifecycle := .sealed } := by
  obtain ⟨⟨⟩, -, h⟩ := bind_eq_ok_iff.mp h
  obtain ⟨⟨⟩, hactive, h⟩ := bind_eq_ok_iff.mp h
  obtain ⟨⟨⟩, hout, h⟩ := bind_eq_ok_iff.mp h
  exact ⟨ensure_eq_ok.mp hactive, ensure_eq_ok.mp hout, (Except.ok.inj h).symm⟩

theorem enterMaintenance_eq_ok (h : l.enterMaintenance thread = .ok l') :
    l.lifecycle = .sealed ∧ l' =
      { l with maintenanceThreadId := some thread, maintenancePermit := true } := by
  obtain ⟨⟨⟩, -, h⟩ := bind_eq_ok_iff.mp h
  obtain ⟨⟨⟩, hsealed, h⟩ := bind_eq_ok_iff.mp h
  exact ⟨(ensure_eq_ok.mp hsealed).1, (Except.ok.inj h).symm⟩

theorem unseal_eq_some (h : l.unsealAfterFailedShutdown = some l') :
    l.lifecycle = .sealed ∧ l' = { l.endMaintenance with lifecycle := .active } := by
  unfold unsealAfterFailedShutdown at h
  rw [Option.ite_none_right_eq_some] at h
  exact ⟨h.1.1, (Option.some.inj h.2).symm⟩

theorem beginRelease_eq_ok (h : l.beginRelease = .ok l') :
    l.lifecycle ≠ .releasing ∧ l.checkedOut = 0 ∧
      l' = { l.endMaintenance with lifecycle := .releasing } := by
  obtain ⟨⟨⟩, hfree, h⟩ := bind_eq_ok_iff.mp h
  obtain ⟨⟨⟩, hout, h⟩ := bind_eq_ok_iff.mp h
  exact ⟨ensure_eq_ok.mp hfree, ensure_eq_ok.mp hout, (Except.ok.inj h).symm⟩

end Lease

/-! ### Threads -/

/-- How far a call of `release` is, past its first locked section. -/
inductive ReleaseStage where
  | unlocking (previous : LeaseLifecycle)
  | failed (previous : LeaseLifecycle)
  | unlocked
deriving DecidableEq

/-- The lease, the calls in progress, and whether the process holds the lock on the file. -/
structure World where
  lease : Lease := {}
  /-- The threads of the open maintenance sections. -/
  sections : List Thread := []
  releases : List (Thread × ReleaseStage) := []
  processLock : Bool := true

inductive Event where
  | checkout (thread : Thread)
  | checkin
  | sealShutdown
  | enter (thread : Thread)
  | exit (thread : Thread)
  | unsealShutdown
  | release (thread : Thread)
  /-- `flock(LOCK_UN)`, in the call of `release` of the thread. -/
  | unlock (thread : Thread) (ok : Bool)
  /-- The last locked section of that call. -/
  | settle (thread : Thread)
deriving DecidableEq

inductive Reply where
  | done
  /-- The call returned without an effect. -/
  | declined
  | refused (e : OwnershipError)
  /-- The thread is not at this point of a call. -/
  | disabled
deriving DecidableEq

/-- The outcome of a locked section that changes only the lease. -/
def World.lock (w : World) : Except OwnershipError Lease → Reply × World
  | .ok lease => (.done, { w with lease })
  | .error e => (.refused e, w)

def World.step (w : World) : Event → Reply × World
  | .checkout thread => w.lock (w.lease.registerCheckout thread)
  | .checkin => w.lock w.lease.registerCheckin
  | .sealShutdown => w.lock w.lease.sealForShutdown
  | .enter thread =>
    match w.lease.enterMaintenance thread with
    | .ok lease => (.done, { w with lease, sections := thread :: w.sections })
    | .error e => (.refused e, w)
  | .exit thread =>
    if thread ∈ w.sections then
      (.done, { w with
        lease := w.lease.exitMaintenance thread
        sections := w.sections.erase thread })
    else (.disabled, w)
  | .unsealShutdown =>
    match w.lease.unsealAfterFailedShutdown with
    | some lease => (.done, { w with lease })
    | none => (.declined, w)
  | .release thread =>
    if thread ∈ w.releases.map Prod.fst then (.disabled, w)
    else if w.lease.lifecycle = .inactive then (.declined, w)
    else match w.lease.beginRelease with
      | .ok lease =>
        (.done, { w with
          lease
          releases := (thread, .unlocking w.lease.lifecycle) :: w.releases })
      | .error e => (.refused e, w)
  | .unlock thread ok =>
    match w.releases.lookup thread with
    | some (.unlocking previous) =>
      if ok then
        (.done, { w with
          processLock := false
          releases := (thread, .unlocked) :: w.releases.filter (·.1 ≠ thread) })
      else
        (.done, { w with
          releases := (thread, .failed previous) :: w.releases.filter (·.1 ≠ thread) })
    | _ => (.disabled, w)
  | .settle thread =>
    match w.releases.lookup thread with
    | some (.failed previous) =>
      (.done, { w with
        lease := if w.lease.lifecycle = .releasing then { w.lease with lifecycle := previous }
          else w.lease
        releases := w.releases.filter (·.1 ≠ thread) })
    | some .unlocked =>
      (.done, { w with
        lease := { w.lease with lifecycle := .inactive }
        releases := w.releases.filter (·.1 ≠ thread) })
    | _ => (.disabled, w)

/-! ### What a step can do -/

/-- A step that has an effect. -/
inductive World.Steps (w : World) : Event → World → Prop
  | checkout (thread : Thread) (h : w.lease.lifecycle = .active) :
      w.Steps (.checkout thread)
        { w with lease := { w.lease with checkedOut := w.lease.checkedOut + 1 } }
  | maintain (thread : Thread) (h : w.lease.lifecycle = .sealed)
      (permit : w.lease.maintenancePermit = true)
      (inside : w.lease.maintenanceThreadId = some thread) :
      w.Steps (.checkout thread)
        { w with lease := { w.lease with
          maintenancePermit := false
          maintenanceCheckoutActive := true
          checkedOut := w.lease.checkedOut + 1 } }
  | checkin (active : Bool) (h : 0 < w.lease.checkedOut) :
      w.Steps .checkin
        { w with lease := { w.lease with
          checkedOut := w.lease.checkedOut - 1
          maintenanceCheckoutActive := active } }
  | sealed (h : w.lease.lifecycle = .active) (out : w.lease.checkedOut = 0) :
      w.Steps .sealShutdown { w with lease := { w.lease with lifecycle := .sealed } }
  | enter (thread : Thread) (h : w.lease.lifecycle = .sealed) :
      w.Steps (.enter thread)
        { w with
          lease := { w.lease with maintenanceThreadId := some thread, maintenancePermit := true }
          sections := thread :: w.sections }
  | exit (thread : Thread) (h : thread ∈ w.sections) :
      w.Steps (.exit thread)
        { w with
          lease := w.lease.exitMaintenance thread
          sections := w.sections.erase thread }
  | unsealed (h : w.lease.lifecycle = .sealed) :
      w.Steps .unsealShutdown { w with lease := { w.lease.endMaintenance with lifecycle := .active } }
  | release (thread : Thread) (known : w.lease.lifecycle ≠ .inactive)
      (free : w.lease.lifecycle ≠ .releasing) (out : w.lease.checkedOut = 0) :
      w.Steps (.release thread)
        { w with
          lease := { w.lease.endMaintenance with lifecycle := .releasing }
          releases := (thread, .unlocking w.lease.lifecycle) :: w.releases }
  | unlocked (thread : Thread) (previous : LeaseLifecycle)
      (h : w.releases.lookup thread = some (.unlocking previous)) :
      w.Steps (.unlock thread true)
        { w with
          processLock := false
          releases := (thread, .unlocked) :: w.releases.filter (·.1 ≠ thread) }
  | unlockFailed (thread : Thread) (previous : LeaseLifecycle)
      (h : w.releases.lookup thread = some (.unlocking previous)) :
      w.Steps (.unlock thread false)
        { w with releases := (thread, .failed previous) :: w.releases.filter (·.1 ≠ thread) }
  | restored (thread : Thread) (previous : LeaseLifecycle)
      (h : w.releases.lookup thread = some (.failed previous)) :
      w.Steps (.settle thread)
        { w with
          lease := if w.lease.lifecycle = .releasing then { w.lease with lifecycle := previous }
            else w.lease
          releases := w.releases.filter (·.1 ≠ thread) }
  | released (thread : Thread) (h : w.releases.lookup thread = some .unlocked) :
      w.Steps (.settle thread)
        { w with
          lease := { w.lease with lifecycle := .inactive }
          releases := w.releases.filter (·.1 ≠ thread) }

/-- A step has one of these effects, or it has none. -/
theorem World.step_cases (w : World) (e : Event) :
    (w.step e).1 = .done ∧ w.Steps e (w.step e).2 ∨ (w.step e).1 ≠ .done ∧ (w.step e).2 = w := by
  cases e with
  | checkout thread =>
    rw [step]
    rcases h : w.lease.registerCheckout thread with e | lease
    · exact Or.inr ⟨nofun, rfl⟩
    · rcases Lease.registerCheckout_eq_ok h with ⟨hactive, rfl⟩ | ⟨hsealed, hpermit, hid, rfl⟩
      · exact Or.inl ⟨rfl, .checkout thread hactive⟩
      · exact Or.inl ⟨rfl, .maintain thread hsealed hpermit hid⟩
  | checkin =>
    rw [step]
    rcases h : w.lease.registerCheckin with e | lease
    · exact Or.inr ⟨nofun, rfl⟩
    · obtain ⟨hpos, rfl⟩ := Lease.registerCheckin_eq_ok h
      exact Or.inl ⟨rfl, .checkin _ hpos⟩
  | sealShutdown =>
    rw [step]
    rcases h : w.lease.sealForShutdown with e | lease
    · exact Or.inr ⟨nofun, rfl⟩
    · obtain ⟨hactive, hout, rfl⟩ := Lease.sealForShutdown_eq_ok h
      exact Or.inl ⟨rfl, .sealed hactive hout⟩
  | enter thread =>
    rw [step]
    rcases h : w.lease.enterMaintenance thread with e | lease
    · exact Or.inr ⟨nofun, rfl⟩
    · obtain ⟨hsealed, rfl⟩ := Lease.enterMaintenance_eq_ok h
      exact Or.inl ⟨rfl, .enter thread hsealed⟩
  | exit thread =>
    rw [step]
    by_cases h : thread ∈ w.sections
    · rw [if_pos h]
      exact Or.inl ⟨rfl, .exit thread h⟩
    · rw [if_neg h]
      exact Or.inr ⟨nofun, rfl⟩
  | unsealShutdown =>
    rw [step]
    rcases h : w.lease.unsealAfterFailedShutdown with _ | lease
    · exact Or.inr ⟨nofun, rfl⟩
    · obtain ⟨hsealed, rfl⟩ := Lease.unseal_eq_some h
      exact Or.inl ⟨rfl, .unsealed hsealed⟩
  | release thread =>
    rw [step]
    by_cases hbusy : thread ∈ w.releases.map Prod.fst
    · rw [if_pos hbusy]
      exact Or.inr ⟨nofun, rfl⟩
    rw [if_neg hbusy]
    by_cases hgone : w.lease.lifecycle = .inactive
    · rw [if_pos hgone]
      exact Or.inr ⟨nofun, rfl⟩
    rw [if_neg hgone]
    rcases h : w.lease.beginRelease with e | lease
    · exact Or.inr ⟨nofun, rfl⟩
    · obtain ⟨hfree, hout, rfl⟩ := Lease.beginRelease_eq_ok h
      exact Or.inl ⟨rfl, .release thread hgone hfree hout⟩
  | unlock thread ok =>
    rw [step]
    rcases h : w.releases.lookup thread with _ | (previous | previous | _)
    · exact Or.inr ⟨nofun, rfl⟩
    · cases ok with
      | true => exact Or.inl ⟨rfl, .unlocked thread previous h⟩
      | false => exact Or.inl ⟨rfl, .unlockFailed thread previous h⟩
    · exact Or.inr ⟨nofun, rfl⟩
    · exact Or.inr ⟨nofun, rfl⟩
  | settle thread =>
    rw [step]
    rcases h : w.releases.lookup thread with _ | (previous | previous | _)
    · exact Or.inr ⟨nofun, rfl⟩
    · exact Or.inr ⟨nofun, rfl⟩
    · exact Or.inl ⟨rfl, .restored thread previous h⟩
    · exact Or.inl ⟨rfl, .released thread h⟩

/-! ### Invariants -/

/-- Who owns the database: the lease, one call of `release`, or nobody. -/
inductive World.Phase (w : World) : Prop
  | owned (releases : w.releases = [])
      (owned : w.lease.lifecycle = .active ∨ w.lease.lifecycle = .sealed)
      (lock : w.processLock = true)
  | releasing (thread : Thread) (previous : LeaseLifecycle) (stage : ReleaseStage)
      (releases : w.releases = [(thread, stage)])
      (at_stage : stage = .unlocking previous ∨ stage = .failed previous)
      (owned : previous = .active ∨ previous = .sealed) (h : w.lease.lifecycle = .releasing)
      (lock : w.processLock = true) (out : w.lease.checkedOut = 0)
  | unlocked (thread : Thread) (releases : w.releases = [(thread, .unlocked)])
      (h : w.lease.lifecycle = .releasing) (lock : w.processLock = false)
      (out : w.lease.checkedOut = 0)
  | released (releases : w.releases = []) (h : w.lease.lifecycle = .inactive)
      (lock : w.processLock = false) (out : w.lease.checkedOut = 0)

structure World.Inv (w : World) : Prop where
  phase : w.Phase
  count : 0 ≤ w.lease.checkedOut
  /-- The thread that maintenance is reserved for is inside a section. -/
  inside : ∀ thread, w.lease.maintenanceThreadId = some thread → thread ∈ w.sections

section Invariant
variable {w w' : World} {e : Event}

theorem World.Phase.of_owned (h : w.Phase)
    (hl : w.lease.lifecycle = .active ∨ w.lease.lifecycle = .sealed) :
    w.releases = [] ∧ w.processLock = true := by
  cases h with
  | owned releases _ lock => exact ⟨releases, lock⟩
  | releasing _ _ _ _ _ _ h | unlocked _ _ h | released _ h =>
    rw [h] at hl
    exact hl.elim nofun nofun

/-- A connection that is out keeps the lease owned. -/
theorem World.Phase.owned_of_out (h : w.Phase) (hout : w.lease.checkedOut ≠ 0) :
    w.lease.lifecycle = .active ∨ w.lease.lifecycle = .sealed := by
  cases h with
  | owned _ owned _ => exact owned
  | releasing _ _ _ _ _ _ _ _ out | unlocked _ _ _ _ out | released _ _ _ out =>
    exact absurd out hout

theorem lookup_singleton {thread thread' : Thread} {stage stage' : ReleaseStage}
    (h : [(thread, stage)].lookup thread' = some stage') : thread' = thread ∧ stage = stage' := by
  by_cases heq : thread' = thread
  · subst heq
    rw [List.lookup_cons_self, Option.some.injEq] at h
    exact ⟨rfl, h⟩
  · rw [List.lookup_cons, beq_false_of_ne heq] at h
    exact nomatch h

/-- The call of `release` that a thread is in is the only one. -/
theorem World.Phase.of_lookup (h : w.Phase) {thread : Thread} {stage : ReleaseStage}
    (hl : w.releases.lookup thread = some stage) :
    w.releases = [(thread, stage)] ∧ w.lease.lifecycle = .releasing ∧ w.lease.checkedOut = 0 ∧
      ((∃ previous, (stage = .unlocking previous ∨ stage = .failed previous) ∧
          (previous = .active ∨ previous = .sealed) ∧ w.processLock = true) ∨
        stage = .unlocked ∧ w.processLock = false) := by
  cases h with
  | owned releases | released releases =>
    rw [releases] at hl
    exact nomatch hl
  | releasing t previous st releases at_stage owned h lock out =>
    rw [releases] at hl
    obtain ⟨rfl, rfl⟩ := lookup_singleton hl
    exact ⟨releases, h, out, Or.inl ⟨previous, at_stage, owned, lock⟩⟩
  | unlocked t releases h lock out =>
    rw [releases] at hl
    obtain ⟨rfl, rfl⟩ := lookup_singleton hl
    exact ⟨releases, h, out, Or.inr ⟨rfl, lock⟩⟩

theorem filter_singleton (thread : Thread) (stage : ReleaseStage) :
    [(thread, stage)].filter (fun r => r.1 ≠ thread) = [] := by simp

theorem Lease.exitMaintenance_lifecycle (l : Lease) (thread : Thread) :
    (l.exitMaintenance thread).lifecycle = l.lifecycle ∧
      (l.exitMaintenance thread).checkedOut = l.checkedOut := by
  unfold exitMaintenance
  split <;> exact ⟨rfl, rfl⟩

theorem World.Steps.phase (hstep : w.Steps e w') (h : w.Phase) : w'.Phase := by
  cases hstep with
  | checkout thread hactive =>
    obtain ⟨releases, lock⟩ := h.of_owned (Or.inl hactive)
    exact .owned releases (Or.inl hactive) lock
  | maintain thread hsealed =>
    obtain ⟨releases, lock⟩ := h.of_owned (Or.inr hsealed)
    exact .owned releases (Or.inr hsealed) lock
  | checkin active hpos =>
    have howned := h.owned_of_out (Int.ne_of_gt hpos)
    obtain ⟨releases, lock⟩ := h.of_owned howned
    exact .owned releases howned lock
  | sealed hactive =>
    obtain ⟨releases, lock⟩ := h.of_owned (Or.inl hactive)
    exact .owned releases (Or.inr rfl) lock
  | enter thread hsealed =>
    obtain ⟨releases, lock⟩ := h.of_owned (Or.inr hsealed)
    exact .owned releases (Or.inr hsealed) lock
  | exit thread _ =>
    obtain ⟨hlifecycle, hout⟩ := w.lease.exitMaintenance_lifecycle thread
    cases h with
    | owned releases owned lock => exact .owned releases (by rwa [hlifecycle]) lock
    | releasing t previous st releases at_stage owned h lock out =>
      exact .releasing t previous st releases at_stage owned (hlifecycle.trans h) lock
        (hout.trans out)
    | unlocked t releases h lock out =>
      exact .unlocked t releases (hlifecycle.trans h) lock (hout.trans out)
    | released releases h lock out =>
      exact .released releases (hlifecycle.trans h) lock (hout.trans out)
  | unsealed hsealed =>
    obtain ⟨releases, lock⟩ := h.of_owned (Or.inr hsealed)
    exact .owned releases (Or.inl rfl) lock
  | release thread known free out =>
    have howned : w.lease.lifecycle = .active ∨ w.lease.lifecycle = .sealed := by
      cases hl : w.lease.lifecycle with
      | active => exact Or.inl rfl
      | «sealed» => exact Or.inr rfl
      | releasing => exact absurd hl free
      | inactive => exact absurd hl known
    obtain ⟨releases, lock⟩ := h.of_owned howned
    exact .releasing thread w.lease.lifecycle _ (congrArg _ releases) (Or.inl rfl) howned rfl lock
      out
  | unlocked thread previous hlookup =>
    obtain ⟨releases, hl, out, -⟩ := h.of_lookup hlookup
    refine .unlocked thread ?_ hl rfl out
    rw [releases]
    exact congrArg _ (filter_singleton ..)
  | unlockFailed thread previous hlookup =>
    obtain ⟨releases, hl, out, ⟨p, hp, howned, lock⟩ | ⟨hno, -⟩⟩ := h.of_lookup hlookup
    · obtain rfl : previous = p := hp.elim ReleaseStage.unlocking.inj nofun
      refine .releasing thread previous _ ?_ (Or.inr rfl) howned hl lock out
      rw [releases]
      exact congrArg _ (filter_singleton ..)
    · exact nomatch hno
  | restored thread previous hlookup =>
    obtain ⟨releases, hl, out, ⟨p, hp, howned, lock⟩ | ⟨hno, -⟩⟩ := h.of_lookup hlookup
    · obtain rfl : previous = p := hp.elim nofun ReleaseStage.failed.inj
      refine .owned ?_ ?_ lock
      · rw [releases]
        exact filter_singleton ..
      · rw [if_pos hl]
        exact howned
    · exact nomatch hno
  | released thread hlookup =>
    obtain ⟨releases, hl, out, ⟨p, hp, -⟩ | ⟨-, lock⟩⟩ := h.of_lookup hlookup
    · exact hp.elim nofun nofun
    · refine .released ?_ rfl lock out
      rw [releases]
      exact filter_singleton ..

theorem World.Steps.inside (hstep : w.Steps e w')
    (h : ∀ thread, w.lease.maintenanceThreadId = some thread → thread ∈ w.sections) :
    ∀ thread, w'.lease.maintenanceThreadId = some thread → thread ∈ w'.sections := by
  cases hstep with
  | enter thread =>
    intro t ht
    obtain rfl := Option.some.inj ht
    exact List.mem_cons_self
  | exit thread _ =>
    intro t ht
    dsimp only [Lease.exitMaintenance] at ht
    by_cases heq : w.lease.maintenanceThreadId = some thread
    · rw [if_pos heq] at ht
      exact nomatch ht
    · rw [if_neg heq] at ht
      have hne : t ≠ thread := by
        rintro rfl
        exact heq ht
      exact (List.mem_erase_of_ne hne).mpr (h t ht)
  | restored =>
    intro t ht
    refine h t ?_
    dsimp only at ht
    split at ht <;> exact ht
  | unsealed | release => exact nofun
  | _ => exact h

theorem World.Steps.count (hstep : w.Steps e w') (h : 0 ≤ w.lease.checkedOut) :
    0 ≤ w'.lease.checkedOut := by
  cases hstep with
  | checkout | maintain => exact Int.le_add_one h
  | checkin active hpos => exact Int.le_sub_one_of_lt hpos
  | exit thread _ => rwa [(w.lease.exitMaintenance_lifecycle thread).2]
  | restored =>
    dsimp only
    split <;> exact h
  | _ => exact h

theorem World.Inv.step (h : w.Inv) (e : Event) : (w.step e).2.Inv := by
  rcases w.step_cases e with ⟨-, hstep⟩ | ⟨-, heq⟩
  · exact ⟨hstep.phase h.phase, hstep.count h.count, hstep.inside h.inside⟩
  · rw [heq]
    exact h

theorem run_inv (es : List Event) : (run World.step {} es).Inv :=
  run_invariant (fun _ e h => h.step e) es ⟨.owned rfl (Or.inl rfl) rfl, Int.le_refl 0, nofun⟩

end Invariant

/-! ### Windows of a run -/

section Window
variable {w w' : World} {e : Event}

/-- Sealed, or being released from a sealed state, or released. -/
def World.Closed (w : World) : Prop :=
  w.lease.lifecycle ≠ .active ∧
    ∀ r ∈ w.releases, r.2 ≠ .unlocking .active ∧ r.2 ≠ .failed .active

/-- Being released by a call that has not failed, or released. -/
def World.Leaving (w : World) : Prop :=
  w.lease.lifecycle = .inactive ∨
    w.lease.lifecycle = .releasing ∧ ∀ r ∈ w.releases, ∀ previous, r.2 ≠ .failed previous

theorem mem_of_lookup {l : List (Thread × ReleaseStage)} {thread : Thread} {stage : ReleaseStage}
    (h : l.lookup thread = some stage) : (thread, stage) ∈ l := by
  induction l with
  | nil => exact nomatch h
  | cons r l ih =>
    rw [List.lookup_cons] at h
    by_cases heq : thread = r.1
    · subst heq
      rw [beq_self_eq_true, Option.some.injEq] at h
      exact h ▸ List.mem_cons_self
    · rw [beq_false_of_ne heq] at h
      exact List.mem_cons_of_mem _ (ih h)

/-- Only an unseal opens what is closed. -/
theorem World.Steps.closed (hstep : w.Steps e w') (h : w.Closed) :
    w'.Closed ∨ e = .unsealShutdown := by
  cases hstep with
  | unsealed => exact Or.inr rfl
  | sealed => exact Or.inl ⟨nofun, h.2⟩
  | exit thread _ =>
    refine Or.inl ⟨?_, h.2⟩
    rw [(w.lease.exitMaintenance_lifecycle thread).1]
    exact h.1
  | release thread =>
    refine Or.inl ⟨nofun, List.forall_mem_cons.mpr ⟨⟨fun heq => ?_, nofun⟩, h.2⟩⟩
    exact h.1 (ReleaseStage.unlocking.inj heq)
  | unlocked thread previous hlookup =>
    refine Or.inl ⟨h.1, List.forall_mem_cons.mpr ⟨⟨nofun, nofun⟩, fun r hr => ?_⟩⟩
    exact h.2 r (List.mem_of_mem_filter hr)
  | unlockFailed thread previous hlookup =>
    refine Or.inl ⟨h.1, List.forall_mem_cons.mpr ⟨⟨nofun, fun heq => ?_⟩, fun r hr => ?_⟩⟩
    · obtain rfl := ReleaseStage.failed.inj heq
      exact (h.2 _ (mem_of_lookup hlookup)).1 rfl
    · exact h.2 r (List.mem_of_mem_filter hr)
  | restored thread previous hlookup =>
    refine Or.inl ⟨?_, fun r hr => h.2 r (List.mem_of_mem_filter hr)⟩
    dsimp only
    split
    · rintro rfl
      exact (h.2 _ (mem_of_lookup hlookup)).2 rfl
    · exact h.1
  | released thread => exact Or.inl ⟨nofun, fun r hr => h.2 r (List.mem_of_mem_filter hr)⟩
  | _ => exact Or.inl h

/-- Only an entry into maintenance gives a permit. -/
theorem World.Steps.permit (hstep : w.Steps e w') (h : w.lease.maintenancePermit = false) :
    w'.lease.maintenancePermit = false ∨ ∃ thread, e = .enter thread := by
  cases hstep with
  | enter thread => exact Or.inr ⟨thread, rfl⟩
  | exit thread _ =>
    left
    dsimp only [Lease.exitMaintenance]
    split
    · rfl
    · exact h
  | restored =>
    left
    dsimp only
    split <;> exact h
  | maintain | unsealed | release => exact Or.inl rfl
  | _ => exact Or.inl h

/-- Only an unlock that fails stops a release. -/
theorem World.Steps.leaving (hstep : w.Steps e w') (h : w.Leaving) (hw : w.Phase) :
    w'.Leaving ∨ ∃ thread, e = .unlock thread false := by
  have hnot : ¬(w.lease.lifecycle = .active ∨ w.lease.lifecycle = .sealed) := by
    rcases h with h | ⟨h, -⟩ <;> rw [h] <;> exact fun h => h.elim nofun nofun
  cases hstep with
  | checkout _ h | sealed h => exact absurd (Or.inl h) hnot
  | maintain _ h | enter _ h | unsealed h => exact absurd (Or.inr h) hnot
  | checkin _ hpos => exact absurd (hw.owned_of_out (Int.ne_of_gt hpos)) hnot
  | release _ known free =>
    rcases h with h | ⟨h, -⟩
    · exact absurd h known
    · exact absurd h free
  | exit thread _ =>
    left
    unfold Leaving
    rwa [(w.lease.exitMaintenance_lifecycle thread).1]
  | unlocked thread previous hlookup =>
    rcases h with h | ⟨h, hstages⟩
    · exact Or.inl (Or.inl h)
    · refine Or.inl (Or.inr ⟨h, List.forall_mem_cons.mpr ⟨nofun, fun r hr => ?_⟩⟩)
      exact hstages r (List.mem_of_mem_filter hr)
  | unlockFailed thread => exact Or.inr ⟨thread, rfl⟩
  | restored thread previous hlookup =>
    obtain ⟨-, hreleasing, -⟩ := hw.of_lookup hlookup
    rcases h with h | ⟨-, hstages⟩
    · exact nomatch h.symm.trans hreleasing
    · exact absurd rfl (hstages _ (mem_of_lookup hlookup) previous)
  | released => exact Or.inl (Or.inl rfl)

/-! A step that has an effect, of one kind. -/

def World.Checks (w : World) (e : Event) : Prop :=
  (w.step e).1 = .done ∧ ∃ thread, e = .checkout thread

def World.Unseals (w : World) (e : Event) : Prop := (w.step e).1 = .done ∧ e = .unsealShutdown

def World.Enters (w : World) (e : Event) : Prop :=
  (w.step e).1 = .done ∧ ∃ thread, e = .enter thread

def World.UnlockFails (w : World) (e : Event) : Prop :=
  (w.step e).1 = .done ∧ ∃ thread, e = .unlock thread false

theorem World.Closed.step (h : w.Closed) (e : Event) : (w.step e).2.Closed ∨ w.Unseals e := by
  rcases w.step_cases e with ⟨hdone, hstep⟩ | ⟨-, heq⟩
  · exact (hstep.closed h).imp_right fun he => ⟨hdone, he⟩
  · rw [heq]
    exact Or.inl h

theorem World.Leaving.step (h : w.Leaving) (hw : w.Phase) (e : Event) :
    (w.step e).2.Leaving ∨ w.UnlockFails e := by
  rcases w.step_cases e with ⟨hdone, hstep⟩ | ⟨-, heq⟩
  · exact (hstep.leaving h hw).imp_right fun he => ⟨hdone, he⟩
  · rw [heq]
    exact Or.inl h

theorem World.step_permit (h : w.lease.maintenancePermit = false) (e : Event) :
    (w.step e).2.lease.maintenancePermit = false ∨ w.Enters e := by
  rcases w.step_cases e with ⟨hdone, hstep⟩ | ⟨-, heq⟩
  · exact (hstep.permit h).imp_right fun he => ⟨hdone, he⟩
  · rw [heq]
    exact Or.inl h

/-- A checkout that is admitted while the lease is closed uses up a permit of its thread. -/
theorem World.Closed.checkout (h : w.Closed) (hw : w.Inv) {thread : Thread}
    (hdone : (w.step (.checkout thread)).1 = .done) :
    w.lease.maintenancePermit = true ∧ w.lease.lifecycle = .sealed ∧ thread ∈ w.sections ∧
      (w.step (.checkout thread)).2.lease.maintenancePermit = false := by
  rcases w.step_cases (.checkout thread) with ⟨-, hstep⟩ | ⟨hno, -⟩
  · generalize (w.step (.checkout thread)).2 = w' at hstep
    cases hstep with
    | checkout _ hactive => exact absurd hactive h.1
    | maintain _ hsealed hpermit hid => exact ⟨hpermit, hsealed, hw.inside thread hid, rfl⟩
  · exact absurd hdone hno

theorem World.Leaving.not_checks (h : w.Leaving) (e : Event) : ¬w.Checks e := by
  rintro ⟨hdone, thread, rfl⟩
  rcases w.step_cases (.checkout thread) with ⟨-, hstep⟩ | ⟨hno, -⟩
  · generalize (w.step (.checkout thread)).2 = w' at hstep
    cases hstep with
    | checkout _ hl | maintain _ hl =>
      rcases h with h | ⟨h, -⟩
      · exact nomatch hl.symm.trans h
      · exact nomatch hl.symm.trans h
  · exact absurd hdone hno

end Window

/-! ### Runs -/

/-- The steps of a run of one kind that have an effect. -/
def World.tally (kind : Event → Bool) : World → List Event → Nat
  | _, [] => 0
  | w, e :: es =>
    (if (w.step e).1 = .done ∧ kind e = true then 1 else 0) + tally kind (w.step e).2 es

def Event.isCheckout : Event → Bool
  | checkout _ => true
  | _ => false

def Event.isCheckin : Event → Bool
  | checkin => true
  | _ => false

theorem World.Steps.accounts {w w' : World} {e : Event} (h : w.Steps e w') :
    w'.lease.checkedOut + (if e.isCheckin = true then 1 else 0) =
      w.lease.checkedOut + if e.isCheckout = true then 1 else 0 := by
  cases h with
  | checkout | maintain => exact Int.add_zero _
  | checkin => exact (Int.sub_add_cancel _ _).trans (Int.add_zero _).symm
  | exit thread _ =>
    rw [(w.lease.exitMaintenance_lifecycle thread).2]
    rfl
  | restored =>
    dsimp only
    split <;> rfl
  | _ => rfl

theorem tally_accounts (w : World) (es : List Event) :
    (run World.step w es).lease.checkedOut + w.tally Event.isCheckin es =
      w.lease.checkedOut + w.tally Event.isCheckout es := by
  induction es generalizing w with
  | nil => rfl
  | cons e es ih =>
    have hrest := ih (w.step e).2
    rw [run_cons, World.tally, World.tally]
    rcases w.step_cases e with ⟨hdone, hstep⟩ | ⟨hno, heq⟩
    · have hhead := hstep.accounts
      simp only [hdone, true_and]
      push_cast
      split_ifs at hhead ⊢ <;> omega
    · rw [heq] at hrest ⊢
      simp only [hno, false_and, if_false]
      omega

/-- What holds of the lease after every run of the threads. -/
structure World.Safe (w : World) : Prop where
  counted : 0 ≤ w.lease.checkedOut
  sealing : (w.step .sealShutdown).1 = .done → w.lease.checkedOut = 0
  release : ∀ thread, (w.step (.release thread)).1 = .done → w.lease.checkedOut = 0
  /-- From a seal until an unseal, a checkout is by a thread inside maintenance, -/
  sealed : (w.step .sealShutdown).1 = .done →
    ∀ es, Never World.step World.Unseals (w.step .sealShutdown).2 es → ∀ thread,
      ((run World.step (w.step .sealShutdown).2 es).step (.checkout thread)).1 = .done →
        thread ∈ (run World.step (w.step .sealShutdown).2 es).sections
  /-- and no other one follows it before maintenance is entered again. -/
  once : (w.step .sealShutdown).1 = .done →
    ∀ es thread es', Never World.step World.Unseals (w.step .sealShutdown).2
        (es ++ .checkout thread :: es') →
      ((run World.step (w.step .sealShutdown).2 es).step (.checkout thread)).1 = .done →
      Never World.step World.Enters
        ((run World.step (w.step .sealShutdown).2 es).step (.checkout thread)).2 es' →
      ∀ e, ¬(run World.step (w.step .sealShutdown).2 (es ++ .checkout thread :: es')).Checks e
  /-- Once a release has begun, and while it does not fail, no checkout is admitted. -/
  leaving : ∀ thread, (w.step (.release thread)).1 = .done →
    ∀ es, Never World.step World.UnlockFails (w.step (.release thread)).2 es →
      ∀ e, ¬(run World.step (w.step (.release thread)).2 es).Checks e
  /-- The lock of the process is given up for good, and with no connection out. -/
  unlocked : w.processLock = false → ∀ es,
    (run World.step w es).lease.checkedOut = 0 ∧ ∀ e, ¬(run World.step w es).Checks e

section Safe
variable {w : World}

theorem World.Inv.run (h : w.Inv) (es : List Event) : (run World.step w es).Inv :=
  run_invariant (fun _ e h => h.step e) es h

theorem World.Inv.closed_of_never (h : w.Inv) (hc : w.Closed) {es : List Event}
    (hnever : Never World.step World.Unseals w es) : (MyCogni.run World.step w es).Closed :=
  run_of_never (fun _ e h => h.step e) (fun _ e _ hc => hc.step e) h hc hnever

theorem World.closed_of_seal (hw : w.Inv) (h : (w.step .sealShutdown).1 = .done) :
    w.lease.checkedOut = 0 ∧ (w.step .sealShutdown).2.Closed := by
  rcases w.step_cases .sealShutdown with ⟨-, hstep⟩ | ⟨hno, -⟩
  · generalize (w.step .sealShutdown).2 = w' at hstep
    cases hstep with
    | sealed hactive out =>
      refine ⟨out, nofun, ?_⟩
      rw [(hw.phase.of_owned (Or.inl hactive)).1]
      exact nofun
  · exact absurd h hno

theorem World.leaving_of_release (hw : w.Inv) {thread : Thread}
    (h : (w.step (.release thread)).1 = .done) :
    w.lease.checkedOut = 0 ∧ (w.step (.release thread)).2.Leaving := by
  rcases w.step_cases (.release thread) with ⟨-, hstep⟩ | ⟨hno, -⟩
  · generalize (w.step (.release thread)).2 = w' at hstep
    cases hstep with
    | release _ known free out =>
      refine ⟨out, Or.inr ⟨rfl, List.forall_mem_cons.mpr ⟨nofun, fun r hr => ?_⟩⟩⟩
      -- No other call is in progress, or the lease would be releasing already.
      cases hw.phase with
      | owned releases | released releases =>
        rw [releases] at hr
        exact nomatch hr
      | releasing _ _ _ _ _ _ h | unlocked _ _ h => exact absurd h free
  · exact absurd h hno

/-- The lock of the process is not taken again. -/
theorem World.step_processLock (h : w.processLock = false) (e : Event) :
    (w.step e).2.processLock = false := by
  rcases w.step_cases e with ⟨-, hstep⟩ | ⟨-, heq⟩
  · generalize (w.step e).2 = w' at hstep
    cases hstep with
    | unlocked => rfl
    | _ => exact h
  · rw [heq]
    exact h

theorem World.Inv.unlocked (hw : w.Inv) (h : w.processLock = false) :
    w.lease.checkedOut = 0 ∧ w.Leaving := by
  cases hw.phase with
  | owned _ _ lock => exact nomatch h.symm.trans lock
  | releasing _ _ _ _ _ _ _ lock => exact nomatch h.symm.trans lock
  | unlocked thread releases hl lock out =>
    refine ⟨out, Or.inr ⟨hl, ?_⟩⟩
    rw [releases]
    exact List.forall_mem_singleton.mpr nofun
  | released releases hl lock out => exact ⟨out, Or.inl hl⟩

theorem World.Inv.safe (hw : w.Inv) : w.Safe where
  counted := hw.count
  sealing h := (closed_of_seal hw h).1
  release thread h := (leaving_of_release hw h).1
  «sealed» h es hnever thread hdone :=
    have hinv := hw.step .sealShutdown
    ((hinv.closed_of_never (closed_of_seal hw h).2 hnever).checkout (hinv.run es) hdone).2.2.1
  once h es thread es' hnever hdone henter e := by
    rintro ⟨hdone', thread', rfl⟩
    have hinv := hw.step .sealShutdown
    have hbefore : Never World.step World.Unseals (w.step .sealShutdown).2 es := by
      rintro es₁ i es₂ rfl
      exact hnever es₁ i (es₂ ++ .checkout thread :: es') (by simp)
    have hclosed := hinv.closed_of_never (closed_of_seal hw h).2 hbefore
    have hafter := hinv.closed_of_never (closed_of_seal hw h).2 hnever
    -- The first checkout has used up the permit, and only an entry gives another one.
    have hpermit := (hclosed.checkout (hinv.run es) hdone).2.2.2
    have hnone : (MyCogni.run World.step (w.step .sealShutdown).2
        (es ++ .checkout thread :: es')).lease.maintenancePermit = false := by
      rw [run_append, run_cons]
      exact run_of_never (v := fun _ => True) (p := fun w => w.lease.maintenancePermit = false)
        (fun _ _ h => h) (fun _ e _ hp => step_permit hp e) trivial hpermit henter
    rw [(hafter.checkout (hinv.run _) hdone').1] at hnone
    exact nomatch hnone
  leaving thread h es hnever :=
    have hinv := hw.step (.release thread)
    (run_of_never (p := World.Leaving) (fun _ e h => World.Inv.step h e)
      (fun _ e hi hl => hl.step hi.phase e) hinv (leaving_of_release hw h).2 hnever).not_checks
  unlocked h es := by
    have hlock : (MyCogni.run World.step w es).processLock = false :=
      @run_invariant World Event Reply World.step (fun w => w.processLock = false)
        (fun _ e h => step_processLock h e) es w h
    obtain ⟨hout, hleaving⟩ := (hw.run es).unlocked hlock
    exact ⟨hout, hleaving.not_checks⟩

end Safe

/-- In every interleaving the count is that of the checkouts less the checkins, and the lease is
safe. -/
theorem lease_safe (es : List Event) :
    (run World.step {} es).lease.checkedOut =
        (World.tally Event.isCheckout {} es : Int) - World.tally Event.isCheckin {} es ∧
      (run World.step {} es).Safe := by
  refine ⟨?_, (run_inv es).safe⟩
  have haccounts := tally_accounts {} es
  have hinitial : ({} : World).lease.checkedOut = 0 := rfl
  omega

end MyCogni.Persistence
