import MyCogni.Persistence.Admission

/-! Every call on a unit of work or on a reader keeps the discipline and ends as it should, whichever of
its steps raise. -/

namespace MyCogni.Persistence.Work

variable {α β : Type} {p : Nat} {self : WorkObject} {w : World} {h : List Deed}

/-! ### The rules -/

/-- The method keeps the discipline of its party, and it ends as it should. -/
def Does (p : Nat) (m : Method α) (self : WorkObject) (w : World)
    (post : Except Fault α → WorkObject → World → Prop) : Prop :=
  Program.Holds exec (discipline p) (m.run self) (fun r w => post r.1 r.2 w) w

theorem does_pure {a : α} {post : Except Fault α → WorkObject → World → Prop}
    (hpost : post (.ok a) self w) : Does p (pure a) self w post := hpost

theorem does_throw {e : Fault} {post : Except Fault α → WorkObject → World → Prop}
    (hpost : post (.error e) self w) : Does p (throw e) self w post := hpost

theorem does_fields {post : Except Fault WorkObject → WorkObject → World → Prop}
    (hpost : post (.ok self) self w) : Does p fields self w post := hpost

theorem does_setFields {f : WorkObject → WorkObject}
    {post : Except Fault Unit → WorkObject → World → Prop} (hpost : post (.ok ()) (f self) w) :
    Does p (setFields f) self w post := hpost

theorem Does.mono {m : Method α} {post post' : Except Fault α → WorkObject → World → Prop}
    (hm : Does p m self w post) (hpost : ∀ r self w, post r self w → post' r self w) :
    Does p m self w post' := Program.Holds.mono hm fun r w => hpost r.1 r.2 w

theorem does_bind {m : Method α} {f : α → Method β} {post : Except Fault β → WorkObject → World → Prop}
    (hm : Does p m self w fun r self w => (∀ a, r = .ok a → Does p (f a) self w post) ∧
      ∀ e, r = .error e → post (.error e) self w) : Does p (m >>= f) self w post := by
  refine Program.Holds.bind (Program.Holds.mono hm fun r w hr => ?_)
  obtain ⟨r, self⟩ := r
  cases r with
  | ok a => exact hr.1 a rfl
  | error e => exact hr.2 e rfl

theorem does_except {m : Method α} {handler : Fault → Method α}
    {post : Except Fault α → WorkObject → World → Prop}
    (hm : Does p m self w fun r self w => (∀ a, r = .ok a → post (.ok a) self w) ∧
      ∀ e, r = .error e → Does p (handler e) self w post) : Does p (except m handler) self w post := by
  refine Program.Holds.bind (Program.Holds.mono hm fun r w hr => ?_)
  obtain ⟨r, self⟩ := r
  cases r with
  | ok a => exact hr.1 a rfl
  | error e => exact hr.2 e rfl

theorem does_andFinally {m : Method α} {f : Method Unit}
    {post : Except Fault α → WorkObject → World → Prop}
    (hm : Does p m self w fun r self w => Does p f self w fun r' self w =>
      (∀ u, r' = .ok u → post r self w) ∧ ∀ e, r' = .error e → post (.error e) self w) :
    Does p (andFinally m f) self w post := by
  refine Program.Holds.bind (Program.Holds.mono hm fun r w hr => ?_)
  refine Program.Holds.bind (Program.Holds.mono hr fun r' w hr' => ?_)
  obtain ⟨r', self⟩ := r'
  cases r' with
  | ok u => exact hr'.1 u rfl
  | error e => exact hr'.2 e rfl

theorem does_step {o : Op} {post : Reply o → WorkObject → World → Prop}
    (hstep : ∀ w', own p w' = own p w → (w.Paused → w'.Paused) → Requires p o w' ∧
      ∀ fate, post (exec o fate w').1 self (exec o fate w').2) : Does p (step o) self w post := by
  rintro w' ⟨hown, hpaused⟩ hinv
  obtain ⟨hrequires, hpost⟩ := hstep w' hown hpaused
  exact ⟨hrequires, fun fate _ => ⟨exec_moves fate hinv hrequires, hpost fate⟩⟩

/-! ### Steps -/

/-- The party has done this, and in the given case the runtime is paused. -/
structure Owns (p : Nat) (h : List Deed) (b : Prop) (w : World) : Prop where
  deeds : own p w = h
  paused : b → w.Paused

/-- Every failure of a rollback or a close has been reported. -/
abbrev Clean (p : Nat) (h : List Deed) (w : World) : Prop := Owns p h (Failed h) w

/-- A step is legitimate: the party has the reservation, and the object is not terminal. -/
def Live (h : List Deed) : Prop := NotTerminated h ∧ Holding h

theorem Live.cons {d : Deed} (hlive : Live h) (hend : d.isEnd = false) (hd : d ≠ .released) :
    Live (d :: h) := by
  refine ⟨fun call returned hmem => ?_, List.mem_cons_of_mem d hlive.2.1, fun hmem => ?_⟩
  · rcases List.mem_cons.mp hmem with rfl | hmem
    · exact nomatch hend
    · exact hlive.1 call returned hmem
  · rcases List.mem_cons.mp hmem with hreleased | hmem
    · exact hd hreleased.symm
    · exact hlive.2.2 hmem

theorem failed_cons (d : Deed) (hrollback : d ≠ .rollbackFailed) (hclose : d ≠ .closeFailed) :
    Failed (d :: h) ↔ Failed h := by
  simp [Failed, hrollback.symm, hclose.symm]

/-- A step that notes nothing. -/
theorem does_quiet {o : Op} (ho : o.deeds = none) {b : Prop} (hw : Owns p h b w)
    {post : Reply o → WorkObject → World → Prop}
    (hpost : ∀ r w', Owns p h b w' → post r self w') : Does p (step o) self w post := by
  refine does_step fun w' hown hpaused => ⟨fun q ds hds => absurd (ho.symm.trans hds) nofun, fun fate => ?_⟩
  refine hpost _ _ ⟨?_, fun hb => exec_paused o fate (hpaused (hw.paused hb))⟩
  rcases exec_history o fate w' with hhistory | ⟨q, ds, d, hds, -⟩
  · rw [own_of_history hhistory, hown, hw.deeds]
  · exact nomatch ho.symm.trans hds

/-- The legitimate deeds of a step of a live party. -/
theorem requires_live {o : Op} {ds : List Deed} (ho : o.deeds = some (p, ds))
    (hds : ∀ d ∈ ds, d ≠ .acquired ∧ d.isEnd = false) (hlive : Live (own p w)) : Requires p o w := by
  intro q ds' hds'
  obtain ⟨rfl, rfl⟩ := Prod.mk.inj (Option.some.inj (ho.symm.trans hds'))
  refine ⟨rfl, fun d hd => ?_⟩
  obtain ⟨hacquired, hend⟩ := hds d hd
  cases d with
  | acquired => exact absurd rfl hacquired
  | ended call returned terminal => exact nomatch hend
  | _ => exact hlive

/-- The deeds after a step that may note one. -/
def after (h : List Deed) : Option Deed → List Deed
  | some d => d :: h
  | none => h

theorem own_note (d : Option Deed) : own p (w.note p d) = after (own p w) d := by
  cases d with
  | none => rfl
  | some d => exact own_cons_self rfl

theorem owns_driver {b : Prop} (hw : Owns p h b w) (done failed : Option Deed) (fate : Fate) :
    if (w.driver p done failed fate).1.isOk = true
    then Owns p (after h done) b (w.driver p done failed fate).2
    else Owns p (after h failed) b (w.driver p done failed fate).2 := by
  have hpaused := (driver_cases p done failed fate w).2.2
  cases fate with
  | returns =>
    refine ⟨?_, fun hb => hpaused (hw.paused hb)⟩
    rw [World.driver, own_note, hw.deeds]
  | raises code =>
    refine ⟨?_, fun hb => hpaused (hw.paused hb)⟩
    rw [World.driver, own_note, own_of_history (driverFailure_history code w), hw.deeds]

theorem Owns.moved {b : Prop} (hw : Owns p h b w) {w' : World} (hown : own p w' = own p w)
    (hpaused : w.Paused → w'.Paused) : Owns p h b w' :=
  ⟨hown.trans hw.deeds, fun hb => hpaused (hw.paused hb)⟩

/-- A step of the driver notes the one deed where it returns, and the other where it raises. -/
theorem does_driver {o : Op} (done failed : Option Deed) {ds : List Deed}
    (ho : o.deeds = some (p, ds)) (hds : ∀ d ∈ ds, d ≠ .acquired ∧ d.isEnd = false)
    (hexec : ∀ fate w, (exec o fate w).2 = (w.driver p done failed fate).2 ∧
      (exec o fate w).1.isOk = (w.driver p done failed fate).1.isOk)
    {b : Prop} (hw : Owns p h b w) (hlive : Live h) {post : Reply o → WorkObject → World → Prop}
    (hok : ∀ a w', Owns p (after h done) b w' → post (.ok a) self w')
    (hfail : ∀ e w', Owns p (after h failed) b w' → post (.error e) self w') :
    Does p (step o) self w post := by
  refine does_step fun w' hown hpaused => ⟨?_, fun fate => ?_⟩
  · refine requires_live ho hds ?_
    rw [hown, hw.deeds]
    exact hlive
  · have howns := owns_driver (hw.moved hown hpaused) done failed fate
    obtain ⟨hworld, hreply⟩ := hexec fate w'
    rw [← hworld, ← hreply] at howns
    cases hr : (exec o fate w').1 with
    | ok a =>
      rw [hr] at howns
      exact hok a _ howns
    | error e =>
      rw [hr] at howns
      exact hfail e _ howns

section Driver
variable {b : Prop} (hw : Owns p h b w) (hlive : Live h)
  {post : Except Fault Unit → WorkObject → World → Prop}
include hw hlive

theorem does_begin (hok : ∀ w', Owns p (.begun :: h) b w' → post (.ok ()) self w')
    (hfail : ∀ e w', Owns p h b w' → post (.error e) self w') :
    Does p (step (.begin p)) self w post :=
  does_driver (some .begun) none rfl (by simp [Deed.isEnd])
    (fun _ _ => ⟨rfl, rfl⟩) hw hlive (fun _ => hok) hfail

theorem does_statement (hpost : ∀ r w', Owns p (.stated :: h) b w' → post r self w') :
    Does p (step (.statement p)) self w post :=
  does_driver (some .stated) (some .stated) rfl (by simp [Deed.isEnd])
    (fun _ _ => ⟨rfl, rfl⟩) hw hlive (fun _ => hpost _) fun _ => hpost _

theorem does_commit (hok : ∀ w', Owns p (.committed :: h) b w' → post (.ok ()) self w')
    (hfail : ∀ e w', Owns p h b w' → post (.error e) self w') :
    Does p (step (.commit p)) self w post :=
  does_driver (some .committed) none rfl (by simp [Deed.isEnd])
    (fun _ _ => ⟨rfl, rfl⟩) hw hlive (fun _ => hok) hfail

theorem does_rollback (hok : ∀ w', Owns p (.rolledBack :: h) b w' → post (.ok ()) self w')
    (hfail : ∀ e w', Owns p (.rollbackFailed :: h) b w' → post (.error e) self w') :
    Does p (step (.rollback p)) self w post :=
  does_driver (some .rolledBack) (some .rollbackFailed) rfl (by simp [Deed.isEnd])
    (fun _ _ => ⟨rfl, rfl⟩) hw hlive (fun _ => hok) hfail

theorem does_close (hok : ∀ w', Owns p (.closed :: h) b w' → post (.ok ()) self w')
    (hfail : ∀ e w', Owns p (.closeFailed :: h) b w' → post (.error e) self w') :
    Does p (step (.close p)) self w post :=
  does_driver (some .closed) (some .closeFailed) rfl (by simp [Deed.isEnd])
    (fun _ _ => ⟨rfl, rfl⟩) hw hlive (fun _ => hok) hfail

end Driver

theorem does_release {b : Prop} (hw : Owns p h b w) (hlive : Live h)
    {post : Except Fault Unit → WorkObject → World → Prop}
    (hpost : ∀ r w', Owns p (.released :: h) b w' → post r self w') :
    Does p (step (.release p)) self w post := by
  refine does_step fun w' hown hpaused => ⟨?_, fun fate => ?_⟩
  · exact requires_live rfl (by simp [Deed.isEnd]) (by rw [hown, hw.deeds]; exact hlive)
  · refine hpost _ _ ⟨?_, fun hb => exec_paused _ fate (hpaused (hw.paused hb))⟩
    rw [← hw.deeds, ← hown]
    refine own_cons_self ?_
    cases fate with
    | raises code => rfl
    | returns =>
      simp only [exec]
      split_ifs <;> rfl

theorem does_acquire {b : Prop} (hw : Owns p h b w) (hterminated : NotTerminated h)
    (hfresh : .acquired ∉ h ∧ .released ∉ h) {post : Except Fault Bool → WorkObject → World → Prop}
    (hok : ∀ w', Owns p (.acquired :: h) b w' → post (.ok true) self w')
    (hfail : ∀ r w', r ≠ .ok true → Owns p h b w' → post r self w') :
    Does p (step (.acquire p)) self w post := by
  refine does_step fun w' hown hpaused => ⟨?_, fun fate => ?_⟩
  · intro q ds hds
    obtain ⟨rfl, rfl⟩ := Prod.mk.inj (Option.some.inj hds)
    refine ⟨rfl, fun d hd => ?_⟩
    obtain rfl := List.mem_singleton.mp hd
    rw [hown, hw.deeds]
    exact ⟨hterminated, hfresh⟩
  · have hw' := hw.moved hown hpaused
    cases fate with
    | raises code => exact hfail _ _ nofun hw'
    | returns =>
      simp only [exec]
      split_ifs
      · exact hfail _ _ (by simp) hw'
      · exact hok _ ⟨(own_cons_self rfl).trans (congrArg _ hw'.deeds), hw'.paused⟩

theorem does_report {b : Prop} (hw : Owns p h b w)
    {post : Except Fault Unit → WorkObject → World → Prop}
    (hpost : ∀ w', Owns p h True w' → post (.ok ()) self w') :
    Does p reportCleanupFailure self w post := by
  refine does_except (does_step fun w' hown hpaused => ⟨nofun, fun fate => ⟨fun u _ => ?_, nofun⟩⟩)
  exact hpost _ ⟨hown.trans hw.deeds, fun _ => ⟨rfl, rfl⟩⟩

theorem Owns.clean {d : Deed} (hw : Owns p (d :: h) (Failed h) w) (hrollback : d ≠ .rollbackFailed)
    (hclose : d ≠ .closeFailed) : Clean p (d :: h) w :=
  ⟨hw.deeds, fun hfailed => hw.paused ((failed_cons d hrollback hclose).mp hfailed)⟩

section Cleanup
variable (hw : Clean p h w) (hlive : Live h) {post : Except Fault Unit → WorkObject → World → Prop}
include hw hlive

/-- A rollback that fails is reported, so that the runtime is paused. -/
theorem does_cleanup_rollback
    (hpost : ∀ d w', d = .rolledBack ∨ d = .rollbackFailed → Clean p (d :: h) w' →
      post (.ok ()) self w') : Does p (cleanup (.rollback p) (pure ())) self w post := by
  refine does_except (does_bind (does_rollback hw hlive (fun w' hw' => ?_) fun e w' hw' => ?_))
  · exact ⟨fun _ _ => does_pure ⟨fun _ _ => hpost _ w' (Or.inl rfl) (hw'.clean nofun nofun), nofun⟩, nofun⟩
  · refine ⟨nofun, fun _ _ => ⟨nofun, fun _ _ => does_report hw' fun w'' hw'' => ?_⟩⟩
    exact hpost _ w'' (Or.inr rfl) ⟨hw''.deeds, fun _ => hw''.paused trivial⟩

theorem does_cleanup_close
    (hpost : ∀ d w', d = .closed ∨ d = .closeFailed → Clean p (d :: h) w' → post (.ok ()) self w') :
    Does p (cleanup (.close p) (pure ())) self w post := by
  refine does_except (does_bind (does_close hw hlive (fun w' hw' => ?_) fun e w' hw' => ?_))
  · exact ⟨fun _ _ => does_pure ⟨fun _ _ => hpost _ w' (Or.inl rfl) (hw'.clean nofun nofun), nofun⟩, nofun⟩
  · refine ⟨nofun, fun _ _ => ⟨nofun, fun _ _ => does_report hw' fun w'' hw'' => ?_⟩⟩
    exact hpost _ w'' (Or.inr rfl) ⟨hw''.deeds, fun _ => hw''.paused trivial⟩

/-- The reservation is given back once. -/
theorem does_releaseWorkOnce (hreserved : self.workReserved = true)
    (hpost : ∀ w', Clean p (.released :: h) w' →
      post (.ok ()) { self with workReserved := false } w') :
    Does p (releaseWorkOnce p) self w post := by
  refine does_bind (does_fields ⟨fun _ hself => ?_, nofun⟩)
  obtain rfl := Except.ok.inj hself
  rw [if_pos hreserved]
  refine does_bind (does_setFields ⟨fun _ _ => ?_, nofun⟩)
  refine does_except (does_bind (does_release hw hlive fun r w' hw' => ⟨fun _ _ => ?_, fun _ _ => ?_⟩))
  · exact does_pure ⟨fun _ _ => hpost w' (hw'.clean nofun nofun), nofun⟩
  · refine ⟨nofun, fun _ _ => does_report hw' fun w'' hw'' => ?_⟩
    exact hpost w'' ⟨hw''.deeds, fun _ => hw''.paused trivial⟩

end Cleanup

/-! ### Objects between calls -/

/-- What the fields of an object tell of its deeds. -/
structure Fits (o : WorkObject) (deeds : List Deed) : Prop where
  terminated : o.terminal = false → NotTerminated deeds
  fresh : o.active = false → o.terminal = false → .acquired ∉ deeds ∧ .released ∉ deeds
  active : o.active = true → o.terminal = false ∧ o.workReserved = true ∧ Holding deeds
  reserved : o.active = false → o.workReserved = false
  balanced : o.terminal = true → (.acquired ∈ deeds ↔ .released ∈ deeds)

/-- The object is between two calls. -/
def AtRest (self : WorkObject) (h : List Deed) : Prop := Fits self h ∧ current h = []

/-- The call ends as it should, if every failure has been reported. -/
def EndsWith (call : CallName) (r : Except Fault Unit) (self : WorkObject) (h : List Deed) : Prop :=
  ∀ paused : Prop, (Failed h → paused) → EndsWell paused call r.isOk self.terminal h

/-- What a call on an object has to do, whatever the object has gone through. -/
def Obeys (p : Nat) (call : CallName) (m : Method Unit) : Prop :=
  ∀ self h w, AtRest self h → Clean p h w → Does p m self w fun r self' w' =>
    ∃ h', Clean p h' w' ∧ Fits self' h' ∧ EndsWith call r self' h'

theorem live_of_fits {h : List Deed} {self : WorkObject} (hfits : Fits self h)
    (hactive : self.active = true) : Live h := by
  obtain ⟨hterminal, -, hholding⟩ := hfits.active hactive
  exact ⟨hfits.terminated hterminal, hholding⟩

theorem current_cons {d : Deed} (hd : d.isEnd = false) : current (d :: h) = d :: current h := by
  simp [current, hd]

/-- The object is at rest again once the end of a call has been noted. -/
theorem atRest_ended (hfits : Fits self h) (call : CallName) (returned : Bool) :
    AtRest self (.ended call returned self.terminal :: h) := by
  have hacquired : Deed.acquired ∈ Deed.ended call returned self.terminal :: h ↔ .acquired ∈ h := by simp
  have hreleased : Deed.released ∈ Deed.ended call returned self.terminal :: h ↔ .released ∈ h := by simp
  refine ⟨⟨fun hterminal c r hmem => ?_, ?_, ?_, hfits.reserved, ?_⟩, rfl⟩
  · rcases List.mem_cons.mp hmem with heq | hmem
    · obtain ⟨-, -, hflag⟩ := Deed.ended.inj heq
      exact nomatch hflag.trans hterminal
    · exact hfits.terminated hterminal c r hmem
  · rw [hacquired, hreleased]
    exact hfits.fresh
  · rw [Holding, hacquired, hreleased]
    exact hfits.active
  · rw [hacquired, hreleased]
    exact hfits.balanced

/-- An object that obeys in every call keeps the discipline over all of them. -/
theorem holds_calls {script : List (CallName × Method Unit)}
    (hscript : ∀ c ∈ script, Obeys p c.1 c.2) (hrest : AtRest self h) (hw : Clean p h w) :
    Program.Holds exec (discipline p) (calls p script self) (fun _ _ => True) w := by
  induction script generalizing self h w with
  | nil => trivial
  | cons c script ih =>
    obtain ⟨call, body⟩ := c
    rw [List.forall_mem_cons] at hscript
    refine Program.Holds.bind (Program.Holds.mono (hscript.1 self h w hrest hw) ?_)
    rintro ⟨r, self'⟩ w' ⟨h', hw', hfits, hends⟩ w'' ⟨hown, hpaused⟩ hinv
    dsimp only at hfits hends
    have hw'' := hw'.moved hown hpaused
    have hrequires : Requires p (.ended p call r.isOk self'.terminal) w'' := by
      intro q ds hds
      obtain ⟨rfl, rfl⟩ := Prod.mk.inj (Option.some.inj hds)
      refine ⟨rfl, fun d hd => ?_⟩
      obtain rfl := List.mem_singleton.mp hd
      rw [hw''.deeds]
      exact hends w''.Paused hw''.paused
    refine ⟨hrequires, fun fate _ => ⟨exec_moves fate hinv hrequires, ?_⟩⟩
    refine ih hscript.2 (atRest_ended hfits call r.isOk) ⟨?_, fun hfailed => ?_⟩
    · rw [← hw''.deeds]
      exact own_cons_self rfl
    · exact hw''.paused ((failed_cons (.ended call r.isOk self'.terminal) nofun nofun).mp hfailed)

end MyCogni.Persistence.Work
