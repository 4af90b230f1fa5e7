import MyCogni.Persistence.Release

/-! How each call on a unit of work or on a reader ends, whichever of its steps raise. -/

namespace MyCogni.Persistence.Work

variable {p : Nat} {self : WorkObject} {w : World} {h : List Deed}

/-! ### Ends -/

/-- The object once its work is over. -/
def WorkObject.ended : WorkObject := { active := false, terminal := true, workReserved := false }

theorem fits_over (hbalanced : .acquired ∈ h ↔ .released ∈ h) : Fits .ended h where
  terminated := nofun
  fresh := nofun
  active := nofun
  reserved := fun _ => rfl
  balanced := fun _ => hbalanced

/-- The end of a call that has brought nothing about. -/
theorem endsWith_idle {call : CallName} {r : Except Fault Unit} (hrest : AtRest self h)
    (hcall : self.active = false ∨ call = .enter ∨ call = .statement)
    (hr : r.isOk = true → call = .exit) : EndsWith call r self h := by
  obtain ⟨hfits, hcurrent⟩ := hrest
  intro paused hpaused
  refine ⟨hfits.balanced, fun hacquired henter hstatement => ?_, fun _ _ hacquired => ?_,
    fun hcall hr' => ?_, fun hr' hcall => ?_, fun hcall => ⟨fun hr' => ?_, fun hcommitted => ?_⟩,
    fun _ _ => Or.inl hcurrent, hpaused⟩
  · rcases hcall with hinactive | rfl | rfl
    · by_contra hterminal
      exact (hfits.fresh hinactive (Bool.eq_false_of_not_eq_true hterminal)).1 hacquired
    · exact absurd rfl henter
    · exact absurd rfl hstatement
  · rw [hcurrent] at hacquired
    exact nomatch hacquired
  · exact nomatch hcall.symm.trans (hr hr')
  · have := hr hr'
    subst this
    rcases hcall with hcall | hcall | hcall <;> exact nomatch hcall
  · exact nomatch hcall.symm.trans (hr hr')
  · rw [hcurrent] at hcommitted
    exact nomatch hcommitted

/-- The end of a call after which the object is terminal. -/
theorem endsWith_over {call : CallName} {r : Except Fault Unit}
    (hbalanced : .acquired ∈ h ↔ .released ∈ h) (hcall : call ≠ .commit)
    (hr : r.isOk = true → call ≠ .enter ∧ call ≠ .statement) : EndsWith call r .ended h := by
  intro paused hpaused
  refine ⟨fun _ => hbalanced, fun _ _ _ => rfl, fun _ _ _ => rfl, fun henter hr' => ?_,
    fun hr' h => ?_, fun h => absurd h hcall, fun h => absurd h hcall, hpaused⟩
  · exact absurd henter (hr hr').1
  · rcases h with h | h | h
    · exact absurd h (hr hr').1
    · exact absurd h (hr hr').2
    · exact absurd h hcall

/-- The end of an entry that was admitted. -/
theorem endsWith_entered (hlive : Live h) (hterminal : self.terminal = false) :
    EndsWith .enter (.ok ()) self h := by
  intro paused hpaused
  refine ⟨fun h => absurd (hterminal.symm.trans h) nofun, fun _ h => absurd rfl h, nofun,
    fun _ _ => hlive.2, fun _ _ => hlive.1, nofun, nofun, hpaused⟩

theorem endsWith_stated {r : Except Fault Unit} (hlive : Live h) (hterminal : self.terminal = false) :
    EndsWith .statement r self h := by
  intro paused hpaused
  refine ⟨fun h => absurd (hterminal.symm.trans h) nofun, fun _ _ h => absurd rfl h, nofun, nofun,
    fun _ _ => hlive.1, nofun, nofun, hpaused⟩

/-! ### Sessions -/

/-- The deeds of one call. -/
def Plain (ds : List Deed) : Prop := ∀ d ∈ ds, d.isEnd = false ∧ d ≠ .released ∧ d ≠ .acquired

theorem Live.append {ds : List Deed} (hlive : Live h) (hds : Plain ds) : Live (ds ++ h) := by
  induction ds with
  | nil => exact hlive
  | cons d ds ih =>
    obtain ⟨⟨hend, hreleased, -⟩, hds⟩ := List.forall_mem_cons.mp hds
    exact (ih hds).cons hend hreleased

theorem current_append {ds : List Deed} (hds : ∀ d ∈ ds, d.isEnd = false) (hrest : current h = []) :
    current (ds ++ h) = ds := by
  induction ds with
  | nil => exact hrest
  | cons d ds ih =>
    obtain ⟨hd, hds⟩ := List.forall_mem_cons.mp hds
    rw [List.cons_append, current_cons hd, ih hds]

theorem clean_of_reported (hw : Owns p h True w) : Clean p h w :=
  ⟨hw.deeds, fun _ => hw.paused trivial⟩

/-- The method, which the party calls while it has the reservation, leaves the object as it is, and
reports all failures. -/
def Settles (p : Nat) (m : Method Unit) (post : Except Fault Unit → List Deed → Prop) : Prop :=
  ∀ self h w, Clean p h w → Live h → Does p m self w fun r self' w' =>
    self' = self ∧ ∃ ds, Plain ds ∧ Clean p (ds ++ h) w' ∧ post r ds

theorem plain_cons {d : Deed} {ds : List Deed} (hd : d.isEnd = false ∧ d ≠ .released ∧ d ≠ .acquired)
    (hds : Plain ds) : Plain (d :: ds) := List.forall_mem_cons.mpr ⟨hd, hds⟩

theorem plain_rollback {d : Deed} (hd : d = .rolledBack ∨ d = .rollbackFailed) :
    d.isEnd = false ∧ d ≠ .released ∧ d ≠ .acquired := by
  rcases hd with rfl | rfl <;> exact ⟨rfl, nofun, nofun⟩

theorem plain_close {d : Deed} (hd : d = .closed ∨ d = .closeFailed) :
    d.isEnd = false ∧ d ≠ .released ∧ d ≠ .acquired := by
  rcases hd with rfl | rfl <;> exact ⟨rfl, nofun, nofun⟩

theorem plain_nil : Plain [] := nofun

/-- The session is closed, and a failure of that is reported. -/
theorem settles_close : Settles p (cleanup (.close p) (pure ())) fun r ds =>
    r = .ok () ∧ ∃ d, (d = .closed ∨ d = .closeFailed) ∧ ds = [d] := by
  intro self h w hw hlive
  refine does_cleanup_close hw hlive fun d w' hd hw' => ?_
  exact ⟨rfl, [d], plain_cons (plain_close hd) plain_nil, hw', rfl, d, hd, rfl⟩

/-- The session is rolled back and closed. -/
theorem settles_rollback_close {e : Fault} :
    Settles p (cleanup (.rollback p) (pure ()) >>= fun _ => cleanup (.close p) (pure ()) >>=
      fun _ => throw e) fun r ds => r = .error e ∧ .committed ∉ ds ∧
        (.rolledBack ∈ ds ∨ .rollbackFailed ∈ ds) := by
  intro self h w hw hlive
  refine does_bind (does_cleanup_rollback hw hlive fun d w₁ hd hw₁ => ⟨fun _ _ => ?_, nofun⟩)
  have hplain := plain_rollback hd
  refine does_bind (does_cleanup_close hw₁ (hlive.cons hplain.1 hplain.2.1) fun c w₂ hc hw₂ =>
    ⟨fun _ _ => does_throw ?_, nofun⟩)
  refine ⟨rfl, [c, d], plain_cons (plain_close hc) (plain_cons hplain plain_nil), hw₂, rfl, ?_, ?_⟩
  · rcases hc with rfl | rfl <;> rcases hd with rfl | rfl <;> simp
  · rcases hd with rfl | rfl <;> simp

/-- What is known of a commit: it returns exactly where the database commit did, and otherwise the
session has been rolled back, or the rollback has failed. -/
def CommitEnds (r : Except Fault Unit) (ds : List Deed) : Prop :=
  (r.isOk = true ↔ .committed ∈ ds) ∧ (r.isOk = false → .rolledBack ∈ ds ∨ .rollbackFailed ∈ ds)

/-- A session that was undone ends a commit as it should. -/
theorem commitEnds_undone {e : Fault} {r : Except Fault Unit} {self' : WorkObject} {w' : World}
    {next : Unit → Prop} (hundone : self' = self ∧ ∃ ds, Plain ds ∧ Clean p (ds ++ h) w' ∧
      r = .error e ∧ .committed ∉ ds ∧ (.rolledBack ∈ ds ∨ .rollbackFailed ∈ ds)) :
    (∀ a, r = .ok a → next a) ∧ ∀ e, r = .error e → self' = self ∧ ∃ ds, Plain ds ∧
      Clean p (ds ++ h) w' ∧ CommitEnds (.error e) ds := by
  obtain ⟨rfl, ds, hplain, hw', rfl, hcommitted, hrolledBack⟩ := hundone
  refine ⟨nofun, fun _ _ => ⟨rfl, ds, hplain, hw', ?_, fun _ => hrolledBack⟩⟩
  exact ⟨nofun, fun hmem => absurd hmem hcommitted⟩

theorem settles_commitSession : Settles p (SqlAlchemyUnitOfWork.commitSession p) CommitEnds := by
  intro self h w hw hlive
  refine does_bind (does_except (does_bind (does_quiet rfl hw fun r w₁ hw₁ => ⟨fun _ _ => ?_, ?_⟩)))
  · refine does_commit hw₁ hlive (fun w₂ hw₂ => ⟨fun _ _ => ⟨fun _ _ => ?_, nofun⟩, nofun⟩) ?_
    · -- the commit is known to be successful, so a failure to close is only reported
      have hlive' : Live (.committed :: h) := hlive.cons rfl nofun
      refine (settles_close self _ w₂ (hw₂.clean nofun nofun) hlive').mono ?_
      rintro r self' w' ⟨rfl, -, hplain, hw', rfl, d, hd, rfl⟩
      refine ⟨rfl, [d, .committed], ?_, hw', ?_, nofun⟩
      · exact plain_cons (plain_close hd) (plain_cons ⟨rfl, nofun, nofun⟩ plain_nil)
      · simp [Except.isOk, Except.toBool]
    · refine fun e w₂ hw₂ => ⟨nofun, fun _ _ => ?_⟩
      exact (settles_rollback_close self h w₂ hw₂ hlive).mono fun _ _ _ => commitEnds_undone
  · refine fun e _ => ⟨nofun, fun _ _ => ?_⟩
    exact (settles_rollback_close self h w₁ hw₁ hlive).mono fun _ _ _ => commitEnds_undone

theorem settles_rollbackSession :
    Settles p (SqlAlchemyUnitOfWork.rollbackSession p) fun _ _ => True := by
  intro self h w hw hlive
  refine does_bind (does_except (does_rollback hw hlive (fun w₁ hw₁ => ?_) fun e w₁ hw₁ => ?_))
  · refine ⟨fun _ _ => ⟨fun _ _ => ?_, nofun⟩, nofun⟩
    have hlive' : Live (.rolledBack :: h) := hlive.cons rfl nofun
    refine (settles_close self _ w₁ (hw₁.clean nofun nofun) hlive').mono ?_
    rintro r self' w' ⟨rfl, -, hplain, hw', rfl, d, hd, rfl⟩
    exact ⟨rfl, [d, .rolledBack],
      plain_cons (plain_close hd) (plain_cons ⟨rfl, nofun, nofun⟩ plain_nil), hw', trivial⟩
  · -- the failure is reported before the session is rolled back once more
    refine ⟨nofun, fun _ _ => does_bind (does_report hw₁ fun w₂ hw₂ => ⟨fun _ _ => ?_, nofun⟩)⟩
    have hlive' : Live (.rollbackFailed :: h) := hlive.cons rfl nofun
    refine (settles_rollback_close self _ w₂ (clean_of_reported hw₂) hlive').mono ?_
    rintro r self' w' ⟨rfl, ds, hplain, hw', rfl, -, -⟩
    refine ⟨nofun, fun _ _ => ⟨rfl, ds ++ [.rollbackFailed], ?_, ?_, trivial⟩⟩
    · intro d hd
      rcases List.mem_append.mp hd with hd | hd
      · exact hplain d hd
      · obtain rfl := List.mem_singleton.mp hd
        exact ⟨rfl, nofun, nofun⟩
    · rw [List.append_assoc]
      exact hw'

/-! ### Units of work -/

theorem plain_ends {ds : List Deed} (hds : Plain ds) : ∀ d ∈ ds, d.isEnd = false :=
  fun d hd => (hds d hd).1

/-- After the release, the reservation was taken and given back. -/
theorem balanced_released (hlive : Live h) : .acquired ∈ .released :: h ↔ .released ∈ .released :: h :=
  ⟨fun _ => List.mem_cons_self, fun _ => List.mem_cons_of_mem _ hlive.2.1⟩

/-- A session that settles, and then the release. -/
theorem does_finish {session : Method Unit} {post : Except Fault Unit → List Deed → Prop}
    (hsession : Settles p session post) (hfits : Fits self h) (hw : Clean p h w)
    (hactive : self.active = true) :
    Does p (SqlAlchemyUnitOfWork.finish p session) self w fun r self' w' =>
      self' = .ended ∧ ∃ ds, Plain ds ∧ Clean p (.released :: (ds ++ h)) w' ∧ Live (ds ++ h) ∧
        post r ds := by
  have hlive : Live h := live_of_fits hfits hactive
  obtain ⟨-, hreserved, -⟩ := hfits.active hactive
  refine does_bind (does_fields ⟨fun _ hself => ?_, nofun⟩)
  obtain rfl := Except.ok.inj hself
  rw [if_pos hactive]
  refine does_bind (does_setFields ⟨fun _ _ => does_andFinally ?_, nofun⟩)
  refine (hsession _ h w hw hlive).mono ?_
  rintro r self' w₁ ⟨rfl, ds, hplain, hw₁, hpost⟩
  have hlive₁ : Live (ds ++ h) := hlive.append hplain
  refine does_releaseWorkOnce hw₁ hlive₁ hreserved fun w₂ hw₂ => ⟨fun _ _ => ?_, nofun⟩
  exact ⟨rfl, ds, hplain, hw₂, hlive₁, hpost⟩

/-- A method that needs a session refuses without one. -/
theorem does_finish_inactive {session : Method Unit}
    {post : Except Fault Unit → WorkObject → World → Prop} (hactive : self.active = false)
    (hpost : post (.error .runtimeError) self w) :
    Does p (SqlAlchemyUnitOfWork.finish p session) self w post := by
  refine does_bind (does_fields ⟨fun _ hself => ?_, nofun⟩)
  obtain rfl := Except.ok.inj hself
  rw [if_neg (by simp [hactive])]
  exact does_throw hpost

theorem obeys_commit : Obeys p .commit (SqlAlchemyUnitOfWork.commit p) := by
  intro self h w hrest hw
  cases hactive : self.active with
  | false =>
    refine does_finish_inactive hactive ⟨h, hw, hrest.1, ?_⟩
    exact endsWith_idle hrest (Or.inl hactive) nofun
  | true =>
    refine (does_finish settles_commitSession hrest.1 hw hactive).mono ?_
    rintro r self' w' ⟨rfl, ds, hplain, hw', hlive, hcommitted, hrolledBack⟩
    have hbalanced := balanced_released hlive
    have hcurrent : current (.released :: (ds ++ h)) = .released :: ds := by
      rw [current_cons rfl, current_append (plain_ends hplain) hrest.2]
    refine ⟨_, hw', fits_over hbalanced, fun paused hpaused => ?_⟩
    refine ⟨fun _ => hbalanced, fun _ _ _ => rfl, nofun, nofun, ?_, fun _ => ?_, fun _ hr => ?_, hpaused⟩
    · -- the object was not terminal when the call began
      intro _ _ call returned hmem
      rcases List.mem_cons.mp hmem with hmem | hmem
      · exact nomatch hmem
      · exact hlive.1 call returned hmem
    · rw [hcurrent, hcommitted]
      simp
    · rw [hcurrent]
      refine Or.inr ((hrolledBack hr).imp (List.mem_cons_of_mem _) fun hmem => hpaused (Or.inl ?_))
      exact List.mem_cons_of_mem _ (List.mem_append_left _ hmem)

/-- The end of a rollback, which `__exit__` makes too. -/
theorem does_rollback_active {call : CallName} (hcall : call = .rollback ∨ call = .exit)
    (hrest : AtRest self h) (hw : Clean p h w) (hactive : self.active = true) :
    Does p (SqlAlchemyUnitOfWork.rollback p) self w fun r self' w' =>
      ∃ h', Clean p h' w' ∧ Fits self' h' ∧ EndsWith call r self' h' := by
  refine (does_finish settles_rollbackSession hrest.1 hw hactive).mono ?_
  rintro r self' w' ⟨rfl, ds, -, hw', hlive, -⟩
  have hbalanced := balanced_released hlive
  refine ⟨_, hw', fits_over hbalanced, endsWith_over hbalanced ?_ fun _ => ?_⟩
  · rcases hcall with rfl | rfl <;> exact nofun
  · rcases hcall with rfl | rfl <;> exact ⟨nofun, nofun⟩

theorem obeys_rollback : Obeys p .rollback (SqlAlchemyUnitOfWork.rollback p) := by
  intro self h w hrest hw
  cases hactive : self.active with
  | false =>
    refine does_finish_inactive hactive ⟨h, hw, hrest.1, ?_⟩
    exact endsWith_idle hrest (Or.inl hactive) nofun
  | true => exact does_rollback_active (Or.inl rfl) hrest hw hactive

theorem obeys_exit : Obeys p .exit (SqlAlchemyUnitOfWork.exit p) := by
  intro self h w hrest hw
  refine does_bind (does_fields ⟨fun _ hself => ?_, nofun⟩)
  obtain rfl := Except.ok.inj hself
  split_ifs with hactive
  · exact does_rollback_active (Or.inr rfl) hrest hw hactive
  · refine does_pure ⟨h, hw, hrest.1, endsWith_idle hrest ?_ fun _ => rfl⟩
    exact Or.inl (Bool.eq_false_of_not_eq_true hactive)

/-- A statement on an active object. -/
theorem does_stated (hrest : AtRest self h) (hw : Clean p h w) (hactive : self.active = true) :
    Does p (step (.statement p)) self w fun r self' w' =>
      ∃ h', Clean p h' w' ∧ Fits self' h' ∧ EndsWith .statement r self' h' := by
  have hfits := hrest.1
  have hlive : Live h := live_of_fits hfits hactive
  obtain ⟨hterminal, hreserved, -⟩ := hfits.active hactive
  refine does_statement hw hlive fun r w' hw' => ?_
  have hlive' : Live (.stated :: h) := hlive.cons rfl nofun
  refine ⟨_, hw'.clean nofun nofun, ?_, endsWith_stated hlive' hterminal⟩
  refine ⟨fun _ => hlive'.1, fun h => absurd (hactive.symm.trans h) nofun,
    fun _ => ⟨hterminal, hreserved, hlive'.2⟩, fun h => absurd (hactive.symm.trans h) nofun, ?_⟩
  exact fun h => absurd (hterminal.symm.trans h) nofun

theorem obeys_statement : Obeys p .statement (SqlAlchemyUnitOfWork.statement p) := by
  intro self h w hrest hw
  refine does_bind (does_fields ⟨fun _ hself => ?_, nofun⟩)
  obtain rfl := Except.ok.inj hself
  split_ifs with hactive
  · exact does_stated hrest hw hactive
  · exact does_throw ⟨h, hw, hrest.1, endsWith_idle hrest (Or.inr (Or.inr rfl)) nofun⟩

end MyCogni.Persistence.Work
