import MyCogni.Persistence.Endings

/-! Admission: a unit of work or a reader that is admitted begins, or it gives the reservation back. -/

namespace MyCogni.Persistence.Work

variable {p : Nat} {self : WorkObject} {w : World} {h : List Deed}

/-! ### Admission -/

/-- A party that has not been admitted. -/
structure Newcomer (o : WorkObject) (deeds : List Deed) : Prop where
  rest : AtRest o deeds
  inactive : o.active = false
  entering : o.terminal = false

theorem Newcomer.terminated {o : WorkObject} {deeds : List Deed} (hnew : Newcomer o deeds) :
    NotTerminated deeds := hnew.rest.1.terminated hnew.entering

theorem Newcomer.fresh {o : WorkObject} {deeds : List Deed} (hnew : Newcomer o deeds) :
    .acquired ∉ deeds ∧ .released ∉ deeds := hnew.rest.1.fresh hnew.inactive hnew.entering

theorem Newcomer.live {o : WorkObject} {deeds : List Deed} (hnew : Newcomer o deeds) :
    Live (.acquired :: deeds) := by
  refine ⟨fun call returned hmem => ?_, List.mem_cons_self, fun hmem => ?_⟩
  · rcases List.mem_cons.mp hmem with hmem | hmem
    · exact nomatch hmem
    · exact hnew.terminated call returned hmem
  · rcases List.mem_cons.mp hmem with hmem | hmem
    · exact nomatch hmem
    · exact hnew.fresh.2 hmem

/-- An entry that was not admitted, whether or not it leaves the object terminal. -/
theorem newcomer_refused (hnew : Newcomer self h) {e : Fault} (terminal : Bool) :
    Fits { self with terminal } h ∧ EndsWith .enter (.error e) { self with terminal } h := by
  obtain ⟨hacquired, hreleased⟩ := hnew.fresh
  refine ⟨⟨fun _ => hnew.terminated, fun _ _ => hnew.fresh, ?_, hnew.rest.1.reserved, ?_⟩, ?_⟩
  · exact fun h => absurd (hnew.inactive.symm.trans h) nofun
  · exact fun _ => ⟨fun h => absurd h hacquired, fun h => absurd h hreleased⟩
  · intro paused hpaused
    refine ⟨fun _ => ⟨fun h => absurd h hacquired, fun h => absurd h hreleased⟩,
      fun h => absurd h hacquired, fun _ _ h => ?_, nofun, nofun, nofun, nofun, hpaused⟩
    rw [hnew.rest.2] at h
    exact nomatch h

/-- The reservation is tried once, and it is not waited for. -/
theorem does_reserve (hnew : Newcomer self h) (hw : Clean p h w)
    {post : Except Fault Unit → WorkObject → World → Prop}
    (hok : ∀ w', Clean p (.acquired :: h) w' → post (.ok ()) self w')
    (hfail : ∀ e w', Clean p h w' → post (.error e) self w') : Does p (reserve p) self w post := by
  refine does_bind (does_acquire hw hnew.terminated hnew.fresh (fun w' hw' => ?_) fun r w' hr hw' => ?_)
  · refine ⟨fun a ha => ?_, nofun⟩
    obtain rfl := Except.ok.inj ha
    exact does_pure (hok w' (hw'.clean nofun nofun))
  · refine ⟨fun a ha => ?_, fun e _ => hfail e w' hw'⟩
    subst ha
    cases a with
    | true => exact absurd rfl hr
    | false => exact does_throw (hfail _ w' hw')

/-- A check, and then the reservation. -/
theorem does_admission {o : Op} (ho : o.deeds = none) (hnew : Newcomer self h) (hw : Clean p h w)
    {post : Except Fault Unit → WorkObject → World → Prop}
    (hok : ∀ w', Clean p (.acquired :: h) w' → post (.ok ()) self w')
    (hfail : ∀ e w', Clean p h w' → post (.error e) self w') :
    Does p (step o >>= fun _ => reserve p) self w post :=
  does_bind (does_quiet ho hw fun _ w' hw' =>
    ⟨fun _ _ => does_reserve hnew hw' hok hfail, fun e _ => hfail e w' hw'⟩)

/-- The object after the release. -/
theorem does_release_over (hreserved : self.workReserved = true) (hw : Clean p h w) (hlive : Live h) :
    Does p (releaseWorkOnce p)
      { active := false, terminal := true, workReserved := self.workReserved } w fun r self' w' =>
      r = .ok () ∧ self' = .ended ∧ Clean p (.released :: h) w' :=
  does_releaseWorkOnce hw hlive hreserved fun _ hw' => ⟨rfl, rfl, hw'⟩

/-- An entry that fails to begin undoes what it has begun. -/
theorem does_abandonEntry {e : Fault} (hreserved : self.workReserved = true) (hw : Clean p h w)
    (hlive : Live h) : Does p (SqlAlchemyUnitOfWork.abandonEntry p e) self w fun r self' w' =>
      r = .error e ∧ self' = .ended ∧ ∃ h', Clean p (.released :: h') w' ∧ Live h' := by
  refine does_bind (does_fields ⟨fun _ hself => ?_, nofun⟩)
  obtain rfl := Except.ok.inj hself
  refine does_bind (does_setFields ⟨fun _ _ => ?_, nofun⟩)
  split_ifs with hactive
  · refine does_bind (does_cleanup_rollback hw hlive fun d w₁ hd hw₁ => ⟨fun _ _ => ?_, nofun⟩)
    have hlive₁ : Live (d :: h) := hlive.cons (plain_rollback hd).1 (plain_rollback hd).2.1
    refine does_bind (does_cleanup_close hw₁ hlive₁ fun c w₂ hc hw₂ => ⟨fun _ _ => ?_, nofun⟩)
    have hlive₂ : Live (c :: d :: h) := hlive₁.cons (plain_close hc).1 (plain_close hc).2.1
    refine does_bind ((does_release_over hreserved hw₂ hlive₂).mono ?_)
    rintro r self' w' ⟨rfl, rfl, hw'⟩
    exact ⟨fun _ _ => does_throw ⟨rfl, rfl, _, hw', hlive₂⟩, nofun⟩
  · refine does_bind ((does_release_over hreserved hw hlive).mono ?_)
    rintro r self' w' ⟨rfl, rfl, hw'⟩
    exact ⟨fun _ _ => does_throw ⟨rfl, rfl, h, hw', hlive⟩, nofun⟩

/-- What an entry that was admitted has to end with. -/
def Entered (self : WorkObject) (r : Except Fault Unit) (self' : WorkObject) (h' : List Deed) : Prop :=
  r = .ok () ∧ self' = { self with active := true } ∧ Live h' ∨
  r.isOk = false ∧ self' = .ended ∧ ∃ h, h' = .released :: h ∧ Live h

/-- Such an entry ends as it should. -/
theorem entered_ends {r : Except Fault Unit} {self' : WorkObject} {h' : List Deed}
    (hentered : Entered self r self' h') (hreserved : self.workReserved = true)
    (hterminal : self.terminal = false) : Fits self' h' ∧ EndsWith .enter r self' h' := by
  rcases hentered with ⟨rfl, rfl, hlive⟩ | ⟨hr, rfl, h, rfl, hlive⟩
  · refine ⟨⟨fun _ => hlive.1, nofun, fun _ => ⟨hterminal, hreserved, hlive.2⟩, nofun, ?_⟩,
      endsWith_entered hlive hterminal⟩
    exact fun h => absurd (hterminal.symm.trans h) nofun
  · have hbalanced := balanced_released hlive
    exact ⟨fits_over hbalanced, endsWith_over hbalanced nofun fun h => absurd (hr.symm.trans h) nofun⟩

/-- Once the reservation is taken, the transaction begins or the reservation is given back. -/
theorem does_beginImmediate (hreserved : self.workReserved = true) (hw : Clean p h w) (hlive : Live h) :
    Does p (except (SqlAlchemyUnitOfWork.beginImmediate p) (SqlAlchemyUnitOfWork.abandonEntry p)) self w
      fun r self' w' => ∃ h', Clean p h' w' ∧ Entered self r self' h' := by
  have habandon : ∀ (e : Fault) (o : WorkObject) (w' : World), o.workReserved = true → Clean p h w' →
      Does p (SqlAlchemyUnitOfWork.abandonEntry p e) o w' fun r self' w' =>
        ∃ h', Clean p h' w' ∧ Entered self r self' h' := by
    intro e o w' hreserved hw'
    refine (does_abandonEntry hreserved hw' hlive).mono ?_
    rintro r self' w'' ⟨rfl, rfl, h', hw'', hlive'⟩
    exact ⟨_, hw'', Or.inr ⟨rfl, rfl, h', rfl, hlive'⟩⟩
  refine does_except (does_bind (does_quiet rfl hw fun r w₁ hw₁ => ⟨fun _ _ => ?_, ?_⟩))
  · refine does_bind (does_setFields ⟨fun _ _ => ?_, nofun⟩)
    refine does_begin hw₁ hlive (fun w₂ hw₂ => ⟨fun _ _ => ?_, nofun⟩) fun e w₂ hw₂ => ⟨nofun, ?_⟩
    · exact ⟨_, hw₂.clean nofun nofun, Or.inl ⟨rfl, rfl, hlive.cons rfl nofun⟩⟩
    · exact fun _ _ => habandon _ _ w₂ hreserved hw₂
  · exact fun e _ => ⟨nofun, fun _ _ => habandon _ _ w₁ hreserved hw₁⟩

theorem obeys_enter : Obeys p .enter (SqlAlchemyUnitOfWork.enter p) := by
  intro self h w hrest hw
  refine does_bind (does_fields ⟨fun _ hself => ?_, nofun⟩)
  obtain rfl := Except.ok.inj hself
  split_ifs with hstate
  · exact does_throw ⟨h, hw, hrest.1, endsWith_idle hrest (Or.inr (Or.inl rfl)) nofun⟩
  rw [not_or, Bool.not_eq_true, Bool.not_eq_true] at hstate
  have hnew : Newcomer self h := ⟨hrest, hstate.1, hstate.2⟩
  refine does_bind (does_except (does_admission rfl hnew hw (fun w₁ hw₁ => ?_) fun e w₁ hw₁ => ?_))
  · refine ⟨fun _ _ => ⟨fun _ _ => does_bind (does_setFields ⟨fun _ _ => ?_, nofun⟩), nofun⟩, nofun⟩
    refine (does_beginImmediate rfl hw₁ hnew.live).mono ?_
    rintro r self' w' ⟨h', hw', hentered⟩
    exact ⟨h', hw', entered_ends hentered rfl hnew.entering⟩
  · refine ⟨nofun, fun _ _ => does_bind (does_setFields ⟨fun _ _ => does_throw ⟨nofun, fun _ _ => ?_⟩, nofun⟩)⟩
    exact ⟨h, hw₁, newcomer_refused hnew true⟩

/-! ### Readers -/

/-- The cleanup of a reader's connection, of which any failure is reported. -/
theorem settles_connection : Settles p
    (except (step (.rollback p) >>= fun _ => step (.queryOnly p) >>= fun _ => step (.close p))
      fun _ => reportCleanupFailure >>= fun _ => except (step (.close p)) fun _ => pure ())
    fun r _ => r = .ok () := by
  intro self h w hw hlive
  -- the handler reports the failure before it tries to close the connection
  have hhandler : ∀ (ds : List Deed) (b : Prop) (w' : World), Plain ds → Owns p (ds ++ h) b w' →
      Does p (reportCleanupFailure >>= fun _ => except (step (.close p)) fun _ => pure ()) self w'
        fun r self' w' => self' = self ∧ ∃ ds, Plain ds ∧ Clean p (ds ++ h) w' ∧ r = .ok () := by
    intro ds b w' hds hw'
    refine does_bind (does_report hw' fun w₁ hw₁ => ⟨fun _ _ => ?_, nofun⟩)
    refine does_except (does_close hw₁ (hlive.append hds) (fun w₂ hw₂ => ?_) fun e w₂ hw₂ => ?_)
    · refine ⟨fun _ _ => ⟨rfl, .closed :: ds, ?_, clean_of_reported hw₂, rfl⟩, nofun⟩
      exact plain_cons ⟨rfl, nofun, nofun⟩ hds
    · refine ⟨nofun, fun _ _ => does_pure ⟨rfl, .closeFailed :: ds, ?_, clean_of_reported hw₂, rfl⟩⟩
      exact plain_cons ⟨rfl, nofun, nofun⟩ hds
  refine does_except (does_bind (does_rollback hw hlive (fun w₁ hw₁ => ?_) fun e w₁ hw₁ => ?_))
  · have hw₁' : Clean p (.rolledBack :: h) w₁ := hw₁.clean nofun nofun
    have hplain : Plain [.rolledBack] := plain_cons ⟨rfl, nofun, nofun⟩ plain_nil
    refine ⟨fun _ _ => does_bind (does_quiet rfl hw₁' fun r w₂ hw₂ => ⟨fun _ _ => ?_, ?_⟩), nofun⟩
    · refine does_close hw₂ (hlive.cons rfl nofun) (fun w₃ hw₃ => ⟨fun _ _ => ?_, nofun⟩) ?_
      · refine ⟨rfl, [.closed, .rolledBack], ?_, hw₃.clean nofun nofun, rfl⟩
        exact plain_cons ⟨rfl, nofun, nofun⟩ hplain
      · refine fun e w₃ hw₃ => ⟨nofun, fun _ _ => hhandler [.closeFailed, .rolledBack] _ w₃ ?_ hw₃⟩
        exact plain_cons ⟨rfl, nofun, nofun⟩ hplain
    · exact fun e _ => ⟨nofun, fun _ _ => hhandler [.rolledBack] _ w₂ hplain hw₂⟩
  · refine ⟨nofun, fun _ _ => ⟨nofun, fun _ _ => hhandler [.rollbackFailed] _ w₁ ?_ hw₁⟩⟩
    exact plain_cons ⟨rfl, nofun, nofun⟩ plain_nil

/-- The cleanup of a reader that has the reservation. -/
theorem does_cleanupAll (hreserved : self.workReserved = true) (hw : Clean p h w) (hlive : Live h) :
    Does p (SqlAlchemyReconciliationReader.cleanupAll p) self w fun r self' w' =>
      r = .ok () ∧ self' = .ended ∧ ∃ h', Clean p (.released :: h') w' ∧ Live h' := by
  refine does_bind (does_fields ⟨fun _ hself => ?_, nofun⟩)
  obtain rfl := Except.ok.inj hself
  refine does_bind (does_setFields ⟨fun _ _ => ?_, nofun⟩)
  split_ifs with hactive
  · refine does_bind ((settles_connection _ h w hw hlive).mono ?_)
    rintro r self' w₁ ⟨rfl, ds, hplain, hw₁, rfl⟩
    refine ⟨fun _ _ => ?_, nofun⟩
    refine (does_release_over hreserved hw₁ (hlive.append hplain)).mono ?_
    rintro r self' w₂ ⟨rfl, rfl, hw₂⟩
    exact ⟨rfl, rfl, _, hw₂, hlive.append hplain⟩
  · refine (does_release_over hreserved hw hlive).mono ?_
    rintro r self' w' ⟨rfl, rfl, hw'⟩
    exact ⟨rfl, rfl, h, hw', hlive⟩

theorem obeys_reader_enter : Obeys p .enter (SqlAlchemyReconciliationReader.enter p) := by
  intro self h w hrest hw
  refine does_bind (does_fields ⟨fun _ hself => ?_, nofun⟩)
  obtain rfl := Except.ok.inj hself
  split_ifs with hstate
  · exact does_throw ⟨h, hw, hrest.1, endsWith_idle hrest (Or.inr (Or.inl rfl)) nofun⟩
  rw [not_or, Bool.not_eq_true, Bool.not_eq_true] at hstate
  have hnew : Newcomer self h := ⟨hrest, hstate.1, hstate.2⟩
  refine does_bind (does_admission rfl hnew hw (fun w₁ hw₁ => ?_) fun e w₁ hw₁ => ?_)
  · refine ⟨fun _ _ => does_bind (does_setFields ⟨fun _ _ => ?_, nofun⟩), nofun⟩
    have hundone : ∀ (e : Fault) (o : WorkObject) (w' : World), o.workReserved = true →
        Clean p (.acquired :: h) w' →
        Does p (SqlAlchemyReconciliationReader.cleanupAll p >>= fun _ => throw e) o w'
          fun r self' w' => ∃ h', Clean p h' w' ∧ Fits self' h' ∧ EndsWith .enter r self' h' := by
      intro e o w' hreserved hw'
      refine does_bind ((does_cleanupAll hreserved hw' hnew.live).mono ?_)
      rintro r self' w'' ⟨rfl, rfl, h', hw'', hlive'⟩
      have hentered : Entered { workReserved := true } (.error e) .ended (.released :: h') :=
        Or.inr ⟨rfl, rfl, h', rfl, hlive'⟩
      exact ⟨fun _ _ => does_throw ⟨_, hw'', entered_ends hentered rfl rfl⟩, nofun⟩
    refine does_except (does_bind (does_quiet rfl hw₁ fun r w₂ hw₂ => ⟨fun _ _ => ?_, ?_⟩))
    · refine does_bind (does_setFields ⟨fun _ _ => ?_, nofun⟩)
      refine does_bind (does_quiet rfl hw₂ fun r w₃ hw₃ => ⟨fun _ _ => ?_, ?_⟩)
      · refine does_begin hw₃ hnew.live (fun w₄ hw₄ => ⟨fun _ _ => ?_, nofun⟩) ?_
        · have hentered : Entered { self with workReserved := true } (.ok ())
              { self with active := true, workReserved := true } (.begun :: .acquired :: h) :=
            Or.inl ⟨rfl, rfl, hnew.live.cons rfl nofun⟩
          exact ⟨_, hw₄.clean nofun nofun, entered_ends hentered rfl hnew.entering⟩
        · exact fun e w₄ hw₄ => ⟨nofun, fun _ _ => hundone _ _ w₄ rfl hw₄⟩
      · exact fun e _ => ⟨nofun, fun _ _ => hundone _ _ w₃ rfl hw₃⟩
    · exact fun e _ => ⟨nofun, fun _ _ => hundone _ _ w₂ rfl hw₂⟩
  · refine ⟨nofun, fun _ _ => ⟨h, hw₁, ?_⟩⟩
    exact newcomer_refused hnew self.terminal

theorem obeys_execute {s : Statement} :
    Obeys p .statement (SqlAlchemyReconciliationReader.execute p s) := by
  intro self h w hrest hw
  have hrefused : ∀ (e : Fault) (w' : World), Clean p h w' → ∃ h', Clean p h' w' ∧ Fits self h' ∧
      EndsWith .statement (.error e) self h' :=
    fun e w' hw' => ⟨h, hw', hrest.1, endsWith_idle hrest (Or.inr (Or.inr rfl)) nofun⟩
  refine does_bind (does_quiet rfl hw fun r w₁ hw₁ => ⟨fun _ _ => ?_, fun e _ => hrefused e w₁ hw₁⟩)
  refine does_bind (does_fields ⟨fun _ hself => ?_, nofun⟩)
  obtain rfl := Except.ok.inj hself
  split_ifs with hstate
  · exact does_throw (hrefused _ w₁ hw₁)
  · exact does_throw (hrefused _ w₁ hw₁)
  · exact does_throw (hrefused _ w₁ hw₁)
  · rw [not_or, Bool.not_eq_false] at hstate
    exact does_stated hrest hw₁ hstate.1

theorem obeys_reader_exit : Obeys p .exit (SqlAlchemyReconciliationReader.exit p) := by
  intro self h w hrest hw
  cases hactive : self.active with
  | true =>
    have hlive : Live h := live_of_fits hrest.1 hactive
    refine (does_cleanupAll (hrest.1.active hactive).2.1 hw hlive).mono ?_
    rintro r self' w' ⟨rfl, rfl, h', hw', hlive'⟩
    have hbalanced := balanced_released hlive'
    exact ⟨_, hw', fits_over hbalanced, endsWith_over hbalanced nofun fun _ => ⟨nofun, nofun⟩⟩
  | false =>
    -- there is no connection and no reservation, so the reader becomes terminal and that is all
    have hreserved : self.workReserved = false := hrest.1.reserved hactive
    have hbalanced : .acquired ∈ h ↔ .released ∈ h := by
      cases hterminal : self.terminal with
      | true => exact hrest.1.balanced hterminal
      | false =>
        obtain ⟨hacquired, hreleased⟩ := hrest.1.fresh hactive hterminal
        exact ⟨fun h => absurd h hacquired, fun h => absurd h hreleased⟩
    refine does_bind (does_fields ⟨fun _ hself => ?_, nofun⟩)
    obtain rfl := Except.ok.inj hself
    refine does_bind (does_setFields ⟨fun _ _ => ?_, nofun⟩)
    rw [if_neg (by simp [hactive])]
    refine does_bind (does_fields ⟨fun _ hself => ?_, nofun⟩)
    obtain rfl := Except.ok.inj hself
    rw [if_neg (by simp [hreserved])]
    refine does_pure ⟨h, hw, ?_⟩
    rw [hreserved]
    exact ⟨fits_over hbalanced, endsWith_over hbalanced nofun fun _ => ⟨nofun, nofun⟩⟩

end MyCogni.Persistence.Work
