import MyCogni.Simulator.Accounts

/-! Every call of a delivery, as a move in the world that all deliveries share: it keeps the books,
leaves to the others what is theirs, and changes what belongs to its own delivery as it says. -/

namespace MyCogni.Simulator

open Command

variable {s s' : Stores} {n : Nat} {lib : Library}

/-! ### Reserving -/

/-- The engine with one more reservation, which goes on from the session as it is. -/
structure Engine.Reserves (engine : Engine) (owner : Nat) (plan : EnginePlan) (r : Reservation)
    (engine' : Engine) : Prop where
  engine_eq : engine' = { engine with
    reservations := engine.reservations.set engine.nextToken r
    reservedSessions := insert plan.sessionId engine.reservedSessions
    nextToken := engine.nextToken + 1 }
  plan_eq : r.plan = plan
  owner_eq : r.owner = owner
  token_eq : plan.token = engine.nextToken
  free : plan.sessionId ∉ engine.reservedSessions
  room : r.isNewSession = true → engine.sessions.size + engine.reservedNew < maxSessions
  follows : Follows engine.scenarios (engine.sessions.get? plan.sessionId) r

theorem wp_prepareLocked (timestamp : Datetime → Int) (owner : Nat) (instant : Datetime)
    (scenarioName : ScenarioName) (sessionId : Text) (expectedState : ScenarioState) (engine : Engine) :
    wp (Engine.prepareLocked timestamp owner instant scenarioName sessionId expectedState)
      (fun plan engine' => ∃ r, engine.Reserves owner plan r engine')
      (fun _ engine' => engine' = engine) engine := by
  unfold Engine.prepareLocked
  simp only [wp_bind, wp_read, wp_require, wp_demand, wp_write, wp_pure, implies_true, and_true]
  intro _ hfree definition hdefinition hroom hscenario _ _ step hstep _ _
  refine ⟨_, rfl, rfl, rfl, rfl, hfree, hroom, ?_⟩
  exact ⟨definition, step, instant, timestamp instant, hdefinition, hscenario, hstep, rfl, rfl, rfl⟩

/-- The session of a reservation is not among those reserved before. -/
theorem Inv.reserving (h : Inv s) {plan : EnginePlan} {r : Reservation} {engine : Engine}
    (hreserves : s.engine.Reserves n plan r engine) :
    Inv { s with engine } ∧ Guarantee n s { s with engine } ∧
      ∀ token r', engine.reservations.get? token = some r' ↔
        (token = plan.token ∧ r' = r) ∨ s.engine.reservations.get? token = some r' := by
  obtain ⟨hengine, rfl, howner, htoken, hfree, hroom, hfollows⟩ := hreserves
  have hunused : s.engine.reservations.get? s.engine.nextToken = none := by
    cases hr : s.engine.reservations.get? s.engine.nextToken with
    | none => rfl
    | some r' => exact absurd (h.tokens _ r' hr).2 (lt_irrefl _)
  have hget : ∀ token r', engine.reservations.get? token = some r' ↔
      (token = r.plan.token ∧ r' = r) ∨ s.engine.reservations.get? token = some r' := by
    intro token r'
    rw [hengine, Dict.get?_set, htoken]
    split_ifs with hk
    · subst hk
      rw [hunused, Option.some.injEq]
      constructor
      · exact fun he => Or.inl ⟨rfl, he.symm⟩
      · rintro (⟨-, rfl⟩ | he)
        · rfl
        · cases he
    · simp [hk]
  have hlater : ∀ token r', s.engine.reservations.get? token = some r' →
      r'.plan.sessionId ≠ r.plan.sessionId := fun token r' hr' he =>
    hfree ((h.reserved _).mpr ⟨token, r', hr', he⟩)
  have hnew : engine.reservedNew = s.engine.reservedNew + if r.isNewSession then 1 else 0 := by
    rw [Engine.reservedNew, hengine]
    exact Dict.sum_set_of_none hunused _ _
  have hsessions : engine.sessions = s.engine.sessions := by rw [hengine]
  have hscenarios : engine.scenarios = s.engine.scenarios := by rw [hengine]
  refine ⟨{
    replayed := fun k => ?_
    captured := h.captured
    sessions_bounded := ?_
    mails_bounded := h.mails_bounded
    tokens := fun token r' hr' => ?_
    reserved := fun k => ?_
    distinct := fun token r₁ token' r₂ hr₁ hr₂ he => ?_
    follows := fun token r' hr' => ?_
    mailTokens := h.mailTokens }, fun m hm => ⟨fun token r' hr' => ?_, fun _ _ _ => Iff.rfl, rfl⟩,
    hget⟩
  · simp only [hsessions, hscenarios]
    exact h.replayed k
  · have hbound := h.sessions_bounded
    simp only [hsessions, hnew]
    split_ifs with hnewSession
    · have hlt := hroom hnewSession
      omega
    · omega
  · have hnext : engine.nextToken = s.engine.nextToken + 1 := by rw [hengine]
    simp only [hnext]
    rcases (hget token r').mp hr' with ⟨rfl, rfl⟩ | hold
    · exact ⟨rfl, by omega⟩
    · obtain ⟨heq, hlt⟩ := h.tokens token r' hold
      exact ⟨heq, by omega⟩
  · have hreserved : engine.reservedSessions = insert r.plan.sessionId s.engine.reservedSessions := by
      rw [hengine]
    simp only [hreserved, Finset.mem_insert, h.reserved]
    constructor
    · rintro (rfl | ⟨token, r', hr', rfl⟩)
      · exact ⟨r.plan.token, r, (hget _ _).mpr (Or.inl ⟨rfl, rfl⟩), rfl⟩
      · exact ⟨token, r', (hget _ _).mpr (Or.inr hr'), rfl⟩
    · rintro ⟨token, r', hr', rfl⟩
      rcases (hget token r').mp hr' with ⟨-, rfl⟩ | hold
      · exact Or.inl rfl
      · exact Or.inr ⟨token, r', hold, rfl⟩
  · rcases (hget token r₁).mp hr₁ with ⟨rfl, rfl⟩ | hold₁ <;>
      rcases (hget token' r₂).mp hr₂ with ⟨rfl, rfl⟩ | hold₂
    · rfl
    · exact absurd he.symm (hlater token' r₂ hold₂)
    · exact absurd he (hlater token r₁ hold₁)
    · exact h.distinct token r₁ token' r₂ hold₁ hold₂ he
  · simp only [hsessions, hscenarios]
    rcases (hget token r').mp hr' with ⟨-, rfl⟩ | hold
    · exact hfollows
    · exact h.follows token r' hold
  · rw [hget]
    constructor
    · rintro (⟨-, rfl⟩ | hold)
      · exact absurd (hr'.symm.trans howner) hm
      · exact hold
    · exact Or.inr

theorem Inv.reservingMail (h : Inv s) {message : MailFixture}
    (hroom : s.mail.messages.length + s.mail.reservations.size < maxMailMessages) :
    let m : MailReservation := ⟨s.mail.nextToken, message, n⟩
    let s' : Stores := { s with mail := { s.mail with
      reservations := s.mail.reservations.set m.token m
      nextToken := s.mail.nextToken + 1 } }
    Inv s' ∧ Guarantee n s s' ∧ ∀ token m', s'.mail.reservations.get? token = some m' ↔
      (token = m.token ∧ m' = m) ∨ s.mail.reservations.get? token = some m' := by
  have hunused : s.mail.reservations.get? s.mail.nextToken = none := by
    cases hm : s.mail.reservations.get? s.mail.nextToken with
    | none => rfl
    | some m' => exact absurd (h.mailTokens _ m' hm).2 (lt_irrefl _)
  have hget : ∀ token m', (s.mail.reservations.set s.mail.nextToken
      ⟨s.mail.nextToken, message, n⟩).get? token = some m' ↔
      (token = s.mail.nextToken ∧ m' = ⟨s.mail.nextToken, message, n⟩) ∨
        s.mail.reservations.get? token = some m' := by
    intro token m'
    rw [Dict.get?_set]
    split_ifs with hk
    · subst hk
      rw [hunused, Option.some.injEq]
      constructor
      · exact fun he => Or.inl ⟨rfl, he.symm⟩
      · rintro (⟨-, rfl⟩ | he)
        · rfl
        · cases he
    · simp [hk]
  refine ⟨{ h with
    mails_bounded := ?_
    mailTokens := fun token m' hm' => ?_ }, fun k hk => ⟨fun _ _ _ => Iff.rfl, fun token m' hm' => ?_, rfl⟩,
    hget⟩
  · have hsize := Dict.size_set_of_none hunused (⟨s.mail.nextToken, message, n⟩ : MailReservation)
    simp only [hsize]
    omega
  · rcases (hget token m').mp hm' with ⟨rfl, rfl⟩ | hold
    · exact ⟨rfl, Nat.lt_succ_self _⟩
    · obtain ⟨heq, hlt⟩ := h.mailTokens token m' hold
      exact ⟨heq, Nat.lt_succ_of_lt hlt⟩
  · refine (hget token m').trans ⟨?_, Or.inr⟩
    rintro (⟨-, rfl⟩ | hold)
    · exact absurd hm'.symm hk
    · exact hold

/-! ### Events -/

/-- An event of the delivery of this number that touches no store. -/
theorem Inv.noting (h : Inv s) {event : Event} (howner : event.owner = n)
    (hplan : ∀ sessionId, event.planFor sessionId = none) (hmail : event.mail = none) :
    Inv { s with history := s.history ++ [event] } ∧
      Guarantee n s { s with history := s.history ++ [event] } := by
  refine ⟨{ h with
    replayed := fun k => ?_
    captured := ?_ }, fun m hm => ⟨fun _ _ _ => Iff.rfl, fun _ _ _ => Iff.rfl, ?_⟩⟩
  · have hsame : (s.history ++ [event]).filterMap (Event.planFor k) =
        s.history.filterMap (Event.planFor k) := by
      rw [List.filterMap_append, List.filterMap_cons_none (hplan k), List.filterMap_nil, List.append_nil]
    simp only [hsame]
    exact h.replayed k
  · have hsame : (s.history ++ [event]).filterMap Event.mail = s.history.filterMap Event.mail := by
      rw [List.filterMap_append, List.filterMap_cons_none hmail, List.filterMap_nil, List.append_nil]
    simp only [hsame]
    exact h.captured
  · have hother : ¬event.owner = m := fun he => hm (he.symm.trans howner)
    simp [List.filter_append, hother]

/-! ### The commit -/

theorem filterMap_planFor_committed (history : List Event) (owner : Nat) (plan : EnginePlan)
    (sessionId : Text) :
    (history ++ [Event.committed owner plan]).filterMap (Event.planFor sessionId) =
      history.filterMap (Event.planFor sessionId) ++
        if plan.sessionId = sessionId then [plan] else [] := by
  rw [List.filterMap_append]
  congr 1
  simp only [List.filterMap_cons, Event.planFor]
  split_ifs <;> rfl

/-- A session that is committed while its reservation goes. -/
theorem size_committed (engine : Engine) {plan : EnginePlan} {r : Reservation}
    (hr : engine.reservations.get? plan.token = some r)
    (hnew : r.isNewSession = (engine.sessions.get? plan.sessionId).isNone) :
    ((engine.withSession plan r).cancelReservationLocked plan).sessions.size +
      ((engine.withSession plan r).cancelReservationLocked plan).reservedNew =
        engine.sessions.size + engine.reservedNew := by
  have hreservedNew : ((engine.withSession plan r).cancelReservationLocked plan).reservedNew =
      engine.reservedNew - if r.isNewSession then 1 else 0 := reservedNew_erase hr
  have hsessions : ((engine.withSession plan r).cancelReservationLocked plan).sessions =
      engine.sessions.set plan.sessionId r.nextSession := rfl
  rw [hreservedNew, hsessions, hnew]
  cases hsession : engine.sessions.get? plan.sessionId with
  | none =>
    rw [Dict.size_set_of_none hsession]
    simp only [Option.isNone_none, if_true]
    omega
  | some session =>
    rw [Dict.size_set_of_some hsession]
    simp

/-- The engine with the next session in its place and the reservation gone, and the event noted. -/
theorem Inv.committing (h : Inv s) {plan : EnginePlan} {r : Reservation}
    (hr : s.engine.reservations.get? plan.token = some r) (hplan : r.plan = plan)
    (howner : r.owner = n) {mail : MailCapture}
    (hmessages : mail.messages = s.mail.messages ++ plan.result.mail.toList)
    (hbounded : mail.messages.length + mail.reservations.size ≤ maxMailMessages)
    (htokens : ∀ token m, mail.reservations.get? token = some m →
      m.token = token ∧ token < mail.nextToken)
    (hmails : ∀ token m, m.owner ≠ n →
      (mail.reservations.get? token = some m ↔ s.mail.reservations.get? token = some m)) :
    let s' : Stores := ⟨(s.engine.withSession plan r).cancelReservationLocked plan, mail,
      s.history ++ [Event.committed n plan]⟩
    Inv s' ∧ Guarantee n s s' ∧ ∀ token r', s'.engine.reservations.get? token = some r' ↔
      token ≠ plan.token ∧ s.engine.reservations.get? token = some r' := by
  subst hplan
  have hfollows := h.follows r.plan.token r hr
  have hget : ∀ token r', (s.engine.reservations.erase r.plan.token).get? token = some r' ↔
      token ≠ r.plan.token ∧ s.engine.reservations.get? token = some r' := by
    intro token r'
    rw [Dict.get?_erase]
    split_ifs with htoken
    · exact ⟨fun he => (by cases he), fun he => absurd htoken he.1⟩
    · exact ⟨fun he => ⟨htoken, he⟩, fun he => he.2⟩
  have hapart : ∀ token r', token ≠ r.plan.token → s.engine.reservations.get? token = some r' →
      r'.plan.sessionId ≠ r.plan.sessionId := fun token r' htoken hr' he =>
    htoken (h.distinct token r' r.plan.token r hr' hr he)
  refine ⟨{
    replayed := fun k => ?_
    captured := ?_
    sessions_bounded := ?_
    mails_bounded := hbounded
    tokens := fun token r' hr' => h.tokens token r' ((hget token r').mp hr').2
    reserved := fun k => ?_
    distinct := fun token r₁ token' r₂ hr₁ hr₂ =>
      h.distinct token r₁ token' r₂ ((hget token r₁).mp hr₁).2 ((hget token' r₂).mp hr₂).2
    follows := fun token r' hr' => ?_
    mailTokens := htokens }, fun m hm => ⟨fun token r' hr' => ?_, fun token m' hm' => ?_, ?_⟩, hget⟩
  · have hreplayed := h.replayed k
    simp only [Engine.cancelReservationLocked, Engine.withSession, filterMap_planFor_committed,
      Dict.get?_set]
    by_cases hk : k = r.plan.sessionId
    · subst hk
      rw [if_pos rfl, if_pos rfl]
      exact hfollows.replays hreplayed
    · rw [if_neg hk, if_neg (Ne.symm hk), List.append_nil]
      exact hreplayed
  · have hnoted : (s.history ++ [Event.committed n r.plan]).filterMap Event.mail =
        s.history.filterMap Event.mail ++ r.plan.result.mail.toList := by
      rw [List.filterMap_append]
      congr 1
    rw [hnoted, ← h.captured]
    exact hmessages
  · obtain ⟨-, -, -, -, -, -, -, -, -, hnew⟩ := hfollows
    have hsize := size_committed s.engine hr hnew
    have hbound := h.sessions_bounded
    simp only
    omega
  · simp only [Engine.cancelReservationLocked, Engine.withSession, Finset.mem_erase, h.reserved]
    constructor
    · rintro ⟨hk, token, r', hr', rfl⟩
      refine ⟨token, r', (hget token r').mpr ⟨?_, hr'⟩, rfl⟩
      rintro rfl
      obtain rfl := Option.some.inj (hr.symm.trans hr')
      exact hk rfl
    · rintro ⟨token, r', hr', rfl⟩
      obtain ⟨htoken, hr'⟩ := (hget token r').mp hr'
      exact ⟨hapart token r' htoken hr', token, r', hr', rfl⟩
  · -- the session of another reservation is another one
    obtain ⟨htoken, hr'⟩ := (hget token r').mp hr'
    have hsession : (s.engine.sessions.set r.plan.sessionId r.nextSession).get? r'.plan.sessionId =
        s.engine.sessions.get? r'.plan.sessionId := Dict.get?_set_ne _ _ (hapart token r' htoken hr')
    simp only [Engine.cancelReservationLocked, Engine.withSession, hsession]
    exact h.follows token r' hr'
  · refine (hget token r').trans ⟨fun he => he.2, fun he => ⟨?_, he⟩⟩
    rintro rfl
    obtain rfl := Option.some.inj (hr.symm.trans he)
    exact hm (hr'.symm.trans howner)
  · exact hmails token m' fun he => hm (hm'.symm.trans he)
  · have hother : ¬n = m := fun he => hm he.symm
    simp [List.filter_append, Event.owner, hother]

end MyCogni.Simulator
