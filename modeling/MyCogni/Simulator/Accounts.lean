import MyCogni.Simulator.Commit

/-! What is true of the two stores between any two calls: sessions and mails are those of the commits
that were made, in their order, every reservation goes on from the session as it is, and no limit is
passed. Every call of a delivery keeps this and leaves what belongs to other deliveries alone. -/

namespace MyCogni.Simulator

open Command

/-! ### Sessions and mails by their commits -/

/-- The plan that the event commits to the session. -/
def Event.planFor (sessionId : Text) : Event → Option EnginePlan
  | .committed _ plan => if plan.sessionId = sessionId then some plan else none
  | _ => none

/-- The mail that the event captures. -/
def Event.mail : Event → Option MailFixture
  | .committed _ plan => plan.result.mail
  | _ => none

/-- The session is where its scenario is after these plans: one for each of its first steps, in the
order of the script. -/
structure Replays (catalog : Catalog) (session : Session) (plans : List EnginePlan) : Prop where
  stepIndex : session.stepIndex = plans.length
  requestCount : session.requestCount = plans.length
  started : plans ≠ []
  steps : ∃ definition, catalog.get? session.scenario = some definition ∧
    session.state = stateAfter .start definition.steps plans.length ∧
    ∀ (k : Nat) (plan : EnginePlan), plans[k]? = some plan → ∃ (step : ScenarioStep) (instant : Datetime),
      definition.steps[k]? = some step ∧ plan.result = step.result session.scenario instant

/-- A session that is there replays its plans; where there is none there are no plans. -/
def Replayed (catalog : Catalog) (session? : Option Session) (plans : List EnginePlan) : Prop :=
  match session? with
  | none => plans = []
  | some session => Replays catalog session plans

/-- The books of the two stores. -/
structure Accounted (s : Stores) : Prop where
  replayed : ∀ sessionId, Replayed s.engine.scenarios (s.engine.sessions.get? sessionId)
    (s.history.filterMap (Event.planFor sessionId))
  captured : s.mail.messages = s.history.filterMap Event.mail
  sessions_bounded : s.engine.sessions.size + s.engine.reservedNew ≤ maxSessions
  mails_bounded : s.mail.messages.length + s.mail.reservations.size ≤ maxMailMessages

theorem Replays.le {catalog : Catalog} {session : Session} {plans : List EnginePlan}
    (h : Replays catalog session plans) : plans.length ≤ maxStepsPerScenario := by
  obtain ⟨definition, -, -, hsteps⟩ := h.steps
  obtain ⟨k, hk⟩ : ∃ k, plans.length = k + 1 :=
    Nat.exists_eq_succ_of_ne_zero (by simpa using h.started)
  obtain ⟨plan, hplan⟩ : ∃ plan, plans[k]? = some plan :=
    ⟨plans[k], List.getElem?_eq_getElem (by omega)⟩
  obtain ⟨step, -, hstep, -⟩ := hsteps k plan hplan
  have hlt : k < definition.steps.length := (List.getElem?_eq_some_iff.mp hstep).1
  have hle := definition.count.2
  omega

/-! ### Reservations -/

/-- What a reservation goes on from: the session as it is, or a new one. -/
def current (session? : Option Session) (scenario : ScenarioName) (nowSeconds : Int) : Session :=
  session?.getD ⟨scenario, .start, 0, 0, nowSeconds⟩

/-- The reservation is the next step of the session as it is. -/
def Follows (catalog : Catalog) (session? : Option Session) (r : Reservation) : Prop :=
  ∃ definition step instant nowSeconds,
    let scenario := r.plan.result.scenario
    let session := current session? scenario nowSeconds
    catalog.get? scenario = some definition ∧ session.scenario = scenario ∧
      definition.steps[session.stepIndex]? = some step ∧
      r.plan.result = step.result scenario instant ∧
      r.nextSession = ⟨scenario, step.toState, session.stepIndex + 1, session.requestCount + 1,
        nowSeconds⟩ ∧ r.isNewSession = session?.isNone

/-- A step that follows the session is committed to it. -/
theorem Follows.replays {catalog : Catalog} {session? : Option Session} {r : Reservation}
    {plans : List EnginePlan} (h : Follows catalog session? r)
    (hreplayed : Replayed catalog session? plans) :
    Replays catalog r.nextSession (plans ++ [r.plan]) := by
  obtain ⟨definition, step, instant, nowSeconds, hdefinition, hscenario, hstep, hresult, hnext, -⟩ := h
  have hcurrent : (current session? r.plan.result.scenario nowSeconds).stepIndex = plans.length ∧
      (current session? r.plan.result.scenario nowSeconds).requestCount = plans.length ∧
      ∀ (k : Nat) (plan : EnginePlan), plans[k]? = some plan →
        ∃ (step : ScenarioStep) (instant : Datetime), definition.steps[k]? = some step ∧
          plan.result = step.result r.plan.result.scenario instant := by
    cases session? with
    | none =>
      obtain rfl : plans = [] := hreplayed
      exact ⟨rfl, rfl, fun k plan hplan => nomatch hplan⟩
    | some session =>
      have hreplays : Replays catalog session plans := hreplayed
      obtain ⟨definition', hdefinition', -, hsteps⟩ := hreplays.steps
      have hname : session.scenario = r.plan.result.scenario := hscenario
      rw [hname] at hdefinition' hsteps
      obtain rfl := Option.some.inj (hdefinition.symm.trans hdefinition')
      exact ⟨hreplays.stepIndex, hreplays.requestCount, hsteps⟩
  obtain ⟨hindex, hcount, hsteps⟩ := hcurrent
  rw [hindex] at hstep hnext
  rw [hcount] at hnext
  have hlength : (plans ++ [r.plan]).length = plans.length + 1 := by simp
  refine ⟨?_, ?_, by simp, definition, ?_, ?_, fun k plan hplan => ?_⟩
  · rw [hnext, hlength]
  · rw [hnext, hlength]
  · rw [hnext]
    exact hdefinition
  · rw [hnext, hlength]
    exact (stateAfter_succ hstep).symm
  · rw [hnext]
    rcases getElem?_append_cases hplan with hplan | ⟨rfl, rfl⟩
    · exact hsteps k plan hplan
    · exact ⟨step, instant, hstep, hresult⟩

structure Inv (s : Stores) : Prop extends Accounted s where
  tokens : ∀ token r, s.engine.reservations.get? token = some r →
    r.plan.token = token ∧ token < s.engine.nextToken
  reserved : ∀ sessionId, sessionId ∈ s.engine.reservedSessions ↔
    ∃ token r, s.engine.reservations.get? token = some r ∧ r.plan.sessionId = sessionId
  distinct : ∀ token r token' r', s.engine.reservations.get? token = some r →
    s.engine.reservations.get? token' = some r' → r.plan.sessionId = r'.plan.sessionId →
    token = token'
  follows : ∀ token r, s.engine.reservations.get? token = some r →
    Follows s.engine.scenarios (s.engine.sessions.get? r.plan.sessionId) r
  mailTokens : ∀ token m, s.mail.reservations.get? token = some m →
    m.token = token ∧ token < s.mail.nextToken

theorem Inv.holds {s : Stores} (h : Inv s) {token : Nat} {r : Reservation}
    (hr : s.engine.reservations.get? token = some r) : s.engine.Holds r.plan := by
  have htoken := (h.tokens token r hr).1
  refine Engine.holds_iff.mpr ⟨⟨r, ?_, rfl⟩, (h.reserved _).mpr ⟨token, r, hr, rfl⟩⟩
  rw [htoken]
  exact hr

/-! ### What belongs to a delivery -/

/-- The stores keep what belongs to the delivery of this number: its reservations and its events. -/
structure Same (n : Nat) (s s' : Stores) : Prop where
  plans : ∀ token r, r.owner = n →
    (s'.engine.reservations.get? token = some r ↔ s.engine.reservations.get? token = some r)
  mails : ∀ token m, m.owner = n →
    (s'.mail.reservations.get? token = some m ↔ s.mail.reservations.get? token = some m)
  events : s'.history.filter (·.owner = n) = s.history.filter (·.owner = n)

theorem Same.refl (n : Nat) (s : Stores) : Same n s s :=
  ⟨fun _ _ _ => Iff.rfl, fun _ _ _ => Iff.rfl, rfl⟩

theorem Same.trans {n : Nat} {a b c : Stores} (h : Same n a b) (h' : Same n b c) : Same n a c :=
  ⟨fun t r hr => (h'.plans t r hr).trans (h.plans t r hr),
    fun t m hm => (h'.mails t m hm).trans (h.mails t m hm), h'.events.trans h.events⟩

/-- A call of the delivery of this number may change what belongs to it. -/
def Guarantee (n : Nat) (s s' : Stores) : Prop := ∀ m, m ≠ n → Same m s s'

/-- The plan is reserved for the delivery of this number. -/
def HasPlan (n : Nat) (s : Stores) (plan : EnginePlan) : Prop :=
  ∃ r, s.engine.reservations.get? plan.token = some r ∧ r.plan = plan ∧ r.owner = n

def HasMail (n : Nat) (s : Stores) (m : MailReservation) : Prop := s.mail.Holds m ∧ m.owner = n

/-- What has to be true where the delivery of this number makes a call. -/
def Requires (n : Nat) (o : Op) (s : Stores) : Prop :=
  o.owner = n ∧
    match o with
    | .rollbackMail _ m => HasMail n s m
    | .rollback _ plan => HasPlan n s plan
    | .commitInternal _ plan mail? => HasPlan n s plan ∧ (∀ m, mail? = some m → HasMail n s m) ∧
        plan.result.mail = mail?.map (·.message)
    | _ => True

/-! ### Changes of the stores -/

variable {s s' : Stores} {n : Nat}

theorem size_eq_of_get? {κ ν : Type} [DecidableEq κ] {d d' : Dict κ ν}
    (h : ∀ k, (d'.get? k).isSome = (d.get? k).isSome) : d'.size = d.size := by
  have hsum : d'.sum (fun _ => 1) = d.sum (fun _ => 1) := by
    refine Dict.sum_congr fun k => ?_
    have hk := h k
    cases hd : d.get? k <;> cases hd' : d'.get? k <;> simp [hd, hd'] at hk ⊢
  simpa [Dict.sum, Dict.size] using hsum

theorem size_erase_add {κ ν : Type} [DecidableEq κ] {d : Dict κ ν} {k : κ} {v : ν}
    (h : d.get? k = some v) : (d.erase k).size + 1 = d.size := by
  have hsum := Dict.sum_erase_of_some h fun _ => 1
  have herase : (d.erase k).sum (fun _ => 1) = ((d.erase k).size : Int) := by
    simp [Dict.sum, Dict.size]
  have hsize : d.sum (fun _ => 1) = (d.size : Int) := by simp [Dict.sum, Dict.size]
  omega

theorem reservedNew_erase {engine : Engine} {plan : EnginePlan} {r : Reservation}
    (hr : engine.reservations.get? plan.token = some r) :
    (engine.reservations.erase plan.token).sum (fun r => if r.isNewSession then 1 else 0) =
      engine.reservedNew - if r.isNewSession then 1 else 0 :=
  Dict.sum_erase_of_some hr _

/-- The engine without a reservation keeps what is known of it. -/
theorem Inv.without (h : Inv s) {plan : EnginePlan} (hplan : HasPlan n s plan) {engine : Engine}
    (hundone : Engine.Undone plan s.engine engine) :
    Inv { s with engine } ∧ Guarantee n s { s with engine } ∧
      ∀ token r, engine.reservations.get? token = some r ↔
        token ≠ plan.token ∧ s.engine.reservations.get? token = some r := by
  obtain ⟨r₀, hr₀, hr₀plan, howner⟩ := hplan
  have hget : ∀ token r, engine.reservations.get? token = some r ↔
      token ≠ plan.token ∧ s.engine.reservations.get? token = some r := by
    intro token r
    rw [hundone.reservations, Dict.get?_erase]
    split_ifs with htoken
    · exact ⟨fun he => (by cases he), fun he => absurd htoken he.1⟩
    · exact ⟨fun he => ⟨htoken, he⟩, fun he => he.2⟩
  have hsize : engine.sessions.size = s.engine.sessions.size :=
    size_eq_of_get? fun k => congrArg Option.isSome (hundone.sessions k)
  have hnew : engine.reservedNew ≤ s.engine.reservedNew := by
    rw [Engine.reservedNew, hundone.reservations, reservedNew_erase hr₀]
    split_ifs <;> omega
  refine ⟨{
    replayed := fun k => ?_
    captured := h.captured
    sessions_bounded := ?_
    mails_bounded := h.mails_bounded
    tokens := fun token r hr => ?_
    reserved := fun k => ?_
    distinct := fun token r token' r' hr hr' => ?_
    follows := fun token r hr => ?_
    mailTokens := h.mailTokens }, fun m hm => ⟨fun token r hr => ?_, fun _ _ _ => Iff.rfl, rfl⟩, hget⟩
  · have hreplayed := h.replayed k
    simp only [hundone.scenarios, hundone.sessions]
    exact hreplayed
  · have hbound := h.sessions_bounded
    simp only [hsize]
    omega
  · simp only [hundone.nextToken]
    exact h.tokens token r ((hget token r).mp hr).2
  · simp only [hundone.reservedSessions, Finset.mem_erase, h.reserved]
    constructor
    · rintro ⟨hk, token, r, hr, rfl⟩
      refine ⟨token, r, (hget token r).mpr ⟨?_, hr⟩, rfl⟩
      rintro rfl
      obtain rfl := Option.some.inj (hr₀.symm.trans hr)
      exact hk (congrArg _ hr₀plan)
    · rintro ⟨token, r, hr, rfl⟩
      obtain ⟨htoken, hr⟩ := (hget token r).mp hr
      refine ⟨fun hk => htoken ?_, token, r, hr, rfl⟩
      exact h.distinct token r plan.token r₀ hr hr₀ (hk.trans (congrArg _ hr₀plan.symm))
  · exact h.distinct token r token' r' ((hget token r).mp hr).2 ((hget token' r').mp hr').2
  · simp only [hundone.scenarios, hundone.sessions]
    exact h.follows token r ((hget token r).mp hr).2
  · rw [hget]
    refine ⟨fun he => he.2, fun he => ⟨?_, he⟩⟩
    rintro rfl
    obtain rfl := Option.some.inj (hr₀.symm.trans he)
    exact hm (hr.symm.trans howner)

theorem Engine.undone_cancel (plan : EnginePlan) (engine : Engine) :
    Engine.Undone plan engine (engine.cancelReservationLocked plan) :=
  ⟨rfl, fun _ => rfl, rfl, rfl, rfl⟩

/-- The mail capture without a place that was reserved. -/
theorem Inv.withoutMail (h : Inv s) {m : MailReservation} (hm : HasMail n s m) :
    let s' := { s with mail := s.mail.cancelReservationLocked m }
    Inv s' ∧ Guarantee n s s' ∧ ∀ token m', s'.mail.reservations.get? token = some m' ↔
      token ≠ m.token ∧ s.mail.reservations.get? token = some m' := by
  obtain ⟨hholds, howner⟩ := hm
  have hget : ∀ token m', (s.mail.reservations.erase m.token).get? token = some m' ↔
      token ≠ m.token ∧ s.mail.reservations.get? token = some m' := by
    intro token m'
    rw [Dict.get?_erase]
    split_ifs with htoken
    · exact ⟨fun he => (by cases he), fun he => absurd htoken he.1⟩
    · exact ⟨fun he => ⟨htoken, he⟩, fun he => he.2⟩
  have hsize : (s.mail.reservations.erase m.token).size + 1 = s.mail.reservations.size :=
    size_erase_add hholds
  refine ⟨{ h with
    mails_bounded := ?_
    mailTokens := fun token m' hm' => h.mailTokens token m' ((hget token m').mp hm').2 },
    fun k hk => ⟨fun _ _ _ => Iff.rfl, fun token m' hm' => ?_, rfl⟩, hget⟩
  · have hbound := h.mails_bounded
    simp only [MailCapture.cancelReservationLocked]
    omega
  · refine (hget token m').trans ⟨fun he => he.2, fun he => ⟨?_, he⟩⟩
    rintro rfl
    obtain rfl := Option.some.inj (hholds.symm.trans he)
    exact hk (hm'.symm.trans howner)

end MyCogni.Simulator
