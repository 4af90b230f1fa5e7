import MyCogni.Simulator.Delivery

/-! Any number of deliveries on one engine and one mail capture, whoever has the turn and whatever
fails: the stores are those after the commits that were made, and each delivery ends in one of a few
ways. -/

namespace MyCogni.Simulator

open LocalWebSimulator

variable {s : Stores} {n : Nat} {lib : Library}

/-! ### The ends of a delivery -/

/-- A response that reports an error. -/
def IsRefusal (response : WebResponse) : Prop :=
  ∃ statusCode code, 400 ≤ statusCode ∧ response = errorResponse statusCode code

/-- The response to a plan is within the limits, and its place for a mail is there if it needs one. -/
structure Answers (plan : EnginePlan) (mail? : Option MailReservation) (response : WebResponse) :
    Prop where
  respond : respond plan = .ok response
  mail : plan.result.mail = mail?.map (·.message)

/-- How a delivery ends, with what it has done: it has raised and done nothing, it has given the
writer an error response, or it has committed its plan and then given the writer the response to it.
A writer that raises changes nothing but what the delivery raises. -/
inductive Delivered (n : Nat) : Except Raised WebResponse → List Event → Prop where
  | raised (fault : Fault) : Delivered n (.error (.fault fault)) []
  | refused {response : WebResponse} {wire : Bytes} (hrefusal : IsRefusal response)
      (hwire : wireResponse response = .ok wire) : Delivered n (.ok response) [.written n wire]
  | refusedUnknown {response : WebResponse} {wire : Bytes} (hrefusal : IsRefusal response)
      (hwire : wireResponse response = .ok wire) :
      Delivered n (.error .unknownDelivery) [.writerRaised n wire]
  | answered {plan : EnginePlan} {response : WebResponse} {wire : Bytes}
      (hresponse : respond plan = .ok response) (hwire : wireResponse response = .ok wire) :
      Delivered n (.ok response) [.committed n plan, .written n wire]
  | answeredUnknown {plan : EnginePlan} {response : WebResponse} {wire : Bytes}
      (hresponse : respond plan = .ok response) (hwire : wireResponse response = .ok wire) :
      Delivered n (.error .unknownDelivery) [.committed n plan, .writerRaised n wire]

/-! ### One delivery -/

section Delivery
variable {plan? : Option EnginePlan} {mail? : Option MailReservation} {events : List Event}

theorem computing_holds {α : Type} (result : Except Fault α) (h : Mine n plan? mail? events s) :
    (computing n result).Holds (exec lib) (discipline n)
      (fun r s => Mine n plan? mail? events s ∧ ∀ a, r = .ok a → result = .ok a) s := by
  unfold computing
  rw [Program.lift_bind]
  refine holds_compute h fun s' reply hmine => ⟨hmine, fun a ha => ?_⟩
  obtain ⟨-, -, hresult⟩ := bind_eq_ok_iff.mp ha
  exact hresult

theorem cancel_holds (h : Mine n plan? mail? events s) :
    (cancel n plan? mail?).Holds (exec lib) (discipline n)
      (fun r s => r = .ok () ∧ Mine n none none events s) s := by
  unfold cancel
  -- the mail's reservation goes first
  cases mail? with
  | none =>
    cases plan? with
    | none => exact ⟨rfl, h⟩
    | some plan => exact holds_rollback h fun s' hmine => ⟨rfl, hmine⟩
  | some m =>
    refine holds_rollbackMail h fun s' hmine => ?_
    cases plan? with
    | none => exact ⟨rfl, hmine⟩
    | some plan => exact holds_rollback hmine fun s'' hmine => ⟨rfl, hmine⟩

theorem tryPrepare_holds (route : Route) (h : Mine n none none [] s) :
    (tryPrepare n route).Holds (exec lib) (discipline n)
      (fun r s => Mine n r.1 r.2.1 [] s ∧ ∀ response, r.2.2 = .ok response →
        ∃ plan, r.1 = some plan ∧ Answers plan r.2.1 response) s := by
  unfold tryPrepare
  split
  · next scenario expected hscenario hexpected =>
    rw [Program.lift_bind]
    refine holds_reserve h (fun s₁ plan h₁ => ?_) fun s₁ fault h₁ => ⟨h₁, fun _ he => (nomatch he)⟩
    dsimp only
    cases hmail : plan.result.mail with
    | none =>
      refine Program.Holds.bind ?_
      refine Program.Holds.bind (Program.Holds.mono (computing_holds _ h₁) fun r s₂ h₂ => ?_)
      exact ⟨h₂.1, fun response hr => ⟨plan, rfl, h₂.2 response hr, hmail⟩⟩
    | some message =>
      refine Program.Holds.bind (holds_reserveMail h₁ (fun s₂ m hm h₂ => ?_)
        fun s₂ fault h₂ => ⟨h₂, fun _ he => (nomatch he)⟩)
      change Program.Holds (exec lib) (discipline n)
        (computing n (respond plan) >>= fun response => pure (some plan, some m, response)) _ s₂
      refine Program.Holds.bind (Program.Holds.mono (computing_holds _ h₂) fun r s₃ h₃ => ?_)
      exact ⟨h₃.1, fun response hr => ⟨plan, rfl, h₃.2 response hr, by rw [hmail, ← hm]; rfl⟩⟩
  · exact ⟨h, fun _ he => (nomatch he)⟩

theorem isRefusal_of_screen {request : WebRequest} {expectedAuthority : Text} {response : WebResponse}
    (h : screen lib request expectedAuthority = .ok (.error response)) : IsRefusal response := by
  unfold screen at h
  split at h
  · next refused henvelope =>
    obtain rfl : refused = response := by simpa [pure, Except.pure] using h
    unfold validateEnvelope at henvelope
    simp only [bind_eq_error_iff, ensure_eq_error, ensure_eq_ok, exists_const] at henvelope
    rcases henvelope with ⟨-, rfl⟩ | ⟨-, ⟨-, rfl⟩ | ⟨-, ⟨-, rfl⟩ | ⟨-, ⟨-, rfl⟩ | ⟨-, henvelope⟩⟩⟩⟩
    iterate 4 exact ⟨_, _, by decide, rfl⟩
    split at henvelope
    · simp only [bind_eq_error_iff, ensure_eq_error, ensure_eq_ok, exists_const] at henvelope
      rcases henvelope with ⟨-, rfl⟩ | ⟨-, ⟨-, rfl⟩ | ⟨-, ⟨-, rfl⟩ | ⟨-, -, rfl⟩⟩⟩ <;>
        exact ⟨_, _, by decide, rfl⟩
    · obtain rfl := Except.error.inj henvelope
      exact ⟨_, _, by decide, rfl⟩
  · have hrefused : ∀ {statusCode : Nat} {code : String}, 400 ≤ statusCode →
        (pure (.error (errorResponse statusCode code)) : Except Fault (Except WebResponse Route)) =
          .ok (.error response) → IsRefusal response := by
      intro statusCode code hle he
      exact ⟨statusCode, code, hle, (Except.error.inj (Except.ok.inj he)).symm⟩
    split_ifs at h
    · exact hrefused (by decide) h
    · rw [bind_eq_ok_iff] at h
      obtain ⟨parsed, -, h⟩ := h
      dsimp only at h
      split_ifs at h
      · exact hrefused (by decide) h
      · exact hrefused (by decide) h
      · split at h
        · exact hrefused (by decide) h
        · cases h

theorem isRefusal_response (fault : Fault) : IsRefusal fault.response := by
  cases fault <;> exact ⟨_, _, by decide, rfl⟩

/-- A preparation that returns has a plan whose response it is, or an error response and no plan. -/
theorem prepare_holds (request : WebRequest) (expectedAuthority : Text)
    (h : Mine n none none [] s) :
    (prepare n lib request expectedAuthority).Holds (exec lib) (discipline n)
      (fun r s => match r with
        | .error _ => Mine n none none [] s
        | .ok (response, plan?, mail?) => Mine n plan? mail? [] s ∧
          ((plan? = none ∧ mail? = none ∧ IsRefusal response) ∨ ∃ plan, plan? = some plan ∧
            Answers plan mail? response)) s := by
  unfold prepare
  refine Program.Holds.bind (Program.Holds.mono (computing_holds _ h) fun r s₁ h₁ => ?_)
  rcases r with fault | response | route
  · exact h₁.1
  · exact ⟨h₁.1, Or.inl ⟨rfl, rfl, isRefusal_of_screen (h₁.2 _ rfl)⟩⟩
  · refine Program.Holds.bind (Program.Holds.mono (tryPrepare_holds route h₁.1) fun r s₂ h₂ => ?_)
    rcases r with ⟨plan?, mail?, fault | response⟩
    · refine Program.Holds.bind (Program.Holds.mono (cancel_holds h₂.1) fun r s₃ h₃ => ?_)
      obtain ⟨rfl, h₃⟩ := h₃
      exact ⟨h₃, Or.inl ⟨rfl, rfl, isRefusal_response fault⟩⟩
    · exact ⟨h₂.1, Or.inr (h₂.2 response rfl)⟩

theorem deliver_holds (request : WebRequest) (expectedAuthority : Text) (h : Mine n none none [] s) :
    (deliver n lib request expectedAuthority).Holds (exec lib) (discipline n)
      (fun r s => ∃ events, Mine n none none events s ∧ Delivered n r events) s := by
  unfold deliver
  refine Program.Holds.bind (Program.Holds.mono (prepare_holds _ _ h) fun r s₁ h₁ => ?_)
  rcases r with fault | ⟨response, plan?, mail?⟩
  · exact ⟨[], h₁, .raised fault⟩
  · obtain ⟨h₁, hprepared⟩ := h₁
    refine Program.Holds.bind (Program.Holds.mono (computing_holds _ h₁) fun r s₂ h₂ => ?_)
    rcases r with fault | wire
    · refine Program.Holds.bind (Program.Holds.mono (cancel_holds h₂.1) fun r s₃ h₃ => ?_)
      obtain ⟨rfl, h₃⟩ := h₃
      exact ⟨[], h₃, .raised fault⟩
    · obtain ⟨h₂, hwire⟩ := h₂
      rcases hprepared with ⟨rfl, rfl, hrefusal⟩ | ⟨plan, rfl, hanswers⟩
      · -- a refusal commits nothing
        refine Program.Holds.bind (Program.Holds.bind ?_)
        refine holds_write h₂ (fun s₃ h₃ => ?_) fun s₃ fault h₃ => ?_
        · exact ⟨_, h₃, .refused hrefusal (hwire _ rfl)⟩
        · exact ⟨_, h₃, .refusedUnknown hrefusal (hwire _ rfl)⟩
      · refine Program.Holds.bind (holds_commitInternal h₂ hanswers.mail (fun s₃ h₃ => ?_)
          fun s₃ fault h₃ => ⟨[], h₃, .raised fault⟩)
        refine Program.Holds.bind (holds_write h₃ (fun s₄ h₄ => ?_) fun s₄ fault h₄ => ?_)
        · exact ⟨_, h₄, .answered hanswers.respond (hwire _ rfl)⟩
        · exact ⟨_, h₄, .answeredUnknown hanswers.respond (hwire _ rfl)⟩

end Delivery

/-! ### Many deliveries -/

/-- What a delivery is asked. -/
structure Input where
  request : WebRequest
  expectedAuthority : Text

abbrev Deliveries : Type := Pool Op Reply (Except Raised WebResponse) Stores

/-- A delivery starts, or one makes its next call. -/
inductive Move where
  | deliver (input : Input)
  | act (n : Nat) (fate : Fate)

def Move.turn : Move → Turn Input Fate
  | .deliver input => .start input
  | .act n fate => .act n fate

def program (lib : Library) (input : Input) (n : Nat) : Act (Except Raised WebResponse) :=
  deliver n lib input.request input.expectedAuthority

def step (lib : Library) (pool : Deliveries) (move : Move) : Unit × Deliveries :=
  Pool.step (exec lib) (program lib) pool move.turn

/-- An engine with this catalog and a mail capture, both new. -/
def Stores.start (catalog : Catalog) : Stores := { engine := { scenarios := catalog } }

def Deliveries.start (catalog : Catalog) : Deliveries := { world := Stores.start catalog }

/-- What is true of a delivery that has ended. -/
def Ended (n : Nat) (result : Except Raised WebResponse) (s : Stores) : Prop :=
  ∃ events, Mine n none none events s ∧ Delivered n result events

theorem agree : Pool.Agree discipline Ended where
  shared _ _ _ h := h
  safe m n _ _ hne h := h n (Ne.symm hne)
  stable n result s s' hrely _ h := by
    obtain ⟨events, hmine, hdelivered⟩ := h
    exact ⟨events, hmine.same hrely, hdelivered⟩

theorem inv_start (catalog : Catalog) : Inv (Stores.start catalog) where
  replayed _ := rfl
  captured := rfl
  sessions_bounded := (by decide : (0 : Int) + 0 ≤ 64)
  mails_bounded := Nat.zero_le _
  tokens _ _ h := nomatch h
  reserved k := by
    constructor
    · intro h
      exact absurd h (Finset.notMem_empty k)
    · rintro ⟨token, r, hr, -⟩
      exact nomatch hr
  distinct _ _ _ _ h := nomatch h
  follows _ _ h := nomatch h
  mailTokens _ _ h := nomatch h

theorem mine_start (catalog : Catalog) (n : Nat) : Mine n none none [] (Stores.start catalog) :=
  ⟨fun _ _ h => (nomatch h), fun _ h => (nomatch h), fun _ _ h => (nomatch h), fun _ h => (nomatch h),
    rfl⟩

/-- Every reservation belongs to a delivery that was started, and no delivery dies. -/
structure Owned (pool : Deliveries) : Prop where
  plans : ∀ token r, pool.world.engine.reservations.get? token = some r →
    r.owner < pool.programs.length
  mails : ∀ token m, pool.world.mail.reservations.get? token = some m →
    m.owner < pool.programs.length
  alive : ∀ p ∈ pool.programs, p ≠ .dead

/-- The deliveries are as they should be. -/
def Orderly (lib : Library) (pool : Deliveries) : Prop :=
  Pool.Ready (exec lib) (program lib) discipline Ended pool ∧ Owned pool

theorem orderly_start (lib : Library) (catalog : Catalog) : Orderly lib (Deliveries.start catalog) := by
  refine ⟨⟨⟨fun _ => inv_start catalog, fun n p hp => nomatch hp⟩, fun n _ input => ?_⟩,
    fun _ _ h => (nomatch h), fun _ _ h => (nomatch h), fun _ h => (nomatch h)⟩
  exact deliver_holds _ _ (mine_start catalog n)

theorem started_ne_dead {α : Type} (p : Act α) : p.started ≠ .dead := by
  cases p <;> exact fun h => nomatch h

theorem Owned.step {pool : Deliveries} (hready : Pool.Ready (exec lib) (program lib) discipline Ended pool)
    (h : Owned pool) (move : Move) : Owned (step lib pool move).2 := by
  rcases Pool.step_cases (exec lib) (program lib) pool move.turn with ⟨input, -, hs⟩ |
    ⟨n, fate, o, next, -, hn, hs⟩ | ⟨n, o, next, ht, -, -⟩ | hs
  · rw [MyCogni.Simulator.step, hs]
    refine ⟨fun token r hr => ?_, fun token m hm => ?_, fun p hp => ?_⟩
    · rw [List.length_append]
      exact Nat.lt_add_right _ (h.plans token r hr)
    · rw [List.length_append]
      exact Nat.lt_add_right _ (h.mails token m hm)
    · rcases List.mem_append.mp hp with hp | hp
      · exact h.alive p hp
      · obtain rfl := List.mem_singleton.mp hp
        exact started_ne_dead _
  · have hlength : n < pool.programs.length := (List.getElem?_eq_some_iff.mp hn).1
    have hallowed : (discipline n).allowed o fate pool.world := trivial
    have hmove := (hready.1.move hn hallowed).1
    rw [MyCogni.Simulator.step, hs]
    refine ⟨fun token r hr => ?_, fun token m hm => ?_, fun p hp => ?_⟩
    · rw [List.length_set]
      by_cases howner : r.owner = n
      · rw [howner]
        exact hlength
      · exact h.plans token r (((hmove r.owner howner).plans token r rfl).mp hr)
    · rw [List.length_set]
      by_cases howner : m.owner = n
      · rw [howner]
        exact hlength
      · exact h.mails token m (((hmove m.owner howner).mails token m rfl).mp hm)
    · rcases List.mem_or_eq_of_mem_set hp with hp | rfl
      · exact h.alive p hp
      · exact started_ne_dead _
  · cases move <;> exact nomatch ht
  · rw [MyCogni.Simulator.step, hs]
    exact h

theorem Orderly.step {pool : Deliveries} (h : Orderly lib pool) (move : Move) :
    Orderly lib (step lib pool move).2 := by
  refine ⟨(h.1.step agree move.turn).resolve_right ?_, h.2.step h.1 move⟩
  -- every fate is allowed
  cases move with
  | deliver input => exact id
  | act n fate =>
    rintro ⟨o, next, -, hnot⟩
    exact hnot trivial

theorem orderly_run (lib : Library) (catalog : Catalog) (moves : List Move) :
    Orderly lib (run (step lib) (Deliveries.start catalog) moves) :=
  have hstep : ∀ pool move, Orderly lib pool → Orderly lib (step lib pool move).2 :=
    fun _ move h => Orderly.step h move
  run_invariant hstep moves (orderly_start lib catalog)

/-- Where no delivery is in progress, no reservation is left. -/
theorem Orderly.quiet {pool : Deliveries} (h : Orderly lib pool) (hquiet : pool.Quiet) :
    pool.world.engine.reservations = .empty ∧ pool.world.engine.reservedSessions = ∅ ∧
      pool.world.mail.reservations = .empty := by
  obtain ⟨⟨⟨hinv, hsound⟩, -⟩, howned⟩ := h
  have hended : ∀ n < pool.programs.length, ∃ events, Mine n none none events pool.world := by
    intro n hn
    have hp : pool.programs[n]? = some pool.programs[n] := List.getElem?_eq_getElem hn
    have hmem : pool.programs[n] ∈ pool.programs := List.getElem_mem hn
    have hactive := hquiet _ hmem
    have halive := howned.alive _ hmem
    have hsoundAt := hsound n _ hp
    generalize pool.programs[n] = p at hactive halive hsoundAt
    cases p with
    | calling o next => exact nomatch hactive
    | ended result =>
      obtain ⟨events, hmine, -⟩ := hsoundAt
      exact ⟨events, hmine⟩
    | dead => exact absurd rfl halive
  have hplans : ∀ token, pool.world.engine.reservations.get? token = none := by
    intro token
    refine Option.eq_none_iff_forall_ne_some.mpr fun r hr => ?_
    obtain ⟨events, hmine⟩ := hended r.owner (howned.plans token r hr)
    exact nomatch hmine.plans token r hr rfl
  have hmails : ∀ token, pool.world.mail.reservations.get? token = none := by
    intro token
    refine Option.eq_none_iff_forall_ne_some.mpr fun m hm => ?_
    obtain ⟨events, hmine⟩ := hended m.owner (howned.mails token m hm)
    exact nomatch hmine.mails token m hm rfl
  have hempty : ∀ {ν : Type} {d : Dict Nat ν}, (∀ k, d.get? k = none) → d = .empty := by
    intro ν d hd
    refine Dict.eq_empty_of_size ?_
    have hsize : d.size = (Dict.empty : Dict Nat ν).size :=
      size_eq_of_get? fun k => by rw [hd k]; rfl
    exact hsize
  refine ⟨hempty hplans, Finset.eq_empty_of_forall_notMem fun k hk => ?_, hempty hmails⟩
  obtain ⟨token, r, hr, -⟩ := ((hinv 0).reserved k).mp hk
  exact nomatch (hplans token).symm.trans hr

/-- In every run the sessions and the mails are those of the commits that were made, within their
limits; a delivery that has ended has raised and done nothing, or has given the writer an error response
and done nothing else, or has committed its plan once and then called the writer with the response to it;
and where no delivery is in progress, no reservation is left. -/
theorem deliveries_atomic (lib : Library) (catalog : Catalog) (moves : List Move) :
    let pool := run (step lib) (Deliveries.start catalog) moves
    Accounted pool.world ∧
      (∀ sessionId session, pool.world.engine.sessions.get? sessionId = some session →
        session.requestCount ≤ maxRequestsPerSession) ∧
      (∀ n result, pool.programs[n]? = some (.ended result) →
        Delivered n result (pool.world.history.filter (·.owner = n))) ∧
      (pool.Quiet → pool.world.engine.reservations = .empty ∧
        pool.world.engine.reservedSessions = ∅ ∧ pool.world.mail.reservations = .empty) := by
  intro pool
  have horderly : Orderly lib pool := orderly_run lib catalog moves
  have hinv : Inv pool.world := horderly.1.1.1 0
  refine ⟨hinv.toAccounted, fun sessionId session hsession => ?_, fun n result hn => ?_,
    horderly.quiet⟩
  · have hreplayed := hinv.replayed sessionId
    rw [hsession] at hreplayed
    have hreplays : Replays _ session _ := hreplayed
    rw [hreplays.requestCount]
    exact hreplays.le
  · obtain ⟨events, hmine, hdelivered⟩ := horderly.1.1.2 n _ hn
    rw [hmine.events]
    exact hdelivered

/-! ### A renderer that raises -/

namespace Sample

def library : Library where
  checks := ⟨fun _ => .ok (), fun _ => .ok ()⟩
  timestamp t := (t.val : Int) / 1000000 - 62135596800

def authority : Text := "127.0.0.1".toList

def happyRequest : WebRequest where
  method := "GET".toList
  path := "/v1/scenarios/happy/sessions/web-happy/next/start".toList
  headers := [("Host".toList, authority), ("Origin".toList, "http://127.0.0.1".toList),
    ("Content-Length".toList, "0".toList)]

def calm : Fate := { instant := ⟨64029225600000000, by decide⟩ }

def raising : Fate := { calm with raised := some .other }

/-- The plan and the place for its mail are reserved, and the result is rendered next. -/
def beforeRender : List Move := [.deliver ⟨happyRequest, authority⟩, .act 0 calm, .act 0 calm, .act 0 calm]

/-- Both are rolled back, the error response is put on the wire, and the writer is called. -/
def afterRender : List Move := [.act 0 calm, .act 0 calm, .act 0 calm, .act 0 calm]

def Computes : Option Op → Bool
  | some (.compute _) => true
  | _ => false

/-- The renderer raises before the writer is called, and the writer is called with the error response. -/
theorem failed_render_written :
    Computes ((run (step library) (Deliveries.start defaultCatalog) beforeRender).next 0) = true ∧
      raising.raised = some .other ∧
      (run (step library) (Deliveries.start defaultCatalog)
        (beforeRender ++ .act 0 raising :: afterRender)).world.history =
          [.written 0 ((responseHead Fault.other.response "Internal Server Error".toList).encode ++
            Fault.other.response.body)] := by
  refine ⟨by decide +kernel, rfl, by decide +kernel⟩

end Sample

end MyCogni.Simulator
