import MyCogni.Keys.Composition

/-! Refused requests and the keys that exist. The provider counts every preparation of the process,
the catalog every reservation; a request that the catalog would refuse is counted by the provider
first, and the request after the last count latches the catalog. -/

namespace MyCogni.Keys
open Auth Command

/-! ### Requests -/

/-- A request to a composed service, when nothing fails. -/
inductive Request where
  | create (binding : ProfileKeyBinding) (nonce : Nonce) (id : OpaqueId)
      (dek : Provider.ProfileDek)
  | openKey (binding : ProfileKeyBinding)
deriving DecidableEq

def Request.event : Request → Event
  | .create binding nonce id dek => .creates binding (steady nonce id dek)
  | .openKey binding => .opens binding {}

/-- The nonce and the identifier of the request have not been drawn before. -/
def Request.Fresh (n : Node) : Request → Prop
  | .create _ nonce id _ =>
    (∀ w, n.wrap = some w → Healthy.Undrawn w nonce) ∧
      ∀ r ∈ n.durable.reservations, r.nonce ≠ nonce ∧ r.reservationId ≠ id
  | .openKey _ => True

/-- A key that is asked for finds the counter of the process below its limit. -/
def Request.Counted (n : Node) : Request → Prop
  | .create binding .. => ∀ row, n.durable.catalog = some row → row.identity.Covers binding →
    ∀ w, n.wrap = some w → w.count < w.limit
  | .openKey _ => True

/-- A key that is taken, or beyond the limit, is refused as such, and the disk stays as it is. -/
def Request.Refused (key : Bytes) (n : Node) : Request → Prop
  | .create binding nonce id dek => ∀ row, n.durable.catalog = some row →
    row.identity.Covers binding →
      (¬n.durable.Vacant binding ∨ row.identity.usageLimit ≤ row.usageReserved) →
        ((advance key n (Request.create binding nonce id dek).event).1 =
            .error (catalogError .duplicateProfileKey) ∨
          (advance key n (Request.create binding nonce id dek).event).1 =
            .error (catalogError .usageLimit)) ∧
          (advance key n (Request.create binding nonce id dek).event).2.durable = n.durable
  | .openKey _ => True

/-- The catalog is active, and every key on the disk opens to the material it was made from. -/
def Stands (key : Bytes) (n : Node) : Prop :=
  n.durable.state = some .active ∧ ∀ k ∈ n.durable.wrapped, ∃ record e,
    Stores n.durable k record ∧ e ∈ n.encryptions ∧ e.Wraps key record ∧
      (advance key n (.opens record.binding {})).1 = .ok (.material e.plaintext)

section Step
variable {key : Bytes} {n : Node} {p : Provider} {w : WrapState} {row : CatalogRow}
  {b : ProfileKeyBinding} {nonce : Nonce} {id : OpaqueId} {dek : Provider.ProfileDek}

theorem advance_creates (i : CreateInput) {r : Except Fault WrappedProfileKey} {n' : Node}
    (h : KeyCatalogService.createProfileKey key b i n = (r, n')) :
    advance key n (.creates b i) = (r.map .wrapped, n') := by
  simp only [advance, serve, bind, pure, h]
  rcases r with e | a <;> rfl

theorem advance_opens (i : OpenInput) {r : Except Fault Bytes} {n' : Node}
    (h : KeyCatalogService.openProfileKey key b i n = (r, n')) :
    advance key n (.opens b i) = (r.map .material, n') := by
  simp only [advance, serve, bind, pure, h]
  rcases r with e | a <;> rfl

/-- How a request for a key ends in a healthy process. -/
theorem create_cases (h : Healthy key n p w row)
    (hfresh : (Request.create b nonce id dek).Fresh n)
    (hcounted : (Request.create b nonce id dek).Counted n) :
    (¬row.identity.Covers b ∧ advance key n (.creates b (steady nonce id dek)) =
      (.error (catalogError .identityMismatch), n)) ∨
    (row.identity.Covers b ∧ (¬n.durable.Vacant b ∨ row.identity.usageLimit ≤ row.usageReserved) ∧
      ∃ code, (code = .duplicateProfileKey ∨ code = .usageLimit) ∧
        advance key n (.creates b (steady nonce id dek)) =
          (.error (catalogError code), { n with wrap := some (Healthy.drawn w nonce) })) ∨
    (n.durable.Vacant b ∧ row.usageReserved < row.identity.usageLimit ∧
      ∃ row', Healthy key (advance key n (.creates b (steady nonce id dek))).2 p
        (Healthy.drawn w nonce) row') := by
  obtain ⟨hnonce, hrows⟩ := hfresh
  have hnonce := hnonce w h.wrap
  by_cases hcovers : row.identity.Covers b
  · have hcount := hcounted row h.catalog hcovers w h.wrap
    have hcovers' : p.identity.Covers b := by
      rw [← h.identity]
      exact hcovers
    by_cases hvacant : n.durable.Vacant b
    · by_cases hroom : row.usageReserved < row.identity.usageLimit
      · have ha : Admissible n.durable ⟨b, nonce⟩ id :=
          ⟨hvacant, fun r hr => (hrows r hr).1, fun r hr => (hrows r hr).2⟩
        have hcreate : advance key n (.creates b (steady nonce id dek)) = (.ok _, _) :=
          advance_creates _ (h.create hcovers' hcount hnonce ha hroom)
        have hcreated := @Healthy.created_healthy key n p w row b nonce id dek h hcovers' hcount hnonce
          ha hroom
        rw [hcreate]
        exact .inr (.inr ⟨hvacant, hroom, _, hcreated⟩)
      · refine .inr (.inl ⟨hcovers, .inr (Nat.le_of_not_lt hroom), _, .inr rfl, ?_⟩)
        exact advance_creates _ (h.create_exhausted hcovers' hcount hnonce hvacant
          (fun r hr => (hrows r hr).1) hroom)
    · refine .inr (.inl ⟨hcovers, .inl hvacant, _, .inl rfl, ?_⟩)
      exact advance_creates _ (h.create_duplicate hcovers' hcount hnonce hvacant)
  · refine .inl ⟨hcovers, advance_creates _ (h.create_foreign ?_)⟩
    rw [← h.identity]
    exact hcovers

/-- The step: a request leaves a healthy process healthy. -/
theorem request_healthy {r : Request} (h : Healthy key n p w row) (hfresh : r.Fresh n)
    (hcounted : r.Counted n) : ∃ w' row', Healthy key (advance key n r.event).2 p w' row' := by
  cases r with
  | create b nonce id dek =>
    rcases create_cases h hfresh hcounted with ⟨-, heq⟩ | ⟨-, -, code, -, heq⟩ | ⟨-, -, row', hn⟩
    · refine ⟨w, row, ?_⟩
      rw [Request.event, heq]
      exact h
    · rw [Request.event, heq]
      exact ⟨_, row, h.draw (hfresh.1 w h.wrap)⟩
    · exact ⟨_, row', hn⟩
  | openKey b =>
    refine ⟨w, row, ?_⟩
    have hstate : (advance key n (.opens b {})).2 = n := by
      rw [advance_opens {} (Prod.mk.eta.symm : KeyCatalogService.openProfileKey key b {} n = _)]
      exact h.openKey_state b
    rw [Request.event, hstate]
    exact h

theorem request_refused {r : Request} (h : Healthy key n p w row) (hfresh : r.Fresh n)
    (hcounted : r.Counted n) : r.Refused key n := by
  cases r with
  | openKey b => trivial
  | create b nonce id dek =>
    intro row' hcatalog hcovers hrefuse
    cases h.catalog.symm.trans hcatalog
    rcases create_cases h hfresh hcounted with ⟨hforeign, -⟩ | ⟨-, -, code, hcode, heq⟩ |
      ⟨hvacant, hroom, -⟩
    · exact (hforeign hcovers).elim
    · rw [Request.event, heq]
      rcases hcode with rfl | rfl
      · exact ⟨.inl rfl, rfl⟩
      · exact ⟨.inr rfl, rfl⟩
    · rcases hrefuse with htaken | hfull
      · exact (htaken hvacant).elim
      · omega

theorem Healthy.stands (h : Healthy key n p w row) : Stands key n := by
  constructor
  · rw [Database.state, h.catalog, Option.map_some, h.active]
  · intro k hk
    obtain ⟨record, hrecord, hstores⟩ := h.sound.listed k hk
    obtain ⟨e, he, hwraps, hopen⟩ := h.openKey hrecord
    exact ⟨record, e, hstores, he, hwraps, by rw [advance_opens {} hopen]; rfl⟩

end Step

/-! ### Runs -/

section Runs
variable {key : Bytes}

/-- Every request of the list is made in a state where `p` holds of it. -/
def Throughout (key : Bytes) (p : Node → Request → Prop) (n : Node) (requests : List Request) :
    Prop :=
  ∀ rs r rest, requests = rs ++ r :: rest → p (run (advance key) n (rs.map Request.event)) r

theorem run_healthy {n : Node} (h : ∃ p w row, Healthy key n p w row) {requests : List Request}
    (hfresh : Throughout key (fun n r => r.Fresh n) n requests)
    (hcounted : Throughout key (fun n r => r.Counted n) n requests) :
    ∀ rs rest, requests = rs ++ rest →
      ∃ p w row, Healthy key (run (advance key) n (rs.map Request.event)) p w row := by
  intro rs
  induction rs using List.reverseRecOn with
  | nil => exact fun _ _ => h
  | append_singleton rs r ih =>
    intro rest hsplit
    rw [List.append_assoc, List.singleton_append] at hsplit
    obtain ⟨p, w, row, hn⟩ := ih _ hsplit
    obtain ⟨w', row', hn'⟩ := request_healthy hn (hfresh rs r rest hsplit) (hcounted rs r rest hsplit)
    refine ⟨p, w', row', ?_⟩
    rw [List.map_append, run_append]
    exact hn'

/-- After any past, a service is handed over and requests are made of it, none of which repeats a
nonce and each of which finds the counter of the process below its limit: what the catalog refuses
leaves the disk as it is, the catalog stays active, and every key on the disk still opens. -/
theorem refusals_cost_nothing (key : Bytes) (past : List Event) (event : Event)
    (hevent : event.HandsOver) (hok : (advance key (run (advance key) {} past) event).1 = .ok .done)
    (requests : List Request)
    (hfresh : Throughout key (fun n r => r.Fresh n) (run (advance key) {} (past ++ [event])) requests)
    (hcounted : Throughout key (fun n r => r.Counted n) (run (advance key) {} (past ++ [event]))
      requests) :
    Throughout key (fun n r => r.Refused key n) (run (advance key) {} (past ++ [event])) requests ∧
      ∀ rs rest, requests = rs ++ rest →
        Stands key (run (advance key) (run (advance key) {} (past ++ [event]))
          (rs.map Request.event)) := by
  have hcomposed : ∃ p w row, Healthy key (run (advance key) {} (past ++ [event])) p w row := by
    rw [run_append]
    exact advance_healthy hevent (run_sound key past) hok
  have hhealthy := run_healthy hcomposed hfresh hcounted
  refine ⟨fun rs r rest hsplit => ?_, fun rs rest hsplit => ?_⟩
  · obtain ⟨p, w, row, h⟩ := hhealthy rs (r :: rest) hsplit
    exact request_refused h (hfresh rs r rest hsplit) (hcounted rs r rest hsplit)
  · obtain ⟨p, w, row, h⟩ := hhealthy rs rest hsplit
    exact h.stands

end Runs

namespace Sample

def key : Bytes := List.replicate 32 9

def binding : ProfileKeyBinding := ⟨id 3, id 7, 1, 1, kek.version_ok, by decide⟩

def dek : Provider.ProfileDek := ⟨List.replicate 32 5, rfl⟩

def past : List Event := [.restart .accepting]

/-- The first initialization of a catalog with room for one profile key. -/
def initialization : Event :=
  .initializes identity { nonce := some (nonce 1), reservationId := id 6 }

def request (k : UInt8) : Request := .create binding (nonce k) (id (k + 10)) dek

theorem initialization_done :
    advance key (run (advance key) {} past) initialization =
      (.ok .done, first key identity (nonce 1) (id 6)) := by
  have h : initializeNativeKeyCatalog key identity
      { nonce := some (nonce 1), reservationId := id 6 } { runtime := .accepting } = (.ok (), _) :=
    initialize_first rfl
  have hpast : run (advance key) {} past = { runtime := .accepting } := rfl
  have hserve : ∀ n, advance key n initialization = (do
      initializeNativeKeyCatalog key identity { nonce := some (nonce 1), reservationId := id 6 }
      pure .done : Act Reply) n := fun _ => rfl
  rw [hpast, hserve, bind_ok h]
  rfl

theorem run_initialization :
    run (advance key) {} (past ++ [initialization]) = first key identity (nonce 1) (id 6) := by
  rw [run_append, run_cons, run_nil, initialization_done]

def row : CatalogRow := ⟨identity, 2, .active, 1, sourceCommitment key⟩

def provider : Provider :=
  { providerOf key identity (nonce 1) with pinned := true, activated := true }

def wrapState : WrapState :=
  { limit := 2
    sentinelRecords := [(nonce 1, (providerOf key identity (nonce 1)).sentinelRecordCommitment)] }

theorem first_healthy :
    Healthy key (first key identity (nonce 1) (id 6)) provider wrapState row := by
  obtain ⟨p, w, row', h⟩ := @advance_healthy key _ initialization trivial
    (run_sound key past) _ (congrArg Prod.fst initialization_done)
  rw [initialization_done] at h
  obtain rfl : p = provider := (Option.some.inj h.provider).symm
  obtain rfl : w = wrapState := (Option.some.inj h.wrap).symm
  obtain rfl : row' = row := (Option.some.inj h.catalog).symm
  exact h

/-- The process as it was handed over, and after the first and the second of the requests. -/
def handed : Node := first key identity (nonce 1) (id 6)

def served : Node :=
  Healthy.created key handed provider wrapState row ⟨binding, nonce 2⟩ (id 12) dek

def refused : Node :=
  { served with wrap := some (Healthy.drawn (Healthy.drawn wrapState (nonce 2)) (nonce 3)) }

def row₁ : CatalogRow := { row with usageReserved := 2, revision := 4 }

theorem handed_rows : ∀ r ∈ handed.durable.reservations, r.nonce = nonce 1 ∧ r.reservationId = id 6 ∧
    r.profile = none := by
  intro r hr
  rw [List.mem_singleton.mp hr]
  exact ⟨rfl, rfl, rfl⟩

theorem served_rows : ∀ r ∈ served.durable.reservations,
    r.nonce = nonce 1 ∧ r.reservationId = id 6 ∨ r.nonce = nonce 2 ∧ r.reservationId = id 12 := by
  refine Database.forall_commitRows (fun _ h => h) fun r hr => ?_
  rcases List.mem_append.mp hr with hr | hr
  · obtain ⟨hnonce, hid, -⟩ := handed_rows r hr
    exact .inl ⟨hnonce, hid⟩
  · rw [List.mem_singleton.mp hr]
    exact .inr ⟨rfl, rfl⟩

theorem undrawn {k : UInt8} (hk : nonce 1 ≠ nonce k) : Healthy.Undrawn wrapState (nonce k) := by
  refine ⟨nofun, ?_⟩
  unfold WrapState.sentinelRecord
  rw [show wrapState.sentinelRecords = [_] from rfl, List.find?_cons_of_neg (by simpa using hk)]
  rfl

theorem handed_healthy : Healthy key handed provider wrapState row := first_healthy

theorem fresh₀ : (request 2).Fresh handed := by
  refine ⟨fun w hw => ?_, fun r hr => ?_⟩
  · obtain rfl : wrapState = w := Option.some.inj (handed_healthy.wrap.symm.trans hw)
    exact undrawn (by decide)
  · obtain ⟨hnonce, hid, -⟩ := handed_rows r hr
    rw [hnonce, hid]
    exact ⟨by decide, by decide⟩

theorem admissible : Admissible handed.durable ⟨binding, nonce 2⟩ (id 12) where
  vacant r hr := by
    rw [(handed_rows r hr).2.2]
    exact nofun
  nonce r hr := (fresh₀.2 r hr).1
  id r hr := (fresh₀.2 r hr).2

theorem served_healthy :
    Healthy key served provider (Healthy.drawn wrapState (nonce 2)) row₁ :=
  handed_healthy.created_healthy ⟨rfl, rfl⟩ (by decide) (undrawn (by decide)) admissible (by decide)

theorem fresh₁ : (request 3).Fresh served := by
  refine ⟨fun w hw => ?_, fun r hr => ?_⟩
  · obtain rfl : Healthy.drawn wrapState (nonce 2) = w :=
      Option.some.inj (served_healthy.wrap.symm.trans hw)
    exact ⟨by decide, (undrawn (by decide)).2⟩
  · rcases served_rows r hr with ⟨hnonce, hid⟩ | ⟨hnonce, hid⟩
    · rw [hnonce, hid]
      exact ⟨by decide, by decide⟩
    · rw [hnonce, hid]
      exact ⟨by decide, by decide⟩

theorem refused_healthy : Healthy key refused provider
    (Healthy.drawn (Healthy.drawn wrapState (nonce 2)) (nonce 3)) row₁ :=
  served_healthy.draw (fresh₁.1 _ served_healthy.wrap)

theorem fresh₂ : (request 4).Fresh refused := by
  refine ⟨fun w hw => ?_, fun r hr => ?_⟩
  · obtain rfl : Healthy.drawn (Healthy.drawn wrapState (nonce 2)) (nonce 3) = w :=
      Option.some.inj (refused_healthy.wrap.symm.trans hw)
    exact ⟨by decide, (undrawn (by decide)).2⟩
  · rcases served_rows r hr with ⟨hnonce, hid⟩ | ⟨hnonce, hid⟩
    · rw [hnonce, hid]
      exact ⟨by decide, by decide⟩
    · rw [hnonce, hid]
      exact ⟨by decide, by decide⟩

/-- The profile key of the first request is reserved. -/
theorem taken : ¬served.durable.Vacant binding := by
  intro hvacant
  have hmem : profileReservation row ⟨binding, nonce 2⟩ (id 12) ∈
      (handed.durable.withReservation row ⟨binding, nonce 2⟩ (id 12)).reservations :=
    List.mem_append_right _ (List.mem_singleton_self _)
  have hrow := @Database.mem_commitRows_of
    (handed.durable.withReservation row ⟨binding, nonce 2⟩ (id 12)) (id 12) _ hmem
  rw [if_pos ⟨rfl, rfl⟩] at hrow
  exact hvacant _ hrow rfl

theorem first_request :
    advance key handed (request 2).event =
      (.ok (.wrapped (wrapRecord key kek ⟨binding, nonce 2⟩ dek)), served) :=
  advance_creates _ (handed_healthy.create ⟨rfl, rfl⟩ (by decide) (undrawn (by decide)) admissible
    (by decide))

theorem second_request :
    advance key served (request 3).event =
      (.error (catalogError .duplicateProfileKey), refused) :=
  advance_creates _ (served_healthy.create_duplicate ⟨rfl, rfl⟩ (by decide)
    (fresh₁.1 _ served_healthy.wrap) taken)

theorem third_request :
    advance key refused (request 4).event =
      (.error (catalogError .recoveryRequired),
        { refused with durable := refused.durable.recovering row₁ }) :=
  advance_creates _ (refused_healthy.create_latches ⟨rfl, rfl⟩ (by decide))

/-- One key is made; it is asked for twice more, and the second time the catalog is latched. -/
theorem third_request_latches :
    (advance key (run (advance key) {} past) initialization).1 = .ok .done ∧
      Throughout key (fun n r => r.Fresh n) (run (advance key) {} (past ++ [initialization]))
        [request 2, request 3, request 4] ∧
      ¬Throughout key (fun n r => r.Refused key n) (run (advance key) {} (past ++ [initialization]))
        [request 2, request 3, request 4] ∧
      (run (advance key) (run (advance key) {} (past ++ [initialization]))
        ([request 2, request 3, request 4].map Request.event)).durable.state =
          some .recoveryRequired := by
  rw [run_initialization]
  have hfirst : run (advance key) handed [(request 2).event] = served := by
    rw [run_cons, run_nil, first_request]
  have hsecond : run (advance key) handed [(request 2).event, (request 3).event] = refused := by
    rw [run_cons, first_request, run_cons, run_nil, second_request]
  have hsplit : ∀ {p : Node → Request → Prop}, p handed (request 2) → p served (request 3) →
      p refused (request 4) → Throughout key p handed [request 2, request 3, request 4] := by
    intro p h₀ h₁ h₂ rs r rest heq
    rcases rs with _ | ⟨r₁, _ | ⟨r₂, _ | ⟨r₃, rs⟩⟩⟩
    · cases heq
      exact h₀
    · cases heq
      rw [List.map_singleton, hfirst]
      exact h₁
    · cases heq
      rw [List.map_cons, List.map_singleton, hsecond]
      exact h₂
    · simp at heq
  refine ⟨by rw [initialization_done], hsplit fresh₀ fresh₁ fresh₂, fun hrefused => ?_, ?_⟩
  · have hthird := hrefused [request 2, request 3] (request 4) [] rfl
    rw [List.map_cons, List.map_singleton] at hthird
    change (request 4).Refused key (run (advance key) handed _) at hthird
    rw [hsecond] at hthird
    obtain ⟨hreply, -⟩ := hthird row₁ refused_healthy.catalog ⟨rfl, rfl⟩ (.inl taken)
    change (advance key refused (request 4).event).1 = _ ∨
      (advance key refused (request 4).event).1 = _ at hreply
    rw [third_request] at hreply
    rcases hreply with h | h <;> cases h
  · change (run (advance key) handed [(request 2).event, (request 3).event, (request 4).event]).durable.state
      = _
    rw [run_cons, first_request, run_cons, second_request, run_cons, run_nil, third_request]
    rfl

/-- A service whose first request finds room and whose later ones find none to refuse. -/
theorem refusals_cost_nothing_twice :
    (request 2).Counted handed ∧ (request 3).Counted served ∧
      Stands key (run (advance key) (run (advance key) {} (past ++ [initialization]))
        ([request 2, request 3].map Request.event)) := by
  have hcounted₀ : (request 2).Counted handed := by
    intro _ _ _ w hw
    obtain rfl : wrapState = w := Option.some.inj (handed_healthy.wrap.symm.trans hw)
    decide
  have hcounted₁ : (request 3).Counted served := by
    intro _ _ _ w hw
    obtain rfl : Healthy.drawn wrapState (nonce 2) = w :=
      Option.some.inj (served_healthy.wrap.symm.trans hw)
    decide
  have hfirst : run (advance key) handed [(request 2).event] = served := by
    rw [run_cons, run_nil, first_request]
  have hsplit : ∀ {p : Node → Request → Prop}, p handed (request 2) → p served (request 3) →
      Throughout key p (run (advance key) {} (past ++ [initialization])) [request 2, request 3] := by
    intro p h₀ h₁ rs r rest heq
    rw [run_initialization]
    rcases rs with _ | ⟨r₁, _ | ⟨r₂, rs⟩⟩
    · cases heq
      exact h₀
    · cases heq
      change p (run (advance key) handed [(request 2).event]) _
      rw [hfirst]
      exact h₁
    · simp at heq
  refine ⟨hcounted₀, hcounted₁, ?_⟩
  exact (refusals_cost_nothing key past initialization trivial (by rw [initialization_done])
    [request 2, request 3] (hsplit fresh₀ fresh₁) (hsplit hcounted₀ hcounted₁)).2 _ []
      (List.append_nil _).symm

end Sample

end MyCogni.Keys
