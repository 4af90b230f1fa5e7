import MyCogni.Auth.Wire

/-! The durable store. A decision loads the state from its one row, runs on it, and writes the row
and the table of authority handles in one transaction. -/

namespace MyCogni.Auth

/-! ### The payload -/

/-- Words that a payload with a secret-bearing value would contain. -/
def secretWords : List Text := ["auth_secret".toList, "OpaqueCredential".toList, "Sensitive".toList]

def SecretBearing (payload : Text) : Prop := ∃ word ∈ secretWords, word <:+: payload

instance (payload : Text) : Decidable (SecretBearing payload) :=
  inferInstanceAs (Decidable (∃ word ∈ secretWords, word <:+: payload))

instance (s : Store) : Decidable (Wire.V1 s) :=
  inferInstanceAs (Decidable (∀ c ∈ s.reprovisionCeremonies.rows,
    ∀ d ∈ c.terminalDenial, d ∈ AuthDenial.v1))

section Payload
variable (R : Reader)

/-- The canonical text of the ten collections. -/
def canonical (s : Store) : Option Text := ((Wire.state R).encode s).render

def snapshot (s : Store) : Option Text :=
  if Exportable s ∧ Wire.V1 s then
    (canonical R s).filter fun payload => ¬SecretBearing payload
  else none

def restore (payload : Text) : Option Store := R.loads payload >>= (Wire.state R).decode

variable {R}

theorem snapshot_eq_some {s : Store} {payload : Text} :
    snapshot R s = some payload ↔
      (Exportable s ∧ Wire.V1 s) ∧ canonical R s = some payload ∧ ¬SecretBearing payload := by
  rw [snapshot, Option.ite_none_right_eq_some, Option.filter_eq_some_iff, decide_eq_true_eq]

theorem exportable_arm {s : Store} {point : Option CrashPoint} (h : Exportable s) :
    Exportable (s.arm point) where
  records := { h.records with }
  consistent := { h.consistent with }

/-- Whatever is written is read back, but for an armed crash. -/
theorem restore_canonical {s : Store} {payload : Text} (hs : Exportable s) (hv : Wire.V1 s)
    (h : canonical R s = some payload) : restore R payload = some (s.arm none) := by
  have hdigits : ((Wire.state R).encode s).digitsOk = true := by
    by_contra hno
    rw [canonical, Json.render, if_neg hno] at h
    exact nomatch h
  rw [restore, R.loads_dumps _ _ h ((Wire.state R).unique s), Option.bind_eq_bind,
    Option.bind_some]
  exact (Wire.state R).decode_encode (s.arm none) ((Wire.fits_state rfl).mpr
    ⟨exportable_arm hs, hv⟩) hdigits

theorem restore_unarmed {payload : Text} {s : Store} (h : restore R payload = some s) :
    s.crashOnce = none := by
  obtain ⟨j, -, hj⟩ := Option.bind_eq_some_iff.mp h
  obtain ⟨x, -, hx⟩ := Option.bind_eq_some_iff.mp hj
  rw [Option.ite_none_right_eq_some] at hx
  rw [← Option.some.inj hx.2]

theorem restore_exportable {payload : Text} {s : Store} (h : restore R payload = some s) :
    Exportable s ∧ Wire.V1 s := by
  obtain ⟨j, -, hj⟩ := Option.bind_eq_some_iff.mp h
  exact (Wire.fits_state (restore_unarmed h)).mp ((Wire.state R).fits j s hj)

theorem canonical_of_restore {payload : Text} {s : Store} (h : restore R payload = some s) :
    ∃ t, canonical R s = some t := by
  obtain ⟨j, -, hj⟩ := Option.bind_eq_some_iff.mp h
  exact ⟨_, if_pos ((Wire.state R).digits j s hj)⟩

end Payload

/-- A snapshot restores to the same collections and is written again as it was. A text that is
restored gives a state that satisfies every condition, and whose snapshot, which is refused only
for a reserved word in it, restores to the state. -/
theorem snapshot_restore (R : Reader) :
    (∀ s payload, snapshot R s = some payload →
      restore R payload = some (s.arm none) ∧ snapshot R (s.arm none) = some payload) ∧
    ∀ payload s, restore R payload = some s →
      Exportable s ∧ s.crashOnce = none ∧
        ∃ t, canonical R s = some t ∧ restore R t = some s ∧
          (snapshot R s = some t ∨ SecretBearing t ∧ snapshot R s = none) := by
  refine ⟨fun s payload h => ?_, fun payload s h => ?_⟩
  · obtain ⟨⟨hs, hv⟩, hpayload, hclean⟩ := snapshot_eq_some.mp h
    exact ⟨restore_canonical hs hv hpayload,
      snapshot_eq_some.mpr ⟨⟨exportable_arm hs, hv⟩, hpayload, hclean⟩⟩
  · obtain ⟨hs, hv⟩ := restore_exportable h
    have hunarmed := restore_unarmed h
    obtain ⟨t, ht⟩ := canonical_of_restore h
    have hback : restore R t = some s := by
      rw [restore_canonical hs hv ht]
      cases s
      cases hunarmed
      rfl
    refine ⟨hs, hunarmed, t, ht, hback, ?_⟩
    by_cases hword : SecretBearing t
    · right
      refine ⟨hword, Option.eq_none_iff_forall_ne_some.mpr fun t' ht' => ?_⟩
      obtain ⟨-, ht'', hclean⟩ := snapshot_eq_some.mp ht'
      rw [ht] at ht''
      exact hclean (Option.some.inj ht'' ▸ hword)
    · exact Or.inl (snapshot_eq_some.mpr ⟨⟨hs, hv⟩, ht, hword⟩)

namespace Sample

/-- An installation without roots. -/
def bare (operatorDigest : SecretDigest) : Store :=
  Store.empty.install (id 1) (id 2) (id 3) [] ⟨id 14, operatorDigest⟩ ⟨id 15, digest 15⟩ (time 0)

theorem snapshot_bare :
    ∃ payload, snapshot .strict (bare (digest 14)) = some payload ∧
      restore .strict payload = some (bare (digest 14)) := by
  obtain ⟨payload, h⟩ := Option.isSome_iff_exists.mp
    (show (snapshot .strict (bare (digest 14))).isSome by decide +kernel)
  exact ⟨payload, h, ((snapshot_restore .strict).1 _ _ h).1⟩

/-- A digest that begins with a reserved word in base 64. -/
def reserved : SecretDigest :=
  ⟨[73, 233, 236, 138, 216, 175, 120] ++ List.replicate 25 0, rfl⟩

/-- Its installation is restored from its own text, which is no snapshot. -/
theorem reserved_refused :
    ∃ payload, restore .strict payload = some (bare reserved) ∧
      snapshot .strict (bare reserved) = none := by
  have hs : Exportable (bare reserved) ∧ Wire.V1 (bare reserved) := by decide +kernel
  obtain ⟨payload, h⟩ := Option.isSome_iff_exists.mp
    (show (canonical .strict (bare reserved)).isSome by decide +kernel)
  have hrefused : snapshot .strict (bare reserved) = none := by decide +kernel
  exact ⟨payload, restore_canonical hs.1 hs.2 h, hrefused⟩

end Sample

/-! ### The database -/

/-- A row of `auth_authority_handles`. -/
structure AuthorityRow where
  handle : Text
  authorityKind : String
  installationId : Text
deriving DecidableEq

/-- The row of `auth_decision_state`. -/
structure StateRow where
  schemaVersion : Int
  revision : Int
  stateJson : Text
deriving DecidableEq

structure Database where
  state : Option StateRow
  authorities : List AuthorityRow
deriving DecidableEq

def Database.empty : Database := ⟨none, []⟩

def stateSchemaVersion : Int := 1

/-- The handles that are registered, each with its kind and its installation. -/
def Store.authorityEntries (s : Store) : List (OpaqueId × String × OpaqueId) :=
  s.roots.rows.map (fun r => (r.handle, "root", r.installationId)) ++
    s.compositionBindings.rows.flatMap fun c =>
      [(c.operatorHandle, "operator", c.installationId),
        (c.serviceHandle, "service", c.installationId)]

/-- None where a handle is registered twice. -/
def authorityRegistry (s : Store) : Option (List AuthorityRow) :=
  if (s.authorityEntries.map Prod.fst).Nodup then
    some ((s.authorityEntries.insertionSort fun e e' => e.1 ≤ e'.1).map fun e =>
      ⟨e.1.str, e.2.1, e.2.2.str⟩)
  else none

/-- How a call of the durable store fails. -/
inductive Failure where
  /-- The runtime does not accept new work. -/
  | notReady
  | corrupt
  /-- The volatile store raised. -/
  | raised (h : Halt)
  /-- The state cannot be exported, encoded or registered. -/
  | refused
  | interrupted
  | commitOutcomeUnknown
deriving DecidableEq

section Machine
variable (R : Reader)

/-- The state, its revision, and whether there is a row. -/
def loadState (db : Database) : Except Failure (Store × Int × Bool) :=
  match db.state with
  | none => .ok (.empty, 0, false)
  | some row =>
    if row.schemaVersion = stateSchemaVersion ∧ 1 ≤ row.revision then do
      let store ← (restore R row.stateJson).elim (.error .corrupt) .ok
      let expected ← (authorityRegistry store).elim (.error .refused) .ok
      ensure (db.authorities.toFinset = expected.toFinset) .corrupt
      return (store, row.revision, true)
    else .error .corrupt

/-- A denial is a value that is returned. The other ways to stop are exceptions. -/
def returned (outcome : Except Halt Value) : Except Failure (Except Halt Value) :=
  match outcome with
  | .ok v => .ok (.ok v)
  | .error (.denied d) => .ok (.error (.denied d))
  | .error h => .error (.raised h)

/-- A transaction up to its commit: the result of the decision, and the database as written. -/
def transact (db : Database) (op : Op) : Except Failure (Except Halt Value × Database) := do
  let (store, revision, _) ← loadState R db
  let result ← returned (apply store op).1
  let payload ← (snapshot R (apply store op).2).elim (.error .refused) .ok
  let authorities ← (authorityRegistry (apply store op).2).elim (.error .refused) .ok
  -- An absent row has revision zero, so the inserted row has the revision that follows.
  return (result, ⟨some ⟨stateSchemaVersion, revision + 1, payload⟩, authorities⟩)

/-! ### The runtime and its handles -/

inductive DurableAuthCrashPoint where
  | beforeCommit
  | afterCommit
deriving DecidableEq

/-- One runtime over the database. A handle has no state but the failure armed on it. -/
structure Runtime where
  database : Database
  acceptingNewWork : Bool := true
  crashOnce : Nat → Option DurableAuthCrashPoint := fun _ => none

def Runtime.opened (db : Database) : Runtime := { database := db }

def Runtime.arm (r : Runtime) (handle : Nat) (point : Option DurableAuthCrashPoint) : Runtime :=
  { r with crashOnce := Function.update r.crashOnce handle point }

/-- Whatever becomes of its resources, an abandoned runtime takes no new work. -/
def Runtime.abandon (r : Runtime) : Runtime := { r with acceptingNewWork := false }

/-- What goes wrong outside the store while a decision is made. -/
inductive Fault where
  | none
  /-- The unit of work is not admitted, or a statement raises. -/
  | beforeCommit
  /-- The commit raises, whether or not it took effect. -/
  | commit (took : Bool)
deriving DecidableEq

/-- What a decision answers, and the call whose commit took effect. -/
structure Report where
  answer : Except Failure (Except Halt Value)
  committed : Option Op := none

def Runtime.decision (r : Runtime) (handle : Nat) (op : Op) (fault : Fault) : Report × Runtime :=
  if r.acceptingNewWork = false then (⟨.error .notReady, none⟩, r)
  else if fault = .beforeCommit then (⟨.error .interrupted, none⟩, r)
  else match transact R r.database op with
    | .error .corrupt => (⟨.error .corrupt, none⟩, r.abandon)
    | .error e => (⟨.error e, none⟩, r)
    | .ok (result, written) =>
      if r.crashOnce handle = some .beforeCommit then
        (⟨.error .interrupted, none⟩, r.arm handle none)
      else match fault with
        | .commit false => (⟨.error .commitOutcomeUnknown, none⟩, r.abandon)
        | .commit true =>
          (⟨.error .commitOutcomeUnknown, some op⟩, { r with database := written }.abandon)
        | _ =>
          if r.crashOnce handle = some .afterCommit then
            (⟨.error .commitOutcomeUnknown, some op⟩,
              ({ r with database := written }.arm handle none).abandon)
          else (⟨.ok result, some op⟩, { r with database := written })

/-- A query of the state, in a transaction that is rolled back. -/
def Runtime.query {α : Type} (r : Runtime) (f : Store → α) : Except Failure α × Runtime :=
  if r.acceptingNewWork = false then (.error .notReady, r)
  else match loadState R r.database with
    | .error .corrupt => (.error .corrupt, r.abandon)
    | .error e => (.error e, r)
    | .ok (store, _, _) => (.ok (f store), r)

end Machine

end MyCogni.Auth
