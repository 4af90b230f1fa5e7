import MyCogni.Base.Sql
import MyCogni.Keys.Reader

/-! The two tables that the validation of the ledger reads, with their columns as the migration
declares them, and the validation as its statements compute it. A column that may be null is an
option; a check constraint accepts a row unless its condition is false. -/

namespace MyCogni.Keys
open Auth Sql

/-- `key_nonce_reservations` -/
structure ReservationColumns where
  reservationId : Text
  catalogId : Text
  providerInstanceId : Text
  kekId : Text
  kekVersion : Int
  nonce : Bytes
  purpose : Text
  lifecycle : Text
  usageSequence : Int
  profileId : Option Text
  profileKeyVersion : Option Int
deriving DecidableEq

/-- `wrapped_profile_keys` -/
structure WrappedColumns where
  profileId : Text
  profileKeyVersion : Int
  catalogSchemaVersion : Int
  installationId : Text
  reservationId : Text
  formatVersion : Int
  aadVersion : Int
  suite : Text
  ciphertext : Bytes
deriving DecidableEq

structure Tables where
  reservations : List ReservationColumns
  wrapped : List WrappedColumns
deriving DecidableEq

/-! ### Constraints -/

def sentinelPurpose : Text := "sentinel".toList

def profilePurpose : Text := "profile".toList

def committedLifecycle : Text := "committed".toList

namespace ReservationColumns
variable (r r' : ReservationColumns)

/-- `ck_key_nonce_binding` -/
def bindingCheck : Truth :=
  ((eq (some r.purpose) (some sentinelPurpose)).and
    ((isNull r.profileId).and (isNull r.profileKeyVersion))).or
  ((eq (some r.purpose) (some profilePurpose)).and
    ((isNotNull r.profileId).and (ge r.profileKeyVersion (some 1))))

def checks : List Truth :=
  [some (r.reservationId.length = 36), some (r.nonce.length = 12),
    some (r.purpose ∈ [sentinelPurpose, profilePurpose]),
    some (r.lifecycle ∈ ["reserved".toList, committedLifecycle, "burned".toList]),
    ge (some r.usageSequence) (some 1), r.bindingCheck]

def SameDomain : Prop :=
  r.providerInstanceId = r'.providerInstanceId ∧ r.kekId = r'.kekId ∧ r.kekVersion = r'.kekVersion

instance : Decidable (r.SameDomain r') := inferInstanceAs (Decidable (_ ∧ _ ∧ _))

end ReservationColumns

def WrappedColumns.checks (k : WrappedColumns) : List Truth :=
  [some (k.profileId.length = 36), some (1 ≤ k.profileKeyVersion ∧ k.profileKeyVersion ≤ 4294967295),
    some (k.catalogSchemaVersion = 1), some (k.installationId.length = 36), some (k.formatVersion = 1),
    some (k.aadVersion = 1), some (k.suite = wrapSuite), some (k.ciphertext.length = 48)]

/-- The checks, the keys and the foreign key of the two tables. A null is different from every value
in a unique key. -/
structure Tables.Constrained (t : Tables) : Prop where
  reservations : ∀ r ∈ t.reservations, ∀ c ∈ r.checks, c.Passes
  reservationIds : t.reservations.Pairwise fun r r' => r.reservationId ≠ r'.reservationId
  nonces : t.reservations.Pairwise fun r r' => ¬(r.SameDomain r' ∧ r.nonce = r'.nonce)
  usages : t.reservations.Pairwise fun r r' => ¬(r.SameDomain r' ∧ r.usageSequence = r'.usageSequence)
  bindings : t.reservations.Pairwise fun r r' =>
    ¬((eq r.profileId r'.profileId).and (eq r.profileKeyVersion r'.profileKeyVersion)).Holds
  wrapped : ∀ k ∈ t.wrapped, ∀ c ∈ k.checks, c.Passes
  profiles : t.wrapped.Pairwise fun k k' =>
    ¬(k.profileId = k'.profileId ∧ k.profileKeyVersion = k'.profileKeyVersion)
  wrappedReservations : t.wrapped.Pairwise fun k k' => k.reservationId ≠ k'.reservationId
  reserved : ∀ k ∈ t.wrapped, ∃ r ∈ t.reservations, r.reservationId = k.reservationId

/-! ### The validation -/

/-- `_exact_int` -/
def exactInt (n : Option Int) : Except Failure Int :=
  match n with
  | some n => .ok n
  | none => .error .valueError

namespace Tables
variable (t : Tables) (identity : KeyCatalogIdentity)

/-- The columns of a reservation, or of the null row of an outer join, name another domain. -/
def foreign (n : Option ReservationColumns) : Truth :=
  ((ne (n.map (·.catalogId)) (some identity.catalogId.str)).or
    (ne (n.map (·.providerInstanceId)) (some identity.activeKek.providerInstanceId.str))).or
  ((ne (n.map (·.kekId)) (some identity.activeKek.kekId.str)).or
    (ne (n.map (·.kekVersion)) (some (identity.activeKek.kekVersion : Int))))

def invalidWrapped (row : WrappedColumns × Option ReservationColumns) : Truth :=
  let (k, n) := row
  ((isNull (n.map (·.reservationId))).or
    ((ne (n.map (·.purpose)) (some profilePurpose)).or
      (ne (n.map (·.lifecycle)) (some committedLifecycle)))).or
  (((ne (n.bind (·.profileId)) (some k.profileId)).or
    (ne (n.bind (·.profileKeyVersion)) (some k.profileKeyVersion))).or
  ((foreign identity n).or
    ((ne (some k.installationId) (some identity.installationId.str)).or
      (ne (some k.catalogSchemaVersion) (some (identity.schemaVersion : Int))))))

def orphanCommitted (row : ReservationColumns × Option WrappedColumns) : Truth :=
  let (n, k) := row
  ((eq (some n.purpose) (some profilePurpose)).and
    (eq (some n.lifecycle) (some committedLifecycle))).and
  ((isNull (k.map (·.reservationId))).or
    ((ne (k.map (·.profileId)) n.profileId).or (ne (k.map (·.profileKeyVersion)) n.profileKeyVersion)))

/-- `_validate_ledger` -/
def validateLedger (usageReserved : Int) : Except Failure Unit := do
  let sequences := t.reservations.map (·.usageSequence)
  let rows (p : ReservationColumns → Truth) : Option Int := sumCase t.reservations p
  let sentinel (r : ReservationColumns) : Truth := eq (some r.purpose) (some sentinelPurpose)
  ensure ((t.reservations.length : Int) = usageReserved) (.catalog .corrupt)
  ensure ((← exactInt sequences.min?) = 1) (.catalog .corrupt)
  ensure ((← exactInt sequences.max?) = usageReserved) (.catalog .corrupt)
  ensure ((← exactInt (rows sentinel)) = 1) (.catalog .corrupt)
  ensure ((← exactInt (rows fun r =>
    (sentinel r).and (eq (some r.usageSequence) (some 1)))) = 1) (.catalog .corrupt)
  ensure ((← exactInt (rows fun r =>
    (gt (some r.usageSequence) (some 1)).and (ne (some r.purpose) (some profilePurpose)))) = 0)
    (.catalog .corrupt)
  ensure ((← exactInt (rows fun r => foreign identity (some r))) = 0) (.catalog .corrupt)
  ensure (count (leftJoin t.wrapped t.reservations fun k n =>
    eq (some n.reservationId) (some k.reservationId)) (invalidWrapped identity) = 0) (.catalog .corrupt)
  ensure (count (leftJoin t.reservations t.wrapped fun n k =>
    eq (some k.reservationId) (some n.reservationId)) orphanCommitted = 0) (.catalog .corrupt)

end Tables

/-! ### A sound ledger -/

/-- The reservation is of the catalog and the key of the identity. -/
def ReservationColumns.Own (identity : KeyCatalogIdentity) (n : ReservationColumns) : Prop :=
  n.catalogId = identity.catalogId.str ∧
    n.providerInstanceId = identity.activeKek.providerInstanceId.str ∧
    n.kekId = identity.activeKek.kekId.str ∧ n.kekVersion = identity.activeKek.kekVersion

def ReservationColumns.CommittedProfile (n : ReservationColumns) : Prop :=
  n.purpose = profilePurpose ∧ n.lifecycle = committedLifecycle

/-- The wrapped key belongs to the reservation; `same` compares the versions. -/
def Pairs (same : Option Int → Int → Prop) (k : WrappedColumns) (n : ReservationColumns) : Prop :=
  n.reservationId = k.reservationId ∧ n.CommittedProfile ∧ n.profileId = some k.profileId ∧
    same n.profileKeyVersion k.profileKeyVersion

/-- Not unequal, with a null unequal to nothing. -/
def NotUnequalVersion (o : Option Int) (v : Int) : Prop := ∀ w, o = some w → w = v

/-- What the ledger has to be: the usages are `1` to `usageReserved`, the first of them is the one
sentinel, all are of the identity, and the wrapped keys are in one-to-one correspondence with the
committed profile reservations. -/
structure Tables.SoundLedger (t : Tables) (identity : KeyCatalogIdentity) (usageReserved : Int)
    (same : Option Int → Int → Prop) : Prop where
  nodup : (t.reservations.map (·.usageSequence)).Nodup
  gapless : ∀ i, i ∈ t.reservations.map (·.usageSequence) ↔ 1 ≤ i ∧ i ≤ usageReserved
  sentinel : ∃ r ∈ t.reservations, r.usageSequence = 1 ∧ r.purpose = sentinelPurpose ∧
    ∀ r' ∈ t.reservations, r'.purpose = sentinelPurpose → r' = r
  own : ∀ r ∈ t.reservations, r.Own identity
  keys : ∀ k ∈ t.wrapped, k.installationId = identity.installationId.str ∧
    k.catalogSchemaVersion = identity.schemaVersion ∧ ∃! n, n ∈ t.reservations ∧ Pairs same k n
  reserved : ∀ n ∈ t.reservations, n.CommittedProfile → ∃! k, k ∈ t.wrapped ∧ Pairs same k n

/-! ### What the statements count -/

section Statements
variable {identity : KeyCatalogIdentity} {k : WrappedColumns} {n r : ReservationColumns}

theorem not_holds_ne_some {α : Type} [DecidableEq α] {a b : α} :
    ¬(ne (some a) (some b)).Holds ↔ a = b := by
  rw [not_holds_ne]
  exact ⟨fun h => h a rfl, fun h x hx => (Option.some.inj hx) ▸ h⟩

theorem not_foreign : ¬(Tables.foreign identity (some n)).Holds ↔ n.Own identity := by
  simp only [Tables.foreign, ReservationColumns.Own, Truth.holds_or, Option.map_some, not_or,
    not_holds_ne_some, and_assoc]

theorem not_invalidWrapped : ¬(Tables.invalidWrapped identity (k, some n)).Holds ↔
    n.CommittedProfile ∧ (∀ p, n.profileId = some p → p = k.profileId) ∧
      NotUnequalVersion n.profileKeyVersion k.profileKeyVersion ∧ n.Own identity ∧
      k.installationId = identity.installationId.str ∧
      k.catalogSchemaVersion = identity.schemaVersion := by
  simp only [Tables.invalidWrapped, ReservationColumns.CommittedProfile, NotUnequalVersion,
    Truth.holds_or, not_or, not_foreign, Option.map_some, Option.bind_some, not_holds_ne,
    Option.some.injEq, forall_eq', isNull, holds_some, Option.isNone_some, Bool.false_eq_true, not_false_eq_true,
    true_and, and_assoc]

theorem not_orphanCommitted : ¬(Tables.orphanCommitted (n, some k)).Holds ↔
    (n.CommittedProfile → (∀ p, n.profileId = some p → p = k.profileId) ∧
      NotUnequalVersion n.profileKeyVersion k.profileKeyVersion) := by
  have hne {α : Type} [DecidableEq α] {o : Option α} {x : α} :
      ¬(ne (some x) o).Holds ↔ ∀ y, o = some y → y = x := by
    cases o with
    | none => exact ⟨fun _ _ h => (nomatch h), fun _ h => (nomatch h)⟩
    | some y =>
      rw [not_holds_ne_some]
      exact ⟨fun h z hz => (Option.some.inj hz) ▸ h.symm, fun h => (h y rfl).symm⟩
  simp only [Tables.orphanCommitted, ReservationColumns.CommittedProfile, NotUnequalVersion,
    Truth.holds_and, Truth.holds_or, holds_eq_some, Option.map_some, isNull, holds_some,
    Option.isNone_some, Bool.false_eq_true, false_or, not_and, not_or, hne]

theorem orphanCommitted_none : (Tables.orphanCommitted (n, none)).Holds ↔ n.CommittedProfile := by
  simp only [Tables.orphanCommitted, ReservationColumns.CommittedProfile, Truth.holds_and,
    Truth.holds_or, holds_eq_some, Option.map_none, isNull, holds_some, Option.isNone_none, true_or,
    and_true]

end Statements

/-! ### What the validation accepts -/

/-- What the statements establish, before anything is concluded from the constraints. -/
structure Tables.Accepted (t : Tables) (identity : KeyCatalogIdentity) (usageReserved : Int) : Prop where
  total : (t.reservations.length : Int) = usageReserved
  first : (t.reservations.map (·.usageSequence)).min? = some 1
  last : (t.reservations.map (·.usageSequence)).max? = some usageReserved
  sentinels : t.reservations.countP (fun r => decide (r.purpose = sentinelPurpose)) = 1
  firstSentinels : t.reservations.countP
    (fun r => decide (r.purpose = sentinelPurpose ∧ r.usageSequence = 1)) = 1
  later : ∀ r ∈ t.reservations, 1 < r.usageSequence → r.purpose = profilePurpose
  own : ∀ r ∈ t.reservations, r.Own identity
  valid : count (leftJoin t.wrapped t.reservations fun k n =>
    eq (some n.reservationId) (some k.reservationId)) (Tables.invalidWrapped identity) = 0
  noOrphan : count (leftJoin t.reservations t.wrapped fun n k =>
    eq (some k.reservationId) (some n.reservationId)) Tables.orphanCommitted = 0

section Constrained
variable {t : Tables} {identity : KeyCatalogIdentity} {usageReserved : Int}
  {same : Option Int → Int → Prop}

theorem Tables.Constrained.reservation_inj (h : t.Constrained) {n n' : ReservationColumns}
    (hn : n ∈ t.reservations) (hn' : n' ∈ t.reservations) (heq : n.reservationId = n'.reservationId) :
    n = n' :=
  List.inj_on_of_nodup_map (List.pairwise_map.mpr h.reservationIds) hn hn' heq

theorem Tables.Constrained.wrapped_inj (h : t.Constrained) {k k' : WrappedColumns}
    (hk : k ∈ t.wrapped) (hk' : k' ∈ t.wrapped) (heq : k.reservationId = k'.reservationId) : k = k' :=
  List.inj_on_of_nodup_map (List.pairwise_map.mpr h.wrappedReservations) hk hk' heq

theorem Tables.Constrained.reservations_nodup (h : t.Constrained) : t.reservations.Nodup :=
  List.Nodup.of_map (·.reservationId) (List.pairwise_map.mpr h.reservationIds)

/-- The keys of the tables make a partner the only one. -/
theorem existsUnique_reservation (h : t.Constrained) {k : WrappedColumns} :
    (∃! n, n ∈ t.reservations ∧ Pairs same k n) ↔ ∃ n ∈ t.reservations, Pairs same k n := by
  constructor
  · rintro ⟨n, ⟨hn, hpairs⟩, -⟩
    exact ⟨n, hn, hpairs⟩
  · rintro ⟨n, hn, hpairs⟩
    exact ⟨n, ⟨hn, hpairs⟩, fun n' hn' =>
      h.reservation_inj hn'.1 hn (hn'.2.1.trans hpairs.1.symm)⟩

theorem existsUnique_wrapped (h : t.Constrained) {n : ReservationColumns} :
    (∃! k, k ∈ t.wrapped ∧ Pairs same k n) ↔ ∃ k ∈ t.wrapped, Pairs same k n := by
  constructor
  · rintro ⟨k, ⟨hk, hpairs⟩, -⟩
    exact ⟨k, hk, hpairs⟩
  · rintro ⟨k, hk, hpairs⟩
    exact ⟨k, ⟨hk, hpairs⟩, fun k' hk' => h.wrapped_inj hk'.1 hk (hk'.2.1.symm.trans hpairs.1)⟩

theorem Tables.SoundLedger.accepted (h : t.Constrained)
    (hs : t.SoundLedger identity usageReserved NotUnequalVersion) :
    t.Accepted identity usageReserved := by
  obtain ⟨first, hfirst, husage, hpurpose, honly⟩ := hs.sentinel
  have hone : (1 : Int) ≤ usageReserved :=
    ((hs.gapless 1).mp (List.mem_map.mpr ⟨first, hfirst, husage⟩)).2
  obtain ⟨htotal, hmin, hmax⟩ := bounds_of_mem_iff hs.nodup hone hs.gapless
  rw [List.length_map] at htotal
  refine ⟨htotal, hmin, hmax, ?_, ?_, fun r hr hlater => ?_, hs.own, ?_, ?_⟩
  · refine (countP_eq_one h.reservations_nodup).mpr ⟨first, hfirst, decide_eq_true hpurpose, ?_⟩
    exact fun r hr hp => honly r hr (of_decide_eq_true hp)
  · refine (countP_eq_one h.reservations_nodup).mpr
      ⟨first, hfirst, decide_eq_true ⟨hpurpose, husage⟩, ?_⟩
    exact fun r hr hp => honly r hr (of_decide_eq_true hp).1
  · have hcheck : Truth.Passes (some (r.purpose ∈ [sentinelPurpose, profilePurpose])) :=
      h.reservations r hr _ (by simp [ReservationColumns.checks])
    rw [passes_some, decide_eq_true_eq, List.mem_pair] at hcheck
    rcases hcheck with hsentinel | hprofile
    · obtain rfl := honly r hr hsentinel
      omega
    · exact hprofile
  · refine count_leftJoin_eq_zero.mpr fun k hk => ?_
    obtain ⟨hinstallation, hschema, hpartner⟩ := hs.keys k hk
    obtain ⟨n, hn, hid, hcommitted, hprofile, hversion⟩ := (existsUnique_reservation h).mp hpartner
    refine ⟨fun n' hn' hon => ?_, fun hno => absurd (holds_eq_some.mpr hid) (hno n hn)⟩
    obtain rfl := h.reservation_inj hn' hn ((holds_eq_some.mp hon).trans hid.symm)
    refine not_invalidWrapped.mpr ⟨hcommitted, fun p hp => ?_, hversion, hs.own n' hn, hinstallation,
      hschema⟩
    exact Option.some.inj (hp.symm.trans hprofile)
  · refine count_leftJoin_eq_zero.mpr fun n hn => ⟨fun k hk hon => ?_, fun hno horphan => ?_⟩
    · refine not_orphanCommitted.mpr fun hcommitted => ?_
      obtain ⟨k', hk', hid, -, hprofile, hversion⟩ :=
        (existsUnique_wrapped h).mp (hs.reserved n hn hcommitted)
      obtain rfl := h.wrapped_inj hk hk' ((holds_eq_some.mp hon).trans hid)
      exact ⟨fun p hp => Option.some.inj (hp.symm.trans hprofile), hversion⟩
    · obtain ⟨k, hk, hid, -⟩ := (existsUnique_wrapped h).mp
        (hs.reserved n hn (orphanCommitted_none.mp horphan))
      exact hno k hk (holds_eq_some.mpr hid.symm)

end Constrained

namespace Sample

end Sample

end MyCogni.Keys
