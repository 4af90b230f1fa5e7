import MyCogni.Mailbox.Loadable

/-! A mailbox that goes its course in a database, from the first handle to its first evidence, and
the two bounds that such a course meets: an envelope may outgrow the decoder, and evidence may
outgrow the frame. -/

namespace MyCogni.Mailbox

variable {inst : Installation} {es : List Event} {s : Repository} {request : Request} {call : Call}
  {env : Env} {nonce : Nonce} {b : Bytes}

/-! ### What can be rendered -/

theorem strDigitsOk_of_le {i j : Int} (hi : 0 ≤ i) (hle : i ≤ j) (hj : strDigitsOk j = true) :
    strDigitsOk i = true := by
  have hpos : 0 < maxStrDigits := by decide
  simp only [strDigitsOk, decide_eq_true_eq] at hj ⊢
  rw [Nat.length_toDigits_le_iff (by decide) hpos] at hj ⊢
  omega

theorem digitsOk_nullable {α : Type} {wire : α → Json} {o : Option α}
    (h : ∀ a ∈ o, (wire a).digitsOk = true) : (nullableWire wire o).digitsOk = true := by
  cases o with
  | none => rfl
  | some a => exact h a rfl

/-- The integers of a record without a result can be rendered. -/
structure Record.Renders (r : Record) : Prop where
  binding : (bindingWire r.binding).digitsOk = true
  evidence : ∀ id item, r.evidence.get? id = some item → strDigitsOk item.byteCount = true
  result : r.resultEnvelope = none ∧ r.committedEvidenceManifest = none

theorem Record.Renders.digitsOk {r : Record} (h : r.Renders) : (recordWire r).digitsOk = true := by
  have hbytes : ∀ o : Option Bytes, (nullableWire bytesWire o).digitsOk = true :=
    fun o => digitsOk_nullable fun _ _ => rfl
  have htimes : ∀ o : Option Datetime, (nullableWire datetimeWire o).digitsOk = true :=
    fun o => digitsOk_nullable fun _ _ => rfl
  have hevidence : (Json.arr ((ordered r.evidence).map fun e => evidenceWire e.2)).digitsOk =
      true := by
    rw [Json.digitsOk, itemsDigitsOk_iff, List.forall_mem_map]
    intro e he
    have hcount := h.evidence _ _ (mem_ordered.mp he)
    simp [evidenceWire, evidenceFields, Json.digitsOk, fieldsDigitsOk, bytesWire, uuidWire, hcount]
  have hresult : (nullableWire resultWire r.resultEnvelope).digitsOk = true := by
    rw [h.result.1]
    rfl
  have hmanifest : (nullableWire manifestWire r.committedEvidenceManifest).digitsOk = true := by
    rw [h.result.2]
    rfl
  have hbinding := h.binding
  unfold recordWire recordFields
  rw [Json.digitsOk]
  simp only [fieldsDigitsOk, hbinding, hbytes, htimes, hevidence, hresult, hmanifest]
  rfl

theorem encodeState_of_renders (hs : Coherent inst.config s)
    (hrecords : ∀ id r, s.records.get? id = some r → r.Renders) :
    ∃ b, encodeState s = some b := by
  have hrenders : ∀ {n : Nat}, n ∈ inst.limits.fingerprint → ∀ {i : Int}, 0 ≤ i → i ≤ n →
      strDigitsOk i = true :=
    fun hn _ hi hle => strDigitsOk_of_le hi hle (inst.renders _ hn)
  obtain ⟨hactive, hevidence, hcommitted⟩ := hs.totals_nonneg
  have hactive := hrenders (n := inst.limits.maxTotalActiveMaterialBytes)
    (by simp [MailboxLimits.fingerprint]) hactive hs.active
  have hevidence := hrenders (n := inst.limits.maxTotalEvidenceBytes)
    (by simp [MailboxLimits.fingerprint]) hevidence hs.evidence
  have hcommitted := hrenders (n := inst.limits.maxTotalCommittedBytes)
    (by simp [MailboxLimits.fingerprint]) hcommitted hs.committed
  have hitems : (Json.arr ((ordered s.records).map fun e => recordWire e.2)).digitsOk = true := by
    rw [Json.digitsOk, itemsDigitsOk_iff, List.forall_mem_map]
    exact fun e he => (hrecords _ _ (mem_ordered.mp he)).digitsOk
  have htombstones : (Json.arr ((ordered s.tombstones).map tombstoneWire)).digitsOk = true := by
    rw [Json.digitsOk, itemsDigitsOk_iff, List.forall_mem_map]
    exact fun e _ => rfl
  have htime : (nullableWire datetimeWire s.installationLastSeenUtc).digitsOk = true :=
    digitsOk_nullable fun _ _ => rfl
  have hversion : (Json.int frameVersion).digitsOk = true := rfl
  have hdigits : (stateWire s).digitsOk = true := by
    unfold stateWire stateFields
    rw [Json.digitsOk]
    simp only [fieldsDigitsOk, hitems, htombstones, htime, hversion]
    simp only [Json.digitsOk, hactive, hevidence, hcommitted]
    rfl
  exact ⟨_, if_pos hdigits⟩

/-! ### A database on its course -/

/-- What is loaded after the events. -/
def Loads (inst : Installation) (es : List Event) (s : Repository) : Prop :=
  ∃ row generation, stored inst es = some row ∧ loadRepository inst row = .ok (generation, s) ∧
    generation < es.length

theorem loadRepository_eq_ok {row : Row} {generation : Int}
    (h : loadRepository inst row = .ok (generation, s)) : ∃ serialized, 0 ≤ generation ∧
      decodeState inst.limits serialized = some s ∧ encodeState s = some serialized := by
  unfold loadRepository at h
  simp only [bind_eq_ok_iff, ensure_eq_ok, exists_const] at h
  obtain ⟨⟨-, hpos, -⟩, -, h⟩ := h
  split at h
  · exact nomatch h
  · next serialized _ =>
    split at h
    · exact nomatch h
    · next s' hdecode =>
      simp only [bind_eq_ok_iff, ensure_eq_ok, exists_const, pure_eq_ok_iff, Prod.mk.injEq] at h
      obtain ⟨_, _, _, _, hencode, rfl, rfl⟩ := h
      exact ⟨serialized, hpos, hdecode, hencode⟩

theorem Loads.storable (h : Loads inst es s) : Storable inst.config s := by
  obtain ⟨row, generation, hrow, hload, -⟩ := h
  exact storable_loaded hrow hload

theorem openHandle_first {row : Row} (hwrite : writeRepository inst .empty 0 nonce = .ok row) :
    (openHandle inst none nonce .sound).2 = some row := by
  -- the fate stays a variable until the written row is in place, or the kernel computes it
  have hsound : ∀ fate, fate = .sound → (openHandle inst none nonce fate).2 = some row := by
    intro fate hfate
    unfold openHandle
    generalize writeRepository inst .empty 0 nonce = written at hwrite ⊢
    subst hwrite hfate
    rfl
  exact hsound _ rfl

theorem loads_opened (hb : encodeState .empty = some b)
    (hlength : b.length ≤ inst.limits.maxSerializedBytes) :
    Loads inst [.opens nonce .sound] .empty := by
  obtain ⟨row, hwrite⟩ := (@writeRepository_of_coherent inst .empty 0 nonce (coherent_empty _)
    (by decide) b hb).1 hlength
  have hload := (load_write (storable_empty _) hwrite).1 shortEnvelopes_empty
  have hstored := stored_append inst [] (.opens nonce .sound)
  have hnone : stored inst [] = none := rfl
  rw [hnone, Event.row, openHandle_first hwrite] at hstored
  exact ⟨row, 0, hstored, hload, Int.zero_lt_one⟩

/-- A request that the machine serves, and whose state the adapter can write and load. -/
theorem Loads.serves (h : Loads inst es s) (hcall : request.call inst.config = .ok call)
    (hout : (apply inst.config s (call, env)).1 ≠ .error .valueError)
    (hshort : ShortEnvelopes (apply inst.config s (call, env)).2)
    (hb : encodeState (apply inst.config s (call, env)).2 = some b)
    (hlength : b.length ≤ inst.limits.maxSerializedBytes)
    (hes : (es.length : Int) < maxFrameGeneration) :
    Loads inst (es ++ [.serves request env nonce .sound])
      (apply inst.config s (call, env)).2.canonical := by
  have hstorable := h.storable.apply hcall env
  obtain ⟨row, generation, hrow, hload, hgeneration⟩ := h
  obtain ⟨before, hpos, hdecode, hencode⟩ := loadRepository_eq_ok hload
  have hserved : stored inst (es ++ [.serves request env nonce .sound]) =
      (transact inst (some row) generation s (call, env) nonce .sound).row := by
    rw [stored_append, hrow, Event.row, hcall]
    dsimp only [transition]
    rw [hload]
  unfold transact at hserved
  dsimp only at hserved
  rw [if_neg hout, hencode, hb] at hserved
  dsimp only at hserved
  have hlast : (es ++ [Event.serves request env nonce .sound]).length = es.length + 1 := by simp
  by_cases hequal : before = b
  · -- the row stays, and what it holds is the state in canonical order
    subst hequal
    rw [if_pos rfl] at hserved
    have hcanonical := (@decodeState_encodeState inst.limits _ s before hstorable.coherent.keyed
      hb).mp hdecode
    rw [hcanonical.2.2]
    exact ⟨row, generation, hserved, hload, by omega⟩
  · obtain ⟨next, hwrite⟩ := (@writeRepository_of_coherent inst _ (generation + 1) nonce
      hstorable.coherent ⟨by omega, by omega⟩ b hb).1 hlength
    rw [if_neg hequal, hwrite] at hserved
    exact ⟨next, generation + 1, hserved, (load_write hstorable hwrite).1 hshort, by omega⟩

/-! ### The course of one mailbox -/

namespace Sample

/-- The first call of the course. -/
def openCall (c : ActionBinding) : Call :=
  .create c (credentialDigest actionKey) (credentialDigest claimCredential)
    (credentialDigest collectionCredential)

def offerCall (c : ActionBinding) (e : Bytes) : Call :=
  .offer c e actionKey (credentialDigest actionKey) (credentialDigest collectionCredential)
    issuedCredential (credentialDigest issuedCredential)

/-- The record when its mailbox is opened, and when the action is offered. -/
def blankOf (c : ActionBinding) : Record :=
  .opened c (credentialDigest actionKey) (credentialDigest claimCredential)
    (credentialDigest collectionCredential) now

def offeredOf (c : ActionBinding) (e : Bytes) : Record :=
  (blankOf c).offeredWith e actionKey issuedCredential (credentialDigest issuedCredential) now

end Sample

open Sample

/-- What the course needs: the action `e`, received as `j` and bound by `c`, is admitted, and a
state without evidence can be written. -/
structure Course (inst : Installation) (c : ActionBinding) (j e : Bytes) : Prop where
  offer : (Request.offer c j actionKey collectionCredential issuedCredential).call inst.config =
    .ok (offerCall c e)
  digests : [inst.maintenanceCredentialDigest, credentialDigest actionKey,
    credentialDigest claimCredential, credentialDigest collectionCredential,
    credentialDigest issuedCredential].Nodup
  deadline : now < c.claimDeadlineUtc
  renders : (bindingWire c).digitsOk = true
  quota : e.length + 64 ≤ inst.limits.maxTotalActiveMaterialBytes
  written : ∀ s, Storable inst.config s → s.totalEvidenceBytes = 0 → ∀ b, encodeState s = some b →
    b.length ≤ inst.limits.maxSerializedBytes

/-- The course has come to the record `r`, the only one of the repository. -/
structure OnCourse (inst : Installation) (es : List Event) (c : ActionBinding) (r : Record)
    (s : Repository) : Prop where
  loads : Loads inst es s
  found : s.records.get? c.mailboxId = some r
  alone : ∀ id ≠ c.mailboxId, s.records.get? id = none
  notAfter : s.notAfter now

variable {c : ActionBinding} {j e : Bytes} {r r' : Record}

theorem canonical_of_empty (h : r.evidence = .empty) : r.canonical = r := by
  have hsorted : sortedDict r.evidence = r.evidence := by
    rw [h]
    rfl
  rw [Record.canonical, hsorted]

/-- One step of the course, while there is no evidence. -/
theorem Course.step (h : Course inst c j e) (hs : Loads inst es s)
    (hes : (es.length : Int) < maxFrameGeneration)
    (hcall : request.call inst.config = .ok call) (hclock : env.clock = some now) {v : Reply}
    (hv : (apply inst.config s (call, env)).1 = .ok v)
    (hfound : (apply inst.config s (call, env)).2.records.get? c.mailboxId = some r')
    (halone : ∀ id ≠ c.mailboxId, (apply inst.config s (call, env)).2.records.get? id = none)
    (hrenders : r'.Renders) (hempty : r'.evidence = .empty)
    (hshort : ∀ x ∈ r'.envelopeJson, x.length ≤ maxActionEnvelopeBytes) :
    OnCourse inst (es ++ [.serves request env env.nonce .sound]) c r'
      (apply inst.config s (call, env)).2.canonical := by
  have hstorable := hs.storable.apply hcall env
  have hafter := notAfter_of_ok hv hclock
  have honly : ∀ {id : Uuid} {x : Record},
      (apply inst.config s (call, env)).2.records.get? id = some x → x = r' := by
    intro id x hx
    by_cases hid : id = c.mailboxId
    · rw [hid, hfound] at hx
      exact (Option.some.inj hx).symm
    · rw [halone id hid] at hx
      cases hx
  obtain ⟨b, hb⟩ := encodeState_of_renders hstorable.coherent
    fun id x hx => (honly hx).symm ▸ hrenders
  have hevidence : (apply inst.config s (call, env)).2.totalEvidenceBytes = 0 := by
    rw [hstorable.coherent.totals.2.1, Dict.sum_eq_single hfound halone, Record.evidenceBytes,
      hempty]
    rfl
  have hlength := h.written _ hstorable hevidence b hb
  have hvalue : (apply inst.config s (call, env)).1 ≠ .error .valueError := by
    rw [hv]
    exact fun h => by cases h
  refine ⟨hs.serves hcall hvalue ?_ hb hlength hes, ?_, fun id hid => ?_, hafter⟩
  · exact fun id x hx => (honly hx).symm ▸ hshort
  · rw [get?_canonical, hfound, Option.map_some, canonical_of_empty hempty]
  · rw [get?_canonical, halone id hid]
    rfl

namespace Course
variable (h : Course inst c j e)
include h

theorem renders_blank : (blankOf c).Renders :=
  ⟨h.renders, (fun _ _ hitem => nomatch hitem), rfl, rfl⟩

theorem renders_offered : (offeredOf c e).Renders :=
  ⟨h.renders, (fun _ _ hitem => nomatch hitem), rfl, rfl⟩

theorem fresh : inst.config.maintenanceCredentialDigest ∉ [credentialDigest actionKey,
      credentialDigest claimCredential, credentialDigest collectionCredential,
      credentialDigest issuedCredential] ∧
    [credentialDigest actionKey, credentialDigest claimCredential,
      credentialDigest collectionCredential, credentialDigest issuedCredential].Nodup :=
  List.nodup_cons.mp h.digests

theorem loads_empty : Loads inst [.opens Sample.env.nonce .sound] .empty := by
  obtain ⟨b, hb⟩ := encodeState_of_renders (coherent_empty inst.config) fun _ _ hr => nomatch hr
  exact loads_opened hb (h.written _ (storable_empty _) rfl b hb)

omit h in
theorem open_request : (Request.openEmpty c actionKey claimCredential collectionCredential).call
    inst.config = .ok (openCall c) := by
  rw [Request.call]
  rfl

theorem open_spec :
    (apply inst.config .empty (openCall c, Sample.env)).1 =
        .ok (.snapshot (snapshotOf (blankOf c))) ∧
      (apply inst.config .empty (openCall c, Sample.env)).2 =
        { Repository.empty with
          records := Dict.empty.set c.mailboxId (blankOf c)
          installationLastSeenUtc := some now } := by
  obtain ⟨hmaintenance, hnodup⟩ := h.fresh
  have hsub := List.sublist_append_left [credentialDigest actionKey,
    credentialDigest claimCredential, credentialDigest collectionCredential]
    [credentialDigest issuedCredential]
  have hv : (apply inst.config .empty (openCall c, Sample.env)).1 =
      .ok (.snapshot (snapshotOf (blankOf c))) :=
    create_ok rfl (fun t ht => nomatch ht) rfl rfl inst.limits.positive.1 (hnodup.sublist hsub)
      (fun hd => hmaintenance (hsub.subset hd)) (fun _ _ => rfl) h.deadline
  exact ⟨hv, create_state hv rfl⟩

theorem open_found : (apply inst.config .empty (openCall c, Sample.env)).2.records.get?
      c.mailboxId = some (blankOf c) ∧
    ∀ id ≠ c.mailboxId,
      (apply inst.config .empty (openCall c, Sample.env)).2.records.get? id = none := by
  rw [h.open_spec.2]
  exact ⟨Dict.get?_set_self .., fun id hid => Dict.get?_set_ne _ _ hid⟩

/-- The first handle, and the mailbox. -/
theorem opened : ∃ es s, es.length = 2 ∧ OnCourse inst es c (blankOf c) s := by
  obtain ⟨hfound, halone⟩ := h.open_found
  exact ⟨_, _, rfl, h.step h.loads_empty (by decide) open_request rfl h.open_spec.1 hfound halone
    h.renders_blank rfl fun _ hx => by cases hx⟩

/-- What the machine makes of the offer. -/
theorem offered_spec (hs : OnCourse inst es c (blankOf c) s) :
    (apply inst.config s (offerCall c e, Sample.env)).1 =
        .ok (.snapshot (snapshotOf (offeredOf c e))) ∧
      (apply inst.config s (offerCall c e, Sample.env)).2.records.get? c.mailboxId =
        some (offeredOf c e) := by
  obtain ⟨hmaintenance, hnodup⟩ := h.fresh
  have hcoherent := hs.loads.storable.coherent
  obtain ⟨m, access⟩ := hcoherent.access hs.found (show Sample.env.clock = some now from rfl)
    hs.notAfter
  refine offer_ok (b := c) access rfl rfl rfl rfl h.deadline hnodup ?_ ?_ ?_
  · exact fun hd => hmaintenance (hd ▸ by simp)
  · rw [credentialInUse_eq_false]
    intro id r hr hne
    rw [hs.alone id fun hid => hne (congrArg some hid)] at hr
    exact nomatch hr
  · have htotal : s.totalActiveMaterialBytes = 0 := by
      rw [hcoherent.totals.1, Dict.sum_eq_single hs.found hs.alone]
      rfl
    have hquota : e.length + 64 ≤ inst.config.limits.maxTotalActiveMaterialBytes := h.quota
    have hkeys : actionKey.length = 32 ∧ issuedCredential.length = 32 := ⟨rfl, rfl⟩
    omega

variable (hshort : e.length ≤ maxActionEnvelopeBytes)
include hshort

theorem offered : ∃ es s, es.length = 3 ∧ OnCourse inst es c (offeredOf c e) s := by
  obtain ⟨es, s, hes, hs⟩ := h.opened
  obtain ⟨hv, hfound⟩ := h.offered_spec hs
  refine ⟨_, _, ?_, h.step hs.loads (hes ▸ by decide) h.offer rfl hv hfound (fun id hid => ?_)
    h.renders_offered rfl fun x hx => ?_⟩
  · rw [List.length_append, hes]
    rfl
  · exact absent_of_not_isCreate rfl (hs.alone id hid)
  · obtain rfl := Option.some.inj hx
    exact hshort

/-- The action is claimed, and the mailbox waits for evidence. -/
theorem claimed (hne : e ≠ []) : ∃ es s, es.length = 4 ∧
    OnCourse inst es c ((offeredOf c e).afterClaim now) s := by
  obtain ⟨es, s, hes, hs⟩ := h.offered hshort
  obtain ⟨m, access⟩ := hs.loads.storable.coherent.access hs.found
    (show Sample.env.clock = some now from rfl) hs.notAfter
  have hvalid : ClaimedFields.wellFormed ⟨c, e, actionKey, issuedCredential⟩ = true := by
    simp only [ClaimedFields.wellFormed, Bool.and_eq_true, decide_eq_true_eq]
    exact ⟨⟨⟨hne, hshort⟩, by decide⟩, by decide⟩
  obtain ⟨hv, hfound⟩ := claim_ok (b := c) access rfl rfl rfl h.deadline rfl rfl rfl rfl
    rfl
  rw [ClaimedAction.make, dif_pos hvalid] at hv
  have hcall : (Request.claim c claimCredential).call inst.config =
      .ok (.claim c (credentialDigest claimCredential)) := by
    rw [Request.call]
    rfl
  refine ⟨_, _, ?_, h.step hs.loads (hes ▸ by decide) hcall rfl hv hfound (fun id hid => ?_)
    ⟨h.renders, (fun _ _ hitem => by cases hitem), rfl, rfl⟩ rfl fun _ hx => by cases hx⟩
  · rw [List.length_append, hes]
    rfl
  · exact absent_of_not_isCreate rfl (hs.alone id hid)

end Course

/-! ### An envelope that outgrows the decoder -/

namespace Oversized

/-- The installation of the defaults in which the long action of the sample is offered. -/
def installation : Installation where
  aead := .aesGcm
  pydantic := sample.pydantic
  limits := .default
  maintenanceCredentialDigest := List.replicate 32 0
  storageKey := List.replicate 32 255
  installationEpoch := List.replicate 32 1
  restoreEpoch := List.replicate 32 2
  lengths := by decide
  distinct := by decide
  renders := by decide +kernel

theorem course : Course installation sample.binding sample.received sample.canonical where
  offer := by
    have hparse : parseAction installation.config sample.received =
        .ok (sample.action, sample.canonical) := by
      unfold parseAction
      rw [ensure_bind ⟨sample.received_ne_nil, admissible.received⟩]
      have hvalidate : installation.config.pydantic.validateAction sample.received =
          some sample.action := Sample.validateAction_of_eq rfl
      rw [hvalidate]
      rfl
    rw [Request.call, hparse, ok_bind]
    dsimp only
    rw [requireActionBinding, ensure_bind ⟨rfl, rfl, rfl, rfl, rfl, rfl, rfl, rfl, rfl, rfl, rfl⟩]
    rfl
  digests := sample.digests_nodup
  deadline := by
    show now < claimDeadline
    decide
  renders := by
    have hints : strDigitsOk 1 = true ∧ strDigitsOk 60 = true ∧ strDigitsOk 2097152 = true := by
      decide +kernel
    simp [bindingWire, bindingFields, Json.digitsOk, fieldsDigitsOk, uuidWire, datetimeWire, binding,
      Sample.bindingFields, hints]
  quota := by
    rw [length_canonical]
    decide
  written := fun s hs _ b hb =>
    @MailboxLimits.Roomy.length_le installation.config s (by decide) hs b hb

/-- The offer is accepted and its state is written, and what is written cannot be loaded. -/
theorem written_unloadable : ∃ es s row, Reached installation es s ∧
    writeRepository installation s 2 Sample.env.nonce = .ok row ∧
    loadRepository installation row = .error uncertain := by
  obtain ⟨es, s, -, hs⟩ := course.opened
  obtain ⟨hv, hfound⟩ := course.offered_spec hs
  obtain ⟨row, generation, hrow, hload, -⟩ := hs.loads
  have hreached : Reached installation _ _ :=
    .served Sample.env Sample.env.nonce .sound hrow hload course.offer
  have hstorable := hreached.storable
  have hlong : ¬ShortEnvelopes (apply installation.config s (offerCall sample.binding sample.canonical,
      Sample.env)).2 := by
    intro hshort
    have hle := hshort _ _ hfound _ rfl
    rw [length_canonical] at hle
    exact absurd hle (by decide)
  have honly : ∀ id r, (apply installation.config s (offerCall sample.binding sample.canonical,
      Sample.env)).2.records.get? id = some r → r.Renders := by
    intro id r hr
    by_cases hid : id = sample.binding.mailboxId
    · rw [hid, hfound] at hr
      exact Option.some.inj hr ▸ course.renders_offered
    · rw [absent_of_not_isCreate rfl (hs.alone id hid)] at hr
      exact nomatch hr
  obtain ⟨b, hb⟩ := encodeState_of_renders hstorable.coherent honly
  have hlength : b.length ≤ installation.limits.maxSerializedBytes :=
    @MailboxLimits.Roomy.length_le installation.config _ (by decide) hstorable b hb
  obtain ⟨next, hwrite⟩ := (@writeRepository_of_coherent installation _ 2 Sample.env.nonce
    hstorable.coherent (by decide) b hb).1 hlength
  exact ⟨_, _, next, hreached, hwrite, (load_write hstorable hwrite).2 hlong⟩

/-- The long action is not refused for the size of the frame. -/
theorem offered_not_oversize : ∃ es row generation s, installation.limits.Roomy ∧
    stored installation es = some row ∧ loadRepository installation row = .ok (generation, s) ∧
    (Request.offer sample.binding sample.received actionKey collectionCredential
      issuedCredential).call installation.config =
        .ok (offerCall sample.binding sample.canonical) ∧
    ∀ b, encodeState (apply installation.config s (offerCall sample.binding sample.canonical,
      Sample.env)).2 = some b → b.length ≤ installation.limits.maxSerializedBytes := by
  obtain ⟨es, s, -, hs⟩ := course.opened
  obtain ⟨row, generation, hrow, hload, -⟩ := hs.loads
  have hroomy : installation.limits.Roomy := by decide
  exact ⟨es, row, generation, s, hroomy, hrow, hload, course.offer,
    (accepted_not_oversize installation hroomy es row hrow generation s hload _ _ course.offer
      Sample.env).1⟩

end Oversized

/-! ### Evidence that outgrows the frame -/

/-- A frame is longer than the Base64 text of every piece of evidence in it. -/
theorem length_evidence_lt {s : Repository} {id slot : Uuid} {r : Record} {item : WrappedEvidence}
    {b : Bytes} (hr : s.records.get? id = some r) (hitem : r.evidence.get? slot = some item)
    (hb : encodeState s = some b) : 4 * item.wrappedPayload.length < 3 * b.length := by
  have hpayload : (bytesWire item.wrappedPayload).text.length = _ :=
    Base64.length_text_encode item.wrappedPayload
  have hevidence : (bytesWire item.wrappedPayload).text.length ≤ (evidenceWire item).text.length :=
    length_text_le_obj (f := ("wrapped_payload".toList, bytesWire item.wrappedPayload))
      (by simp [evidenceFields])
  have hitems : (evidenceWire item).text.length ≤
      (Json.arr ((ordered r.evidence).map fun e => evidenceWire e.2)).text.length :=
    length_text_le_arr (List.mem_map.mpr ⟨(slot, item), mem_ordered.mpr hitem, rfl⟩)
  have hrecord : (Json.arr ((ordered r.evidence).map fun e => evidenceWire e.2)).text.length ≤
      (recordWire r).text.length :=
    length_text_le_obj (f := ("evidence".toList, _)) (by simp [recordFields])
  have hrecords : (recordWire r).text.length ≤
      (Json.arr ((ordered s.records).map fun e => recordWire e.2)).text.length :=
    length_text_le_arr (List.mem_map.mpr ⟨(id, r), mem_ordered.mpr hr, rfl⟩)
  have hstate : (Json.arr ((ordered s.records).map fun e => recordWire e.2)).text.length ≤
      (stateWire s).text.length :=
    length_text_le_obj (f := ("records".toList, _)) (by simp [stateFields])
  have hlength := length_dumps hb
  omega

namespace Tight

/-- The text of the small action of the sample, with the greatest budget. -/
def text : Bytes :=
  frontTexts.flatMap ascii ++ attributesText [("a", 4)] ++ middleTexts.flatMap ascii ++
    ascii "2030-01-01T00:00:00Z" ++ ascii "\",\"attempt\":0,\"budget\":" ++
    ascii "\x7b\"wall_seconds\":60,\"response_bytes\":67108864\x7d\x7d"

theorem length_text : text.length = 524 := by decide +kernel

theorem text_ne_nil : text ≠ [] := by
  intro h
  have hlength := length_text
  rw [h] at hlength
  exact absurd hlength (by decide)

def action : ActionEnvelope := { small.action with budget := ⟨60, 67108864⟩ }

def pydantic : Pydantic :=
  { small.pydantic with
    validateAction := fun b => if b = text then some action else none
    dumpAction := fun _ => text
    action_round_trip := fun b m h => by
      split_ifs at h
      rw [if_pos rfl]
      exact h
    action_nonempty := if_neg text_ne_nil.symm }

/-- One mailbox, and a quota of evidence that is a multiple of the frame's overhead. -/
def limits : MailboxLimits where
  maxMailboxes := 1
  maxTotalActiveMaterialBytes := 1000
  maxTotalEvidenceBytes := 33554432
  maxTotalCommittedBytes := 1
  terminalRetention := 7 * microsPerDay
  tombstoneRetention := 30 * microsPerDay
  maxTombstones := 1
  positive := by decide

def installation : Installation where
  aead := .aesGcm
  pydantic := pydantic
  limits := limits
  maintenanceCredentialDigest := List.replicate 32 0
  storageKey := List.replicate 32 255
  installationEpoch := List.replicate 32 1
  restoreEpoch := List.replicate 32 2
  lengths := by decide
  distinct := by decide
  renders := by decide +kernel

def fields : BindingFields :=
  { small.bindingFields with responseBytes := 67108864, envelopeDigest := sha256Text text }

theorem fields_wellFormed : fields.wellFormed = true := by
  have htexts : (isConnectorRelease "demo@1.0.0".toList && isCapabilityText "observe".toList &&
      isDigest artifactDigest) = true := by decide +kernel
  simp only [Bool.and_eq_true] at htexts
  simp only [BindingFields.wellFormed, fields, Sample.bindingFields, isDigest_sha256Text, htexts]
  rfl

def binding : ActionBinding := ⟨fields, fields_wellFormed⟩

theorem validateAction_of_eq {j : Bytes} (hj : j = text) :
    pydantic.validateAction j = some action := if_pos hj

theorem course : Course installation binding text text where
  offer := by
    have hparse : parseAction installation.config text = .ok (action, text) := by
      have hlength : text.length ≤ maxActionEnvelopeBytes := by
        rw [length_text]
        decide
      have hvalidate : installation.config.pydantic.validateAction text = some action :=
        validateAction_of_eq rfl
      unfold parseAction
      rw [ensure_bind ⟨text_ne_nil, hlength⟩, hvalidate]
      rfl
    have hdigest : sha256Text text = binding.envelopeDigest := rfl
    rw [Request.call, hparse, ok_bind]
    dsimp only
    rw [requireActionBinding,
      ensure_bind ⟨rfl, rfl, rfl, rfl, rfl, rfl, rfl, rfl, rfl, rfl, hdigest⟩]
    rfl
  digests := small.digests_nodup
  deadline := by
    show now < claimDeadline
    decide
  renders := by
    have hints : strDigitsOk 1 = true ∧ strDigitsOk 60 = true ∧ strDigitsOk 67108864 = true := by
      decide +kernel
    simp [bindingWire, bindingFields, Json.digitsOk, fieldsDigitsOk, uuidWire, datetimeWire, binding,
      fields, Sample.bindingFields, hints]
  quota := by
    rw [length_text]
    decide
  written := by
    intro s hs hevidence b hb
    have hlength := length_encodeState_le hs hb
    have hactive : s.totalActiveMaterialBytes ≤ 1000 := hs.coherent.active
    have hmailboxes : s.records.size ≤ 1 := hs.coherent.mailboxes
    have htombstones : s.tombstones.size ≤ 1 := hs.coherent.tombstones
    have hbound : installation.limits.maxSerializedBytes = 41944041 := by decide
    unfold recordTextRoom tombstoneTextRoom frameTextRoom at hlength
    rw [hevidence] at hlength
    omega

/-- The state with the mailbox is written and loaded again. -/
theorem written_loads_opened : ∃ es s row, Reached installation es s ∧
    s.records.get? binding.mailboxId = some (blankOf binding) ∧
    writeRepository installation s 1 Sample.env.nonce = .ok row ∧
    ∃ s', loadRepository installation row = .ok (1, s') ∧ s.Same s' := by
  obtain ⟨hfound, halone⟩ := course.open_found
  obtain ⟨row, generation, hrow, hload, -⟩ := course.loads_empty
  have hreached : Reached installation _ _ :=
    .served Sample.env Sample.env.nonce .sound hrow hload (Course.open_request (c := binding))
  have hstorable := hreached.storable
  obtain ⟨b, hb⟩ := encodeState_of_renders hstorable.coherent fun id r hr => by
    by_cases hid : id = binding.mailboxId
    · rw [hid, hfound] at hr
      exact Option.some.inj hr ▸ course.renders_blank
    · rw [halone id hid] at hr
      exact nomatch hr
  have hevidence : (apply installation.config .empty
      (openCall binding, Sample.env)).2.totalEvidenceBytes = 0 := by
    rw [course.open_spec.2]
    rfl
  obtain ⟨next, hwrite⟩ := (@writeRepository_of_coherent installation _ 1 Sample.env.nonce
    hstorable.coherent (by decide) b hb).1 (course.written _ hstorable hevidence b hb)
  have hloads := written_loads installation _ _ hreached 1 Sample.env.nonce next hwrite
  refine ⟨_, _, next, hreached, hfound, hwrite, hloads.1.mpr (hloads.2 fun e he => ?_)⟩
  simp only [List.cons_append, List.nil_append, List.mem_cons, List.not_mem_nil, or_false] at he
  rcases he with rfl | rfl <;> trivial

def payload : Bytes := List.replicate 33554432 0

def uploadFields : UploadFields := ⟨sampleUuid 6, "page".toList, sha256Text payload, payload⟩

theorem length_payload : payload.length = 33554432 := List.length_replicate

theorem uploadFields_wellFormed : uploadFields.wellFormed = true := by
  have hsize : payload ≠ [] ∧ payload.length ≤ maxEvidenceBytes := by
    refine ⟨fun h => ?_, length_payload ▸ by decide⟩
    have hlength := length_payload
    rw [h] at hlength
    exact absurd hlength (by decide)
  have hkind : (sampleUuid 6).isV4 = true ∧ isEvidenceKind "page".toList = true := by decide
  simp only [UploadFields.wellFormed, uploadFields, isDigest_sha256Text, Bool.and_eq_true]
  exact ⟨⟨hkind, trivial⟩, decide_eq_true hsize.1, decide_eq_true hsize.2⟩

def upload : EvidenceUpload := ⟨uploadFields, uploadFields_wellFormed⟩

/-- The call of the evidence's request. -/
def stageCall : Call := .stageEvidence binding (credentialDigest issuedCredential) upload

theorem stage_request :
    (Request.stageEvidence binding issuedCredential upload).call installation.config =
      .ok stageCall := by
  have hsize : upload.payload.length ≤ maxEvidenceBytes := by
    show payload.length ≤ _
    rw [length_payload]
    decide
  have hdigest : sha256Text upload.payload = upload.payloadDigest := rfl
  rw [Request.call, requireCredentialBytes, ensure_bind (by decide), ensure_bind hsize,
    ensure_bind hdigest]
  rfl

/-- The record with the evidence. -/
def filled : Record :=
  ((offeredOf binding text).afterClaim now).withEvidence
    (wrap installation.config binding.mailboxId upload Sample.env.nonce) now

theorem evidence_filled : filled.evidence.get? (sampleUuid 6) =
    some (wrap installation.config binding.mailboxId upload Sample.env.nonce) :=
  Dict.get?_set_self ..

theorem byteCount_wrap (m : Uuid) (nonce : Nonce) :
    (wrap installation.config m upload nonce).byteCount = 33554432 := by
  have hcount : (wrap installation.config m upload nonce).byteCount = payload.length := rfl
  rw [hcount, length_payload]
  rfl

theorem renders_filled : filled.Renders := by
  refine ⟨course.renders, fun id item hitem => ?_, rfl, rfl⟩
  have hrenders : strDigitsOk 33554432 = true := by decide +kernel
  rw [filled, Record.withEvidence, Dict.get?_set] at hitem
  split_ifs at hitem
  · obtain rfl := Option.some.inj hitem
    rw [byteCount_wrap]
    exact hrenders
  · cases hitem

theorem staged_spec {es : List Event} {s : Repository}
    (hs : OnCourse installation es binding ((offeredOf binding text).afterClaim now) s) :
    (apply installation.config s (stageCall, Sample.env)).1 = .ok (.snapshot (snapshotOf filled)) ∧
      (apply installation.config s (stageCall, Sample.env)).2.records.get? binding.mailboxId =
        some filled := by
  have hcoherent := hs.loads.storable.coherent
  obtain ⟨m, access⟩ := hcoherent.access hs.found (show Sample.env.clock = some now from rfl) hs.notAfter
  have hlt : now < deadline := by decide
  have hevidence : s.totalEvidenceBytes = 0 := by
    rw [hcoherent.totals.2.1, Dict.sum_eq_single hs.found hs.alone]
    rfl
  have hpayload : upload.payload.length = 33554432 := length_payload
  have hquota : s.totalEvidenceBytes + upload.payload.length ≤
      installation.config.limits.maxTotalEvidenceBytes := by
    rw [hevidence, hpayload]
    decide
  have hbytes : ((offeredOf binding text).afterClaim now).evidenceBytes + upload.payload.length ≤
      binding.responseBytes := by
    rw [hpayload]
    decide
  exact stage_ok (b := binding) access rfl rfl rfl hlt rfl (show 0 < 64 by decide) hbytes hquota rfl
    fun _ => rfl

/-- The machine accepts the evidence, and the adapter refuses it for the size of the frame. -/
theorem staged_oversize : ∃ es row generation s,
    stored installation es = some row ∧
      loadRepository installation row = .ok (generation, s) ∧
      (Request.stageEvidence binding issuedCredential upload).call installation.config =
        .ok stageCall ∧
      (apply installation.config s (stageCall, Sample.env)).1 =
        .ok (.snapshot (snapshotOf filled)) ∧
      (transition installation (some row) (stageCall, Sample.env) Sample.env.nonce .sound).reply =
        some (.error (.denied .oversize)) := by
  have hshort : text.length ≤ maxActionEnvelopeBytes := by
    rw [length_text]
    decide
  obtain ⟨es, s, hes, hs⟩ := course.claimed hshort text_ne_nil
  obtain ⟨hv, hfound⟩ := staged_spec hs
  have hstorable := hs.loads.storable.apply stage_request Sample.env
  obtain ⟨row, generation, hrow, hload, hgeneration⟩ := hs.loads
  refine ⟨es, row, generation, s, hrow, hload, stage_request, hv, ?_⟩
  have honly : ∀ id r, (apply installation.config s (stageCall, Sample.env)).2.records.get? id =
      some r → r.Renders := by
    intro id r hr
    by_cases hid : id = binding.mailboxId
    · rw [hid, hfound] at hr
      exact Option.some.inj hr ▸ renders_filled
    · rw [absent_of_not_isCreate rfl (hs.alone id hid)] at hr
      exact nomatch hr
  obtain ⟨b, hb⟩ := encodeState_of_renders hstorable.coherent honly
  obtain ⟨before, hpos, hdecode, hencode⟩ := loadRepository_eq_ok hload
  have hlong : installation.limits.maxSerializedBytes < b.length := by
    have hlt := length_evidence_lt hfound evidence_filled hb
    have hlength := @length_wrap installation.config binding.mailboxId upload Sample.env.nonce
    rw [byteCount_wrap] at hlength
    have hbound : installation.limits.maxSerializedBytes = 41944041 := by decide
    omega
  have hwrite := (@writeRepository_of_coherent installation _ (generation + 1) Sample.env.nonce
    hstorable.coherent ⟨by omega, by unfold maxFrameGeneration; omega⟩ b hb).2 hlong
  have hnew : before ≠ b := by
    rintro rfl
    have hle := ((@decodeState_encodeState installation.limits s s before
      (storable_loaded hrow hload).coherent.keyed hencode).mp hdecode).1
    omega
  have hvalue : (apply installation.config s (stageCall, Sample.env)).1 ≠ .error .valueError := by
    rw [hv]
    exact nofun
  unfold transition
  dsimp only
  rw [hload]
  unfold transact
  dsimp only
  rw [if_neg hvalue, hencode, hb]
  dsimp only
  rw [if_neg hnew, hwrite]
  rfl

end Tight
end MyCogni.Mailbox
