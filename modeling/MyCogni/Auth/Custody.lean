import MyCogni.Auth.Code
import MyCogni.Base.Outcome
import MyCogni.Base.Struct
import Mathlib.Data.Finset.Card

/-! The binary record in which an installation keeps its authentication authorities: a header with
the binding and the generation, and one record for each of the five credentials. -/

namespace MyCogni.Auth

inductive AuthCustodyFailureCode where
  | unavailable
  | unsafeStorage
  | malformedRecord
  | bindingMismatch
  | forkedProcess
  | recoveryRequired
  | alreadyProvisioned
  | casMismatch
deriving DecidableEq

/-- What the functions of the record can raise. -/
inductive CustodyFault where
  | custody (code : AuthCustodyFailureCode)
  | typeError
  | valueError
  | keyError
  | structError
deriving DecidableEq

/-- The format version of every binding is 1. -/
structure AuthCustodyBinding where
  installationId : OpaqueId
  actorId : OpaqueId
  representedProfileId : OpaqueId
deriving DecidableEq

def custodySecretBytes : Nat := 32

structure AuthCustodyBundle where
  binding : AuthCustodyBinding
  generation : Nat
  operatorAuthority : OpaqueCredential
  serviceIdentity : OpaqueCredential
  initialBootstrap : RootCapability
  emergencyRevoke : RootCapability
  reprovision : RootCapability
  generation_range : 1 ≤ generation ∧ generation ≤ 2 ^ 64 - 1
  purposes : [initialBootstrap, emergencyRevoke, reprovision].map RootCapability.purpose =
    [.initialBootstrap, .emergencyRevoke, .reprovision]
  bound : ∀ root ∈ [initialBootstrap, emergencyRevoke, reprovision],
    (⟨root.installationId, root.actorId, root.representedProfileId⟩ : AuthCustodyBinding) = binding
  handles : ([operatorAuthority, serviceIdentity, initialBootstrap.credential,
    emergencyRevoke.credential, reprovision.credential].map OpaqueCredential.handle).toFinset.card = 5
  secrets : ∀ c ∈ [operatorAuthority, serviceIdentity, initialBootstrap.credential,
    emergencyRevoke.credential, reprovision.credential], c.secret.length = custodySecretBytes
deriving DecidableEq

namespace AuthCustodyBundle

def roots (b : AuthCustodyBundle) : List RootCapability :=
  [b.initialBootstrap, b.emergencyRevoke, b.reprovision]

def credentials (b : AuthCustodyBundle) : List OpaqueCredential :=
  b.operatorAuthority :: b.serviceIdentity :: b.roots.map RootCapability.credential

/-- The constructor, with its checks in order. -/
def make (binding : AuthCustodyBinding) (generation : Nat)
    (operatorAuthority serviceIdentity : OpaqueCredential)
    (initialBootstrap emergencyRevoke reprovision : RootCapability) :
    Except CustodyFault AuthCustodyBundle :=
  if hgeneration : _ then
    if hpurposes : _ then
      if hbound : _ then
        if hhandles : _ then
          if hsecrets : _ then
            .ok ⟨binding, generation, operatorAuthority, serviceIdentity, initialBootstrap,
              emergencyRevoke, reprovision, hgeneration, hpurposes, hbound, hhandles, hsecrets⟩
          else .error .valueError
        else .error .valueError
      else .error .valueError
    else .error .valueError
  else .error .valueError

theorem make_self (b : AuthCustodyBundle) :
    make b.binding b.generation b.operatorAuthority b.serviceIdentity b.initialBootstrap
      b.emergencyRevoke b.reprovision = .ok b := by
  unfold make
  rw [dif_pos b.generation_range, dif_pos b.purposes, dif_pos b.bound, dif_pos b.handles,
    dif_pos b.secrets]

theorem make_eq_ok {binding : AuthCustodyBinding} {generation : Nat}
    {operatorAuthority serviceIdentity : OpaqueCredential}
    {initialBootstrap emergencyRevoke reprovision : RootCapability} {b : AuthCustodyBundle}
    (h : make binding generation operatorAuthority serviceIdentity initialBootstrap emergencyRevoke
      reprovision = .ok b) :
    b.binding = binding ∧ b.generation = generation ∧ b.credentials = [operatorAuthority,
      serviceIdentity, initialBootstrap.credential, emergencyRevoke.credential,
      reprovision.credential] := by
  unfold make at h
  split_ifs at h
  cases h
  exact ⟨rfl, rfl, rfl⟩

theorem make_error {binding : AuthCustodyBinding} {generation : Nat}
    {operatorAuthority serviceIdentity : OpaqueCredential}
    {initialBootstrap emergencyRevoke reprovision : RootCapability} {e : CustodyFault}
    (h : make binding generation operatorAuthority serviceIdentity initialBootstrap emergencyRevoke
      reprovision = .error e) : e = .valueError := by
  unfold make at h
  split_ifs at h <;> cases h <;> rfl

end AuthCustodyBundle

/-! ### The format -/

namespace Custody

def magic : Bytes := ascii "MYCOGNI-AUTH-C" ++ [0, 0]

def version : Nat := 1

def count : Nat := 5

/-- `">16sBBQ16s16s16s"` -/
abbrev header : List Struct.Field :=
  [.bytes 16, .uint 1, .uint 1, .uint 8, .bytes 16, .bytes 16, .bytes 16]

/-- `">B16s32s"` -/
abbrev record : List Struct.Field := [.uint 1, .bytes 16, .bytes 32]

def fileBytes : Nat := Struct.calcsize header + count * Struct.calcsize record

def tags : List Nat := [1, 2, 10, 11, 12]

def rootTags : List (Nat × RootPurpose) :=
  [(10, .initialBootstrap), (11, .emergencyRevoke), (12, .reprovision)]

def malformed : CustodyFault := .custody .malformedRecord

/-- `except (TypeError, ValueError): _fail(MALFORMED_RECORD)` -/
def orMalformed {α : Type} : Except CustodyFault α → Except CustodyFault α
  | .error .typeError => .error malformed
  | .error .valueError => .error malformed
  | r => r

def orRaise {α : Type} (e : CustodyFault) : Option α → Except CustodyFault α
  | none => .error e
  | some a => .ok a

def uuid (raw : Bytes) : Except CustodyFault Uuid :=
  if h : raw.length = 16 then .ok ⟨raw, h⟩ else .error .valueError

def opaqueId (raw : Bytes) : Except CustodyFault OpaqueId :=
  orMalformed do
    let value ← uuid raw
    if h : value.isV4 = true then .ok ⟨value, h⟩ else .error .valueError

def credential (handle secret : Bytes) : Except CustodyFault OpaqueCredential :=
  orMalformed do
    let handle ← opaqueId handle
    ensure (OpaqueCredential.Valid ⟨handle, secret⟩) .valueError
    pure ⟨handle, secret⟩

def packRecord (tag : Nat) (c : OpaqueCredential) : Except CustodyFault Bytes :=
  orRaise .structError (Struct.pack record (tag, c.handle.value.bytes, c.secret, ()))

def serialize (bundle : AuthCustodyBundle) : Except CustodyFault Bytes := do
  let binding := bundle.binding
  let payload ← orRaise .structError (Struct.pack header (magic, version, count, bundle.generation,
    binding.installationId.value.bytes, binding.actorId.value.bytes,
    binding.representedProfileId.value.bytes, ()))
  let records ← (tags.zip bundle.credentials).mapM fun (tag, c) => packRecord tag c
  pure (payload ++ records.flatten)

/-- The loop over the tags, with the offset it has reached and the records read so far. -/
def readRecords (payload : Bytes) : Nat → List (Nat × OpaqueCredential) → List Nat →
    Except CustodyFault (List (Nat × OpaqueCredential))
  | _, records, [] => .ok records
  | offset, records, wanted :: tags => do
    let (tag, handle, secret, ()) ← orRaise malformed (Struct.unpackFrom record payload offset)
    ensure (tag = wanted ∧ tag ∉ records.map Prod.fst) malformed
    let c ← credential handle secret
    readRecords payload (offset + Struct.calcsize record) (records ++ [(tag, c)]) tags

def root (binding : AuthCustodyBinding) (records : List (Nat × OpaqueCredential)) (tag : Nat) :
    Except CustodyFault RootCapability := do
  let credential ← orRaise .keyError (records.lookup tag)
  let purpose ← orRaise .keyError (rootTags.lookup tag)
  pure ⟨credential, binding.installationId, binding.actorId, binding.representedProfileId, purpose⟩

/-- The bundle of the records. -/
def bundle (binding : AuthCustodyBinding) (generation : Nat)
    (records : List (Nat × OpaqueCredential)) : Except CustodyFault AuthCustodyBundle :=
  orMalformed do
    let operatorAuthority ← orRaise .keyError (records.lookup 1)
    let serviceIdentity ← orRaise .keyError (records.lookup 2)
    let initialBootstrap ← root binding records 10
    let emergencyRevoke ← root binding records 11
    let reprovision ← root binding records 12
    AuthCustodyBundle.make binding generation operatorAuthority serviceIdentity initialBootstrap
      emergencyRevoke reprovision

def parse (payload : Bytes) (expected : AuthCustodyBinding) :
    Except CustodyFault AuthCustodyBundle := do
  ensure (payload.length = fileBytes) malformed
  let (start, version', count', generation, installation, actor, profile, ()) ←
    orRaise malformed (Struct.unpackFrom header payload 0)
  ensure (start = magic ∧ version' = version ∧ count' = count ∧ 1 ≤ generation) malformed
  let installationId ← opaqueId installation
  let actorId ← opaqueId actor
  let representedProfileId ← opaqueId profile
  let binding : AuthCustodyBinding := ⟨installationId, actorId, representedProfileId⟩
  ensure (binding = expected) (.custody .bindingMismatch)
  let records ← readRecords payload (Struct.calcsize header) [] tags
  ensure ((records.map fun r => r.2.handle).toFinset.card = count) malformed
  bundle binding generation records

/-! ### What is accepted -/

theorem orRaise_eq_ok {α : Type} {e : CustodyFault} {o : Option α} {a : α} :
    orRaise e o = .ok a ↔ o = some a := by
  cases o <;> simp [orRaise]

theorem orRaise_some {α : Type} (e : CustodyFault) (a : α) : orRaise e (some a) = .ok a := rfl

theorem orMalformed_eq_ok {α : Type} {x : Except CustodyFault α} {a : α} :
    orMalformed x = .ok a ↔ x = .ok a := by
  rcases x with (_ | _ | _ | _ | _) | _ <;> simp [orMalformed]

theorem opaqueId_eq_ok {raw : Bytes} {i : OpaqueId} :
    opaqueId raw = .ok i ↔ i.value.bytes = raw := by
  unfold opaqueId uuid
  rw [orMalformed_eq_ok, bind_eq_ok_iff]
  constructor
  · rintro ⟨value, hvalue, hi⟩
    split_ifs at hvalue hi
    cases hvalue
    cases hi
    rfl
  · rintro rfl
    exact ⟨i.value, dif_pos i.value.length, dif_pos i.isV4⟩

theorem credential_eq_ok {handle secret : Bytes} {c : OpaqueCredential} :
    credential handle secret = .ok c ↔
      c.handle.value.bytes = handle ∧ c.secret = secret ∧ minSecretBytes ≤ secret.length := by
  unfold credential
  simp only [orMalformed_eq_ok, bind_eq_ok_iff, opaqueId_eq_ok, ensure_eq_ok, pure_eq_ok_iff]
  constructor
  · rintro ⟨i, hi, -, hvalid, rfl⟩
    exact ⟨hi, rfl, hvalid⟩
  · rintro ⟨hi, rfl, hlength⟩
    exact ⟨c.handle, hi, (), hlength, rfl⟩

/-- What a list of credentials is packed into under a list of tags. -/
def Packs (tags : List Nat) (cs : List OpaqueCredential) (bs : Bytes) : Prop :=
  ∃ bss, (tags.zip cs).mapM (fun (tag, c) => packRecord tag c) = .ok bss ∧ bss.flatten = bs

theorem Packs.nil : Packs [] [] [] := ⟨[], rfl, rfl⟩

theorem Packs.cons_iff {tag : Nat} {tags : List Nat} {c : OpaqueCredential}
    {cs : List OpaqueCredential} {bs : Bytes} :
    Packs (tag :: tags) (c :: cs) bs ↔
      ∃ b bs', packRecord tag c = .ok b ∧ Packs tags cs bs' ∧ bs = b ++ bs' := by
  unfold Packs
  simp only [List.zip_cons_cons, List.mapM_cons, bind_eq_ok_iff, pure_eq_ok_iff]
  constructor
  · rintro ⟨_, ⟨b, hb, bss, hbss, rfl⟩, rfl⟩
    exact ⟨b, _, hb, ⟨bss, hbss, rfl⟩, rfl⟩
  · rintro ⟨b, _, hb, ⟨bss, hbss, rfl⟩, rfl⟩
    exact ⟨_, ⟨b, hb, bss, hbss, rfl⟩, rfl⟩

/-- The values that a record holds without loss. -/
theorem fits_record {tag : Nat} (htag : tag < 256) {c : OpaqueCredential}
    (hc : c.secret.length = custodySecretBytes) :
    Struct.Fits record (tag, c.handle.value.bytes, c.secret, ()) :=
  ⟨htag, c.handle.value.length, hc, trivial⟩

theorem exists_packs {tags : List Nat} (htags : ∀ t ∈ tags, t < 256) {cs : List OpaqueCredential}
    (hlength : cs.length = tags.length) (hcs : ∀ c ∈ cs, c.secret.length = custodySecretBytes) :
    ∃ bs, Packs tags cs bs ∧ bs.length = tags.length * Struct.calcsize record := by
  induction tags generalizing cs with
  | nil =>
    cases List.length_eq_zero_iff.mp hlength
    exact ⟨[], .nil, by simp⟩
  | cons tag tags ih =>
    obtain ⟨c, cs, rfl⟩ := List.exists_cons_of_length_eq_add_one hlength
    obtain ⟨htag, htags⟩ := List.forall_mem_cons.mp htags
    obtain ⟨hc, hcs⟩ := List.forall_mem_cons.mp hcs
    obtain ⟨b, hpack, hb, -⟩ := Struct.unpack_pack (fits_record htag hc)
    obtain ⟨bs, hbs, hrest⟩ := ih htags (Nat.succ.inj hlength) hcs
    refine ⟨b ++ bs, Packs.cons_iff.mpr ⟨b, bs, orRaise_eq_ok.mpr hpack, hbs, rfl⟩, ?_⟩
    rw [List.length_append, hb, hrest, List.length_cons, Nat.succ_mul, Nat.add_comm]

theorem readRecords_packs {payload rest : Bytes} {tags : List Nat} (htags : ∀ t ∈ tags, t < 256)
    (hnodup : tags.Nodup) {cs : List OpaqueCredential} (hlength : cs.length = tags.length)
    (hcs : ∀ c ∈ cs, c.secret.length = custodySecretBytes) {bs : Bytes} (hbs : Packs tags cs bs)
    {offset : Nat} (hpayload : payload.drop offset = bs ++ rest)
    {records : List (Nat × OpaqueCredential)} (hrecords : ∀ t ∈ tags, t ∉ records.map Prod.fst) :
    readRecords payload offset records tags = .ok (records ++ tags.zip cs) := by
  induction tags generalizing cs bs offset records with
  | nil =>
    cases List.length_eq_zero_iff.mp hlength
    rw [readRecords, List.zip_nil_left, List.append_nil]
  | cons tag tags ih =>
    obtain ⟨c, cs, rfl⟩ := List.exists_cons_of_length_eq_add_one hlength
    obtain ⟨htag, htags⟩ := List.forall_mem_cons.mp htags
    obtain ⟨hc, hcs⟩ := List.forall_mem_cons.mp hcs
    obtain ⟨hnew, hnodup⟩ := List.nodup_cons.mp hnodup
    obtain ⟨habsent, hrecords⟩ := List.forall_mem_cons.mp hrecords
    obtain ⟨b, bs, hb, hbs', rfl⟩ := Packs.cons_iff.mp hbs
    rw [packRecord, orRaise_eq_ok] at hb
    have hfits := fits_record htag hc
    have hsize : b.length = Struct.calcsize record := by
      obtain ⟨b', hb', hsize, -⟩ := Struct.unpack_pack hfits
      cases hb.symm.trans hb'
      exact hsize
    rw [List.append_assoc] at hpayload
    have hunpack := Struct.unpackFrom_pack hfits hb hpayload
    have hcredential : credential c.handle.value.bytes c.secret = .ok c :=
      credential_eq_ok.mpr ⟨rfl, rfl, hc.ge⟩
    have hnext : payload.drop (offset + Struct.calcsize record) = bs ++ rest := by
      rw [← List.drop_drop, hpayload, ← hsize, List.drop_left]
    have hrest := @ih htags hnodup cs (Nat.succ.inj hlength) hcs bs hbs'
      (offset + Struct.calcsize record) hnext (records ++ [(tag, c)]) (by
        intro t ht
        rw [List.map_append, List.mem_append, not_or]
        refine ⟨hrecords t ht, fun hmem => ?_⟩
        obtain rfl : t = tag := List.mem_singleton.mp hmem
        exact hnew ht)
    rw [readRecords, hunpack]
    change (ensure (tag = tag ∧ tag ∉ records.map Prod.fst) malformed >>= fun _ =>
      credential c.handle.value.bytes c.secret >>= fun c => _) = _
    rw [ensure_bind ⟨rfl, habsent⟩, hcredential, ok_bind, hrest, List.append_assoc]
    rfl

theorem packs_readRecords {payload : Bytes} {tags : List Nat} {offset : Nat}
    {records records' : List (Nat × OpaqueCredential)}
    (h : readRecords payload offset records tags = .ok records') :
    ∃ cs, records' = records ++ tags.zip cs ∧ cs.length = tags.length ∧
      Packs tags cs ((payload.drop offset).take (tags.length * Struct.calcsize record)) := by
  induction tags generalizing offset records with
  | nil =>
    cases h
    refine ⟨[], by simp, rfl, ?_⟩
    rw [List.length_nil, Nat.zero_mul, List.take_zero]
    exact .nil
  | cons tag tags ih =>
    rw [readRecords, bind_eq_ok_iff] at h
    obtain ⟨⟨tag', handle, secret, ⟨⟩⟩, hunpack, h⟩ := h
    rw [orRaise_eq_ok] at hunpack
    simp only [bind_eq_ok_iff, ensure_eq_ok, credential_eq_ok] at h
    obtain ⟨-, ⟨rfl, -⟩, c, ⟨rfl, rfl, -⟩, hrest⟩ := h
    obtain ⟨cs, rfl, hlength, hcs⟩ := ih hrest
    obtain ⟨-, hpack⟩ := Struct.pack_unpackFrom hunpack
    refine ⟨c :: cs, by rw [List.append_assoc]; rfl, congrArg Nat.succ hlength, ?_⟩
    refine Packs.cons_iff.mpr ⟨_, _, orRaise_eq_ok.mpr hpack, hcs, ?_⟩
    rw [List.length_cons, Nat.succ_mul, Nat.add_comm, List.take_add, ← List.drop_drop]

/-! ### Both directions -/

/-- The root that a record and the binding make is the one that was written. -/
theorem root_eq {b : AuthCustodyBundle} {root : RootCapability} (h : root ∈ b.roots) :
    (⟨root.credential, b.binding.installationId, b.binding.actorId, b.binding.representedProfileId,
      root.purpose⟩ : RootCapability) = root := by
  rw [← b.bound root h]

theorem bundle_credentials (b : AuthCustodyBundle) :
    bundle b.binding b.generation (tags.zip b.credentials) = .ok b := by
  obtain ⟨hinitial, hemergency, hreprovision⟩ : b.initialBootstrap.purpose = .initialBootstrap ∧
      b.emergencyRevoke.purpose = .emergencyRevoke ∧ b.reprovision.purpose = .reprovision := by
    simpa using b.purposes
  have hroots : bundle b.binding b.generation (tags.zip b.credentials) =
      orMalformed (AuthCustodyBundle.make b.binding b.generation b.operatorAuthority
        b.serviceIdentity
        ⟨b.initialBootstrap.credential, b.binding.installationId, b.binding.actorId,
          b.binding.representedProfileId, .initialBootstrap⟩
        ⟨b.emergencyRevoke.credential, b.binding.installationId, b.binding.actorId,
          b.binding.representedProfileId, .emergencyRevoke⟩
        ⟨b.reprovision.credential, b.binding.installationId, b.binding.actorId,
          b.binding.representedProfileId, .reprovision⟩) := rfl
  rw [hroots, ← hinitial, ← hemergency, ← hreprovision, root_eq (by simp [AuthCustodyBundle.roots]),
    root_eq (by simp [AuthCustodyBundle.roots]), root_eq (by simp [AuthCustodyBundle.roots]),
    orMalformed_eq_ok]
  exact b.make_self

def headerOf (binding : AuthCustodyBinding) (generation : Nat) : Struct.Values header :=
  (magic, version, count, generation, binding.installationId.value.bytes,
    binding.actorId.value.bytes, binding.representedProfileId.value.bytes, ())

theorem serialize_of_packs {b : AuthCustodyBundle} {start bs : Bytes}
    (hstart : Struct.pack header (headerOf b.binding b.generation) = some start)
    (hbs : Packs tags b.credentials bs) : serialize b = .ok (start ++ bs) := by
  obtain ⟨bss, hbss, rfl⟩ := hbs
  change (orRaise .structError (Struct.pack header (headerOf b.binding b.generation)) >>=
    fun payload => ((tags.zip b.credentials).mapM fun (tag, c) => packRecord tag c) >>=
      fun records => pure (payload ++ records.flatten)) = _
  rw [hstart, orRaise_some, ok_bind, hbss, ok_bind]
  rfl

theorem fits_header (b : AuthCustodyBundle) :
    Struct.Fits header (headerOf b.binding b.generation) := by
  have hgeneration : b.generation < 256 ^ 8 := by
    have := b.generation_range.2
    omega
  exact ⟨rfl, show version < 256 ^ 1 by decide, show count < 256 ^ 1 by decide, hgeneration, b.binding.installationId.value.length,
    b.binding.actorId.value.length, b.binding.representedProfileId.value.length, trivial⟩

theorem parse_serialize (b : AuthCustodyBundle) :
    ∃ payload, serialize b = .ok payload ∧ parse payload b.binding = .ok b := by
  obtain ⟨start, hstart, hsize, -⟩ := Struct.unpack_pack (fits_header b)
  obtain ⟨bs, hbs, hlength⟩ := @exists_packs tags (by decide) b.credentials rfl b.secrets
  refine ⟨start ++ bs, serialize_of_packs hstart hbs, ?_⟩
  have hfile : (start ++ bs).length = fileBytes := by
    rw [List.length_append, hsize, hlength]
    rfl
  have hheader : Struct.unpackFrom header (start ++ bs) 0 = some (headerOf b.binding b.generation) :=
    Struct.unpackFrom_pack (fits_header b) hstart List.drop_zero
  have hrecords : readRecords (start ++ bs) (Struct.calcsize header) [] tags =
      .ok (tags.zip b.credentials) := by
    refine @readRecords_packs _ [] tags (by decide) (by decide) b.credentials rfl b.secrets bs hbs _
      ?_ [] (fun _ _ => List.not_mem_nil)
    rw [← hsize, List.drop_left, List.append_nil]
  have hhandles : ((tags.zip b.credentials).map fun r => r.2.handle).toFinset.card = count := b.handles
  refine bind_eq_ok_iff.mpr ⟨(), ensure_ok hfile _, ?_⟩
  refine bind_eq_ok_iff.mpr ⟨headerOf b.binding b.generation, orRaise_eq_ok.mpr hheader, ?_⟩
  refine bind_eq_ok_iff.mpr ⟨(), ensure_ok ⟨rfl, rfl, rfl, b.generation_range.1⟩ _, ?_⟩
  refine bind_eq_ok_iff.mpr ⟨b.binding.installationId, opaqueId_eq_ok.mpr rfl, ?_⟩
  refine bind_eq_ok_iff.mpr ⟨b.binding.actorId, opaqueId_eq_ok.mpr rfl, ?_⟩
  refine bind_eq_ok_iff.mpr ⟨b.binding.representedProfileId, opaqueId_eq_ok.mpr rfl, ?_⟩
  refine bind_eq_ok_iff.mpr ⟨(), ensure_ok rfl _, ?_⟩
  refine bind_eq_ok_iff.mpr ⟨tags.zip b.credentials, hrecords, ?_⟩
  refine bind_eq_ok_iff.mpr ⟨(), ensure_ok hhandles _, ?_⟩
  exact bundle_credentials b

theorem serialize_parse {payload : Bytes} {expected : AuthCustodyBinding} {b : AuthCustodyBundle}
    (h : parse payload expected = .ok b) :
    serialize b = .ok payload ∧ b.binding = expected := by
  unfold parse at h
  rw [bind_eq_ok_iff] at h
  obtain ⟨_, hfile, h⟩ := h
  rw [bind_eq_ok_iff] at h
  obtain ⟨⟨start, version', count', generation, installation, actor, profile, ⟨⟩⟩, hheader, h⟩ := h
  simp only [bind_eq_ok_iff, ensure_eq_ok, opaqueId_eq_ok] at h
  obtain ⟨-, ⟨rfl, rfl, rfl, -⟩, i, rfl, a, rfl, p, rfl, -, rfl, records, hrecords, -, -, hbundle⟩ := h
  obtain ⟨cs, rfl, hlength, hcs⟩ := packs_readRecords hrecords
  rw [ensure_eq_ok] at hfile
  rw [orRaise_eq_ok] at hheader
  obtain ⟨-, hpack⟩ := Struct.pack_unpackFrom hheader
  obtain ⟨c₁, c₂, c₃, c₄, c₅, rfl⟩ : ∃ c₁ c₂ c₃ c₄ c₅, cs = [c₁, c₂, c₃, c₄, c₅] := by
    rcases cs with _ | ⟨c₁, _ | ⟨c₂, _ | ⟨c₃, _ | ⟨c₄, _ | ⟨c₅, _ | ⟨c₆, cs⟩⟩⟩⟩⟩⟩
    case cons.cons.cons.cons.cons.nil => exact ⟨c₁, c₂, c₃, c₄, c₅, rfl⟩
    all_goals cases hlength
  obtain ⟨hbinding, hgeneration, hcredentials⟩ := AuthCustodyBundle.make_eq_ok
    (orMalformed_eq_ok.mp (show orMalformed (AuthCustodyBundle.make ⟨i, a, p⟩ generation c₁ c₂
      ⟨c₃, i, a, p, .initialBootstrap⟩ ⟨c₄, i, a, p, .emergencyRevoke⟩ ⟨c₅, i, a, p, .reprovision⟩) =
        .ok b from hbundle))
  -- the header and the records are the whole of the file
  have hrest : (payload.drop (Struct.calcsize header)).take (tags.length * Struct.calcsize record) =
      payload.drop (Struct.calcsize header) := by
    refine List.take_of_length_le ?_
    rw [List.length_drop, hfile]
    decide
  rw [List.drop_zero] at hpack
  rw [hrest, ← hcredentials] at hcs
  refine ⟨?_, hbinding⟩
  conv_rhs => rw [← List.take_append_drop (Struct.calcsize header) payload]
  refine serialize_of_packs ?_ hcs
  rw [hbinding, hgeneration]
  exact hpack

/-! ### Nothing else is raised -/

def OnlyCustody {α : Type} (x : Except CustodyFault α) : Prop :=
  ∀ e, x = .error e → ∃ code, e = .custody code

section OnlyCustody
variable {α β : Type}

theorem OnlyCustody.bind {x : Except CustodyFault α} {f : α → Except CustodyFault β}
    (hx : OnlyCustody x) (hf : ∀ a, OnlyCustody (f a)) : OnlyCustody (x >>= f) := by
  intro e he
  rcases bind_eq_error_iff.mp he with h | ⟨a, -, h⟩
  · exact hx e h
  · exact hf a e h

theorem onlyCustody_ok (a : α) : OnlyCustody (.ok a) := nofun

theorem onlyCustody_ensure (c : Prop) [Decidable c] (code : AuthCustodyFailureCode) :
    OnlyCustody (ensure c (.custody code)) := by
  intro e he
  exact ⟨code, (ensure_eq_error.mp he).2.symm⟩

theorem onlyCustody_orRaise (o : Option α) : OnlyCustody (orRaise malformed o) := by
  cases o with
  | none =>
    rintro _ ⟨⟩
    exact ⟨_, rfl⟩
  | some a => exact onlyCustody_ok a

/-- The errors that are turned into a refusal. -/
theorem onlyCustody_orMalformed {x : Except CustodyFault α}
    (h : ∀ e, x = .error e → e = .typeError ∨ e = .valueError ∨ ∃ code, e = .custody code) :
    OnlyCustody (orMalformed x) := by
  rcases x with e | a
  · rcases h e rfl with rfl | rfl | ⟨code, rfl⟩ <;> rintro _ ⟨⟩ <;> exact ⟨_, rfl⟩
  · exact onlyCustody_ok a

theorem onlyCustody_opaqueId (raw : Bytes) : OnlyCustody (opaqueId raw) := by
  refine onlyCustody_orMalformed fun e he => ?_
  unfold uuid at he
  rcases bind_eq_error_iff.mp he with h | ⟨value, -, h⟩
  · split_ifs at h
    cases h
    exact .inr (.inl rfl)
  · split_ifs at h
    cases h
    exact .inr (.inl rfl)

theorem onlyCustody_credential (handle secret : Bytes) : OnlyCustody (credential handle secret) := by
  refine onlyCustody_orMalformed fun e he => ?_
  rcases bind_eq_error_iff.mp he with h | ⟨i, -, h⟩
  · exact .inr (.inr (onlyCustody_opaqueId handle e h))
  · rcases bind_eq_error_iff.mp h with h | ⟨_, -, h⟩
    · exact .inr (.inl (ensure_eq_error.mp h).2.symm)
    · cases h

theorem onlyCustody_readRecords (payload : Bytes) (tags : List Nat) (offset : Nat)
    (records : List (Nat × OpaqueCredential)) :
    OnlyCustody (readRecords payload offset records tags) := by
  induction tags generalizing offset records with
  | nil => exact onlyCustody_ok _
  | cons tag tags ih =>
    rw [readRecords]
    exact (onlyCustody_orRaise _).bind fun _ => (onlyCustody_ensure _ _).bind fun _ =>
      (onlyCustody_credential _ _).bind fun _ => ih _ _

theorem onlyCustody_parse (payload : Bytes) (expected : AuthCustodyBinding) :
    OnlyCustody (parse payload expected) := by
  unfold parse
  refine (onlyCustody_ensure _ _).bind fun _ => (onlyCustody_orRaise _).bind fun _ =>
    (onlyCustody_ensure _ _).bind fun _ => (onlyCustody_opaqueId _).bind fun _ =>
      (onlyCustody_opaqueId _).bind fun _ => (onlyCustody_opaqueId _).bind fun _ =>
        (onlyCustody_ensure _ _).bind fun _ => ?_
  intro e he
  rcases bind_eq_error_iff.mp he with h | ⟨records, hrecords, h⟩
  · exact onlyCustody_readRecords payload tags _ _ e h
  · refine (onlyCustody_ensure _ _).bind (fun _ => ?_) e h
    -- every tag has its record, so no lookup fails
    obtain ⟨cs, rfl, hlength, -⟩ := packs_readRecords hrecords
    obtain ⟨c₁, c₂, c₃, c₄, c₅, rfl⟩ : ∃ c₁ c₂ c₃ c₄ c₅, cs = [c₁, c₂, c₃, c₄, c₅] := by
      match cs, hlength with
      | [c₁, c₂, c₃, c₄, c₅], _ => exact ⟨c₁, c₂, c₃, c₄, c₅, rfl⟩
    exact onlyCustody_orMalformed fun e he => .inr (.inl (AuthCustodyBundle.make_error he))

end OnlyCustody

/-- The record is exact: a bundle is written and read back as it is, what is read is what was
written, and whatever else is refused. -/
theorem custody_exact :
    (∀ b : AuthCustodyBundle, ∃ payload, serialize b = .ok payload ∧
      parse payload b.binding = .ok b) ∧
    ∀ payload expected, (∀ b, parse payload expected = .ok b →
      serialize b = .ok payload ∧ b.binding = expected) ∧
        ∀ e, parse payload expected = .error e → ∃ code, e = .custody code :=
  ⟨parse_serialize, fun payload expected => ⟨fun _ => serialize_parse,
    onlyCustody_parse payload expected⟩⟩

end Custody
end MyCogni.Auth
