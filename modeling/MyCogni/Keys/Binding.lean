import MyCogni.Base.Struct
import MyCogni.Keys.Refusals

/-! What a key record is bound to. The associated data of profile keys and of sentinels are fields of
fixed width in a row; reading them back gives every identity that went into them, and the two kinds
differ in length. -/

namespace MyCogni.Keys
open Auth Command

/-! ### The associated data as packed records -/

/-- `_sentinel_aad` of the administration module. -/
def administeredAad (identity : KeyCatalogIdentity) : Bytes :=
  ascii "MyCogni\x00readiness-sentinel\x00" ++ toBytesBE 2 1 ++ toBytesBE 2 1 ++
    identity.installationId.value.bytes ++ identity.catalogId.value.bytes ++
      identity.sentinelId.value.bytes ++ toBytesBE 1 1 ++
        identity.activeKek.providerInstanceId.value.bytes ++ identity.activeKek.kekId.value.bytes ++
          toBytesBE 4 identity.activeKek.kekVersion ++ toBytesBE 1 1

def profileFields : List Struct.Field :=
  [.bytes 25, .uint 2, .uint 2, .bytes 16, .bytes 16, .uint 4, .uint 2, .uint 1, .bytes 16, .bytes 16,
    .uint 4, .uint 1]

abbrev ProfileValues : Type :=
  Bytes × Nat × Nat × Bytes × Bytes × Nat × Nat × Nat × Bytes × Bytes × Nat × Nat × Unit

def profileValues (kek : ActiveKekRef) (binding : ProfileKeyBinding) : ProfileValues :=
  (ascii "MyCogni\x00profile-dek-wrap\x00", 1, 1, binding.installationId.value.bytes,
    binding.profileId.value.bytes, binding.profileKeyVersion, binding.catalogSchemaVersion, 1,
    kek.providerInstanceId.value.bytes, kek.kekId.value.bytes, kek.kekVersion, 1, ())

def sentinelFields : List Struct.Field :=
  [.bytes 27, .uint 2, .uint 2, .bytes 16, .bytes 16, .bytes 16, .uint 1, .bytes 16, .bytes 16,
    .uint 4, .uint 1]

abbrev SentinelValues : Type :=
  Bytes × Nat × Nat × Bytes × Bytes × Bytes × Nat × Bytes × Bytes × Nat × Nat × Unit

def sentinelValues (identity : KeyCatalogIdentity) : SentinelValues :=
  (ascii "MyCogni\x00readiness-sentinel\x00", 1, 1, identity.installationId.value.bytes,
    identity.catalogId.value.bytes, identity.sentinelId.value.bytes, 1,
    identity.activeKek.providerInstanceId.value.bytes, identity.activeKek.kekId.value.bytes,
    identity.activeKek.kekVersion, 1, ())

theorem uint_fits {width n : Nat} (h : n < 256 ^ width) : (Struct.Field.uint width).Fits n := h

theorem profile_fits (kek : ActiveKekRef) (binding : ProfileKeyBinding) :
    Struct.Fits profileFields (profileValues kek binding) := by
  have hkek := kek.version_ok.2
  have hkey := binding.key_version_ok.2
  have hschema := binding.schema_version_ok.2
  refine ⟨rfl, uint_fits (by decide), uint_fits (by decide), binding.installationId.value.length,
    binding.profileId.value.length, uint_fits ?_, uint_fits ?_, uint_fits (by decide),
    kek.providerInstanceId.value.length, kek.kekId.value.length, uint_fits ?_, uint_fits (by decide),
    trivial⟩
  all_goals omega

theorem sentinel_fits (identity : KeyCatalogIdentity) :
    Struct.Fits sentinelFields (sentinelValues identity) := by
  have hkek := identity.activeKek.version_ok.2
  refine ⟨rfl, uint_fits (by decide), uint_fits (by decide), identity.installationId.value.length,
    identity.catalogId.value.length, identity.sentinelId.value.length, uint_fits (by decide),
    identity.activeKek.providerInstanceId.value.length, identity.activeKek.kekId.value.length,
    uint_fits ?_, uint_fits (by decide), trivial⟩
  omega

/-- A packed field and the fields after it. -/
theorem pack_cons {f : Struct.Field} {fs : List Struct.Field} {v : f.Value} {vs : Struct.Values fs}
    {b bs : Bytes} (hv : f.pack v = some b) (hvs : Struct.pack fs vs = some bs) :
    Struct.pack (f :: fs) (v, vs) = some (b ++ bs) := by
  rw [Struct.pack, hv, hvs]
  rfl

theorem pack_bytes {width : Nat} {b : Bytes} (h : b.length = width) :
    (Struct.Field.bytes width).pack b = some b := by
  rw [Struct.Field.pack, ← h, List.take_left]

theorem pack_uint {width n : Nat} (h : n < 256 ^ width) :
    (Struct.Field.uint width).pack n = some (toBytesBE width n) := if_pos h

/-- No packing raises, and the fields are those of the record in their order. -/
theorem pack_profile (kek : ActiveKekRef) (binding : ProfileKeyBinding) :
    Struct.pack profileFields (profileValues kek binding) = some (profileAad kek binding) := by
  obtain ⟨htag, h₁, h₂, hinstallation, hprofile, hkey, hschema, hkind, hinstance, hid, hversion, hsuite,
    -⟩ := profile_fits kek binding
  have hpack := pack_cons (pack_bytes htag) <| pack_cons (pack_uint h₁) <| pack_cons (pack_uint h₂) <|
    pack_cons (pack_bytes hinstallation) <| pack_cons (pack_bytes hprofile) <|
    pack_cons (pack_uint hkey) <| pack_cons (pack_uint hschema) <| pack_cons (pack_uint hkind) <|
    pack_cons (pack_bytes hinstance) <| pack_cons (pack_bytes hid) <| pack_cons (pack_uint hversion) <|
    @pack_cons _ [] _ () _ [] (pack_uint hsuite) rfl
  refine hpack.trans (congrArg some ?_)
  simp only [profileAad, kekAad, List.append_assoc, List.append_nil]

theorem pack_sentinel (identity : KeyCatalogIdentity) :
    Struct.pack sentinelFields (sentinelValues identity) = some (administeredAad identity) := by
  obtain ⟨htag, h₁, h₂, hinstallation, hcatalog, hsentinel, hkind, hinstance, hid, hversion, hsuite,
    -⟩ := sentinel_fits identity
  have hpack := pack_cons (pack_bytes htag) <| pack_cons (pack_uint h₁) <| pack_cons (pack_uint h₂) <|
    pack_cons (pack_bytes hinstallation) <| pack_cons (pack_bytes hcatalog) <|
    pack_cons (pack_bytes hsentinel) <| pack_cons (pack_uint hkind) <|
    pack_cons (pack_bytes hinstance) <| pack_cons (pack_bytes hid) <| pack_cons (pack_uint hversion) <|
    @pack_cons _ [] _ () _ [] (pack_uint hsuite) rfl
  refine hpack.trans (congrArg some ?_)
  simp only [administeredAad, List.append_assoc, List.append_nil]

/-! ### What the associated data determine -/

/-- The same key of the same provider; the kind of the provider is not bound. -/
def ActiveKekRef.SameKey (kek kek' : ActiveKekRef) : Prop :=
  kek.providerInstanceId = kek'.providerInstanceId ∧ kek.kekId = kek'.kekId ∧
    kek.kekVersion = kek'.kekVersion

theorem opaqueId_ext {a b : OpaqueId} (h : a.value.bytes = b.value.bytes) : a = b := by
  obtain ⟨⟨a, _⟩, _⟩ := a
  obtain ⟨⟨b, _⟩, _⟩ := b
  cases h
  rfl

theorem profileAad_injective {kek kek' : ActiveKekRef} {binding binding' : ProfileKeyBinding}
    (h : profileAad kek binding = profileAad kek' binding') :
    binding = binding' ∧ kek.SameKey kek' := by
  have hvalues : profileValues kek binding = profileValues kek' binding' :=
    Struct.pack_injective (profile_fits kek binding) (profile_fits kek' binding')
      (by rw [pack_profile, pack_profile, h])
  simp only [profileValues, Prod.mk.injEq, true_and, and_true] at hvalues
  obtain ⟨hinstallation, hprofile, hkey, hschema, hinstance, hid, hversion⟩ := hvalues
  refine ⟨?_, opaqueId_ext hinstance, opaqueId_ext hid, hversion⟩
  obtain ⟨installation, profile, key, schema, _, _⟩ := binding
  obtain ⟨installation', profile', key', schema', _, _⟩ := binding'
  obtain rfl := opaqueId_ext hinstallation
  obtain rfl := opaqueId_ext hprofile
  cases hkey
  cases hschema
  rfl

theorem administeredAad_injective {identity identity' : KeyCatalogIdentity}
    (h : administeredAad identity = administeredAad identity') :
    identity.installationId = identity'.installationId ∧ identity.catalogId = identity'.catalogId ∧
      identity.sentinelId = identity'.sentinelId ∧
      identity.activeKek.SameKey identity'.activeKek := by
  have hvalues : sentinelValues identity = sentinelValues identity' :=
    Struct.pack_injective (sentinel_fits identity) (sentinel_fits identity')
      (by rw [pack_sentinel, pack_sentinel, h])
  simp only [sentinelValues, Prod.mk.injEq, true_and, and_true] at hvalues
  obtain ⟨hinstallation, hcatalog, hsentinel, hinstance, hid, hversion⟩ := hvalues
  exact ⟨opaqueId_ext hinstallation, opaqueId_ext hcatalog, opaqueId_ext hsentinel,
    opaqueId_ext hinstance, opaqueId_ext hid, hversion⟩

theorem length_profileAad (kek : ActiveKekRef) (binding : ProfileKeyBinding) :
    (profileAad kek binding).length = 105 := by
  obtain ⟨bs, hpack, hlength, -⟩ := Struct.unpack_pack (profile_fits kek binding)
  obtain rfl := Option.some.inj ((pack_profile kek binding).symm.trans hpack)
  exact hlength

theorem length_administeredAad (identity : KeyCatalogIdentity) :
    (administeredAad identity).length = 117 := by
  obtain ⟨bs, hpack, hlength, -⟩ := Struct.unpack_pack (sentinel_fits identity)
  obtain rfl := Option.some.inj ((pack_sentinel identity).symm.trans hpack)
  exact hlength

theorem profileAad_ne_administeredAad (kek : ActiveKekRef) (binding : ProfileKeyBinding)
    (identity : KeyCatalogIdentity) : profileAad kek binding ≠ administeredAad identity := by
  intro h
  have hlength := congrArg List.length h
  rw [length_profileAad, length_administeredAad] at hlength
  exact absurd hlength (by decide)

/-- The two modules agree. -/
theorem sentinelAad_administered (p : Provider) : p.sentinelAad = administeredAad p.identity := by
  rw [Provider.sentinelAad, p.sentinel.envelope.format_ok, p.sentinel.envelope.aad_ok, sentinelAad,
    administeredAad, kekAad]
  simp only [List.append_assoc]

/-! ### Records under an authenticated cipher -/

/-- The ciphertext opens under the key, the nonce and the associated data of its making only. -/
def Exact (aead : Aead) (key nonce plaintext aad : Bytes) : Prop :=
  ∀ key' nonce' aad' x, aead.decrypt key' nonce' (aead.encrypt key nonce plaintext aad) aad' = some x →
    key' = key ∧ nonce' = nonce ∧ aad' = aad

section Records
variable (aead : Aead) (key : Bytes)

/-- The record that `complete_profile_key` makes. -/
def wrapProfileKey (kek : ActiveKekRef) (binding : ProfileKeyBinding) (nonce : Nonce)
    (dek : Provider.ProfileDek) : Option WrappedProfileKey :=
  (Provider.envelope (aead.encrypt key nonce.bytes dek.bytes (profileAad kek binding))).map
    fun e => ⟨kek, binding, nonce, e⟩

/-- What `unwrap_profile_key` finds in a record, in a provider of the identity. -/
def unwrapProfileKey (identity : KeyCatalogIdentity) (w : WrappedProfileKey)
    (binding : ProfileKeyBinding) : Option Bytes :=
  if w.kekRef = identity.activeKek ∧ w.binding = binding ∧
      binding.installationId = identity.installationId then
    (aead.decrypt key w.nonce.bytes w.envelope.ciphertext
      (profileAad identity.activeKek binding)).filter (·.length = profileDekBytes)
  else none

/-- The record that `create_readiness_sentinel` makes. -/
def wrapSentinel (identity : KeyCatalogIdentity) (nonce : Nonce) : Option WrappedReadinessSentinel :=
  (Provider.envelope (aead.encrypt key nonce.bytes readinessPlaintext (administeredAad identity))).map
    fun e => ⟨identity.activeKek, identity.installationId, identity.catalogId, identity.sentinelId,
      nonce, e⟩

/-- `readiness` authenticates the sentinel of the provider. -/
def Authenticates (p : Provider) : Prop :=
  aead.decrypt key p.sentinelNonce.bytes p.sentinel.envelope.ciphertext p.sentinelAad =
    some readinessPlaintext

end Records

theorem ciphertext_of_envelope {ciphertext : Bytes} {e : Envelope}
    (h : Provider.envelope ciphertext = some e) : e.ciphertext = ciphertext := by
  unfold Provider.envelope at h
  split_ifs at h
  cases h
  rfl

section Provider
variable {key : Bytes} {n n' : Node}

theorem live_eq_ok {p : Provider} (h : Provider.live n = (.ok p, n')) :
    n.provider = some p ∧ n' = n := by
  obtain ⟨m, n₁, hread, hdemand⟩ := bind_eq_ok h
  cases hread
  exact demand_eq_ok hdemand

theorem session_eq_ok {α : Type} {source : Session} {body : Act α} {a : α}
    (h : Provider.session source body n = (.ok a, n')) : body n = (.ok a, n') := by
  cases source with
  | opens => exact h
  | failsBefore code => exact nomatch h
  | failsAfter code =>
    rcases hbody : body n with ⟨e | b, n₁⟩
    · rw [Provider.session_after_error hbody] at h
      exact nomatch h
    · rw [Provider.session_after_ok hbody] at h
      exact nomatch h

/-- The records of the provider are these, with its own cipher. -/
theorem completeProfileKey_wraps {preparation : ProfileKeyPreparation} {source : Session}
    {generated : Option Provider.ProfileDek} {w : WrappedProfileKey}
    (h : Provider.completeProfileKey key preparation source generated n = (.ok w, n')) :
    ∃ p dek, n.provider = some p ∧ generated = some dek ∧
      wrapProfileKey .aesGcm key p.identity.activeKek preparation.binding preparation.nonce dek =
        some w := by
  obtain ⟨p, _, hlive, h⟩ := bind_eq_ok h
  obtain ⟨_, _, _, h⟩ := bind_eq_ok h
  obtain ⟨_, _, _, h⟩ := bind_eq_ok h
  obtain ⟨_, _, _, h⟩ := bind_eq_ok h
  obtain ⟨dek, _, hdek, h⟩ := bind_eq_ok h
  obtain ⟨e, _, hsession, h⟩ := bind_eq_ok h
  obtain ⟨ciphertext, _, hencrypt, henvelope⟩ := bind_eq_ok (session_eq_ok hsession)
  obtain ⟨_, _, _, h⟩ := bind_eq_ok h
  obtain ⟨_, _, _, h⟩ := bind_eq_ok h
  cases hencrypt
  cases h
  refine ⟨p, dek, (live_eq_ok hlive).1, (demand_eq_ok hdek).1, ?_⟩
  exact Option.map_eq_some_iff.mpr ⟨e, (demand_eq_ok henvelope).1, rfl⟩

theorem unwrapProfileKey_unwraps {w : WrappedProfileKey} {binding : ProfileKeyBinding}
    {source : Session} {x : Bytes}
    (h : Provider.unwrapProfileKey key w binding source n = (.ok x, n')) :
    ∃ p, n.provider = some p ∧ unwrapProfileKey .aesGcm key p.identity w binding = some x := by
  obtain ⟨p, _, hlive, h⟩ := bind_eq_ok h
  obtain ⟨_, _, hmatches, h⟩ := bind_eq_ok h
  obtain ⟨_, _, _, h⟩ := bind_eq_ok h
  obtain ⟨y, _, hsession, h⟩ := bind_eq_ok h
  obtain ⟨_, _, _, h⟩ := bind_eq_ok h
  obtain ⟨_, _, _, h⟩ := bind_eq_ok h
  cases h
  refine ⟨p, (live_eq_ok hlive).1, ?_⟩
  rw [unwrapProfileKey, if_pos (require_eq_ok hmatches).1]
  have hbody := session_eq_ok hsession
  cases hdecrypt : AesGcm.decrypt key w.nonce.bytes w.envelope.ciphertext
      (profileAad p.identity.activeKek binding) with
  | none =>
    rw [hdecrypt] at hbody
    exact nomatch hbody
  | some plaintext =>
    rw [hdecrypt] at hbody
    obtain ⟨_, _, hlength, h⟩ := bind_eq_ok hbody
    cases h
    exact Option.filter_eq_some_iff.mpr ⟨hdecrypt, decide_eq_true (require_eq_ok hlength).1⟩

theorem createReadinessSentinel_wraps {identity : KeyCatalogIdentity} {nonce : Nonce}
    {expected : SourceCommitment} {source : Session} {s : WrappedReadinessSentinel}
    (h : Provider.createReadinessSentinel key identity nonce expected source n = (.ok s, n')) :
    wrapSentinel .aesGcm key identity nonce = some s := by
  have hrecord : ∃ e, Provider.envelope (AesGcm.encrypt key nonce.bytes readinessPlaintext
      (sentinelAad 1 1 identity)) = some e ∧
      s = ⟨identity.activeKek, identity.installationId, identity.catalogId, identity.sentinelId, nonce,
        e⟩ := by
    obtain ⟨_, _, _, h⟩ := bind_eq_ok h
    cases source with
    | failsBefore code => exact nomatch h
    | opens =>
      obtain ⟨_, _, _, h⟩ := bind_eq_ok h
      obtain ⟨ciphertext, m, hencrypt, h⟩ := bind_eq_ok h
      obtain ⟨_, _, _, h⟩ := bind_eq_ok h
      cases hencrypt
      exact ⟨_, dif_pos (AesGcm.length_encrypt ..), (Except.ok.inj (congrArg Prod.fst h)).symm⟩
    | failsAfter code =>
      obtain ⟨_, _, _, h⟩ := bind_eq_ok h
      obtain ⟨_, _, _, h⟩ := bind_eq_ok h
      obtain ⟨_, _, _, h⟩ := bind_eq_ok h
      exact nomatch h
  obtain ⟨e, henvelope, rfl⟩ := hrecord
  have haad : sentinelAad 1 1 identity = administeredAad identity := by
    rw [sentinelAad, administeredAad, kekAad]
    simp only [List.append_assoc]
  rw [haad] at henvelope
  exact Option.map_eq_some_iff.mpr ⟨e, henvelope, rfl⟩

end Provider

theorem Authentic.iff_authenticates {key : Bytes} {p : Provider} :
    Authentic key p ↔ Authenticates .aesGcm key p := Iff.rfl

theorem wrapSentinel_authenticates {aead : Aead} {key : Bytes} {identity : KeyCatalogIdentity}
    {nonce : Nonce} {s : WrappedReadinessSentinel} (hs : wrapSentinel aead key identity nonce = some s)
    {p : Provider} (hidentity : p.identity = identity) (hsentinel : p.sentinel = s) :
    Authenticates aead key p := by
  obtain ⟨e, he, rfl⟩ := Option.map_eq_some_iff.mp hs
  have hnonce : p.sentinelNonce = nonce := by rw [Provider.sentinelNonce, hsentinel]
  have hciphertext : p.sentinel.envelope.ciphertext =
      aead.encrypt key nonce.bytes readinessPlaintext (administeredAad identity) := by
    rw [hsentinel]
    exact ciphertext_of_envelope he
  rw [Authenticates, hnonce, hciphertext, sentinelAad_administered, hidentity, aead.decrypt_encrypt]

/-- A ciphertext that was made for a binding under a key opens, in whatever record it stands, for that
binding and under that key only. -/
theorem unwrap_bound {aead : Aead} {key : Bytes} {kek : ActiveKekRef} {binding : ProfileKeyBinding}
    {nonce : Nonce} {dek : Provider.ProfileDek} {w : WrappedProfileKey}
    (hw : wrapProfileKey aead key kek binding nonce dek = some w)
    (hexact : Exact aead key nonce.bytes dek.bytes (profileAad kek binding)) {key' : Bytes}
    {identity : KeyCatalogIdentity} {w' : WrappedProfileKey} {binding' : ProfileKeyBinding} {x : Bytes}
    (hsame : w'.envelope = w.envelope)
    (hx : unwrapProfileKey aead key' identity w' binding' = some x) :
    key' = key ∧ w'.nonce.bytes = nonce.bytes ∧ binding' = binding ∧
      identity.activeKek.SameKey kek ∧ x = dek.bytes := by
  obtain ⟨e, he, rfl⟩ := Option.map_eq_some_iff.mp hw
  unfold unwrapProfileKey at hx
  split_ifs at hx
  have hdecrypt := (Option.filter_eq_some_iff.mp hx).1
  rw [hsame, show e.ciphertext = _ from ciphertext_of_envelope he] at hdecrypt
  obtain ⟨rfl, hnonce, haad⟩ := hexact _ _ _ _ hdecrypt
  obtain ⟨hbinding, hkek⟩ := profileAad_injective haad
  rw [hnonce, haad, aead.decrypt_encrypt] at hdecrypt
  exact ⟨rfl, hnonce, hbinding, hkek, (Option.some.inj hdecrypt).symm⟩

/-- Key records are bound to everything in them. -/
theorem key_records_bind (aead : Aead) :
    (∀ kek kek' binding binding', profileAad kek binding = profileAad kek' binding' →
      binding = binding' ∧ kek.SameKey kek') ∧
    (∀ p : Provider, p.sentinelAad = administeredAad p.identity) ∧
    (∀ identity identity', administeredAad identity = administeredAad identity' →
      identity.installationId = identity'.installationId ∧ identity.catalogId = identity'.catalogId ∧
        identity.sentinelId = identity'.sentinelId ∧
        identity.activeKek.SameKey identity'.activeKek) ∧
    (∀ kek binding identity, profileAad kek binding ≠ administeredAad identity) ∧
    (∀ key kek binding nonce dek w, wrapProfileKey aead key kek binding nonce dek = some w →
      Exact aead key nonce.bytes dek.bytes (profileAad kek binding) →
      ∀ key' identity w' binding' x, w'.envelope = w.envelope →
        unwrapProfileKey aead key' identity w' binding' = some x →
          key' = key ∧ w'.nonce.bytes = nonce.bytes ∧ binding' = binding ∧
            identity.activeKek.SameKey kek ∧ x = dek.bytes) ∧
    (∀ key identity nonce s, wrapSentinel aead key identity nonce = some s →
      ∀ p : Provider, p.identity = identity → p.sentinel = s → Authenticates aead key p) :=
  ⟨fun _ _ _ _ => profileAad_injective, sentinelAad_administered,
    fun _ _ => administeredAad_injective, profileAad_ne_administeredAad,
    fun _ _ _ _ _ _ hw hexact _ _ _ _ _ => unwrap_bound hw hexact,
    fun _ _ _ _ hs _ => wrapSentinel_authenticates hs⟩

namespace Sample

/-- The tag of the program's cipher at one key, nonce and associated data, and another one elsewhere. -/
def mark (key nonce aad key' nonce' ciphertext aad' : Bytes) : Bytes :=
  let tag := AesGcm.tag key nonce ciphertext aad
  if key' = key ∧ nonce' = nonce ∧ aad' = aad then tag else tag.map (· ^^^ 1)

theorem length_mark (key nonce aad key' nonce' ciphertext aad' : Bytes) :
    (mark key nonce aad key' nonce' ciphertext aad').length = 16 := by
  unfold mark
  dsimp only
  split_ifs
  · exact AesGcm.length_tag ..
  · rw [List.length_map, AesGcm.length_tag]

theorem mark_exact {key nonce aad key' nonce' ciphertext aad' : Bytes}
    (h : mark key nonce aad key nonce ciphertext aad = mark key nonce aad key' nonce' ciphertext aad') :
    key' = key ∧ nonce' = nonce ∧ aad' = aad := by
  by_contra hne
  rw [mark, mark, if_pos ⟨rfl, rfl, rfl⟩, if_neg hne] at h
  have hlength := AesGcm.length_tag key nonce ciphertext aad
  cases htag : AesGcm.tag key nonce ciphertext aad with
  | nil =>
    rw [htag] at hlength
    exact nomatch hlength
  | cons b bs =>
    rw [htag, List.map_cons] at h
    have hflip : b ^^^ b = b ^^^ (b ^^^ 1) := congrArg (b ^^^ ·) (List.head_eq_of_cons_eq h)
    rw [← UInt8.xor_assoc, UInt8.xor_self, UInt8.zero_xor] at hflip
    exact absurd hflip (by decide)

/-- A cipher that is the program's at one key, nonce and associated data. -/
def exactAt (key nonce aad : Bytes) : Aead where
  encrypt key' nonce' plaintext aad' :=
    let ciphertext := AesGcm.mask key' nonce' plaintext
    ciphertext ++ mark key nonce aad key' nonce' ciphertext aad'
  decrypt key' nonce' ciphertext aad' :=
    let text := ciphertext.take (ciphertext.length - 16)
    if ciphertext.drop (ciphertext.length - 16) = mark key nonce aad key' nonce' text aad' then
      some (AesGcm.mask key' nonce' text)
    else none
  decrypt_encrypt key' nonce' plaintext aad' := by
    have hlength (c : Bytes) : (c ++ mark key nonce aad key' nonce' c aad').length - 16 = c.length := by
      rw [List.length_append, length_mark, Nat.add_sub_cancel]
    dsimp only
    rw [hlength, List.take_left, List.drop_left, if_pos rfl, AesGcm.mask_mask]
  length_encrypt key' nonce' plaintext aad' := by
    rw [List.length_append, AesGcm.length_mask, length_mark]

theorem exactAt_exact (key nonce plaintext aad : Bytes) :
    Exact (exactAt key nonce aad) key nonce plaintext aad := by
  intro key' nonce' aad' x h
  have hlength (c : Bytes) : (c ++ mark key nonce aad key nonce c aad).length - 16 = c.length := by
    rw [List.length_append, length_mark, Nat.add_sub_cancel]
  dsimp only [exactAt] at h
  rw [hlength, List.take_left, List.drop_left] at h
  split_ifs at h with hmark
  exact mark_exact hmark

/-- A profile key of the sample installation. -/
theorem key_records_bind_sample :
    ∃ w, wrapProfileKey (exactAt key (nonce 2).bytes (profileAad kek binding)) key kek binding (nonce 2)
        dek = some w ∧
      ∀ key' identity' w' binding' x, w'.envelope = w.envelope →
        unwrapProfileKey (exactAt key (nonce 2).bytes (profileAad kek binding)) key' identity' w'
          binding' = some x →
          key' = key ∧ w'.nonce.bytes = (nonce 2).bytes ∧ binding' = binding ∧
            identity'.activeKek.SameKey kek ∧ x = dek.bytes := by
  have henvelope : ∃ e, Provider.envelope ((exactAt key (nonce 2).bytes (profileAad kek binding)).encrypt
      key (nonce 2).bytes dek.bytes (profileAad kek binding)) = some e :=
    ⟨_, dif_pos (Aead.length_encrypt ..)⟩
  obtain ⟨e, he⟩ := henvelope
  refine ⟨⟨kek, binding, nonce 2, e⟩, Option.map_eq_some_iff.mpr ⟨e, he, rfl⟩, ?_⟩
  exact (key_records_bind _).2.2.2.2.1 _ _ _ _ _ _ (Option.map_eq_some_iff.mpr ⟨e, he, rfl⟩)
    (exactAt_exact _ _ _ _)

end Sample

end MyCogni.Keys
