import MyCogni.Persistence.Mounts

/-! Which texts are the code of the credential that they are accepted as, and what the redaction of a
transcript removes. -/

namespace MyCogni.Auth
open Persistence (replace replaceFrom)

def redactedMark : Text := "[REDACTED:auth_secret]".toList

/-- `redact_operator_transcript` -/
def redactOperatorTranscript (transcript : Text) (credentials : List OpaqueCredential) : Text :=
  credentials.foldl (fun redacted c => replace c.operatorCode redactedMark redacted) transcript

/-! ### The texts that are accepted -/

/-- What follows the first dot of the text without surrounding white space. -/
def secretPart (t : Text) : Text := ((strip t).dropWhile (· ≠ '.')).tail

/-- The secret is written in the URL-safe alphabet only, without padding, and no bits of its last digit
are beyond the last byte. -/
def Canonical (t : Text) : Prop :=
  (∀ c ∈ secretPart t, c ≠ '+' ∧ c ≠ '/' ∧ c ≠ '=') ∧
    Base64.spare ((secretPart t ++ padding (secretPart t)).map ofUrlsafe) = 0

instance (t : Text) : Decidable (Canonical t) := inferInstanceAs (Decidable (_ ∧ _))

theorem parse_eq_some {t : Text} {i : OpaqueId} (h : OpaqueId.parse t = some i) : i.str = t := by
  unfold OpaqueId.parse at h
  obtain ⟨value, -, h⟩ := Option.bind_eq_some_iff.mp h
  split_ifs at h with ht hv4
  obtain rfl := Option.some.inj h
  exact ht

/-- An accepted text is a handle, a dot and a secret that decodes. -/
theorem parseOperatorCode_eq_some {t : Text} {c : OpaqueCredential} (h : parseOperatorCode t = some c) :
    strip t = c.handle.str ++ '.' :: secretPart t ∧
      urlsafeDecode (secretPart t ++ padding (secretPart t)) = some c.secret := by
  unfold parseOperatorCode at h
  split_ifs at h with hlength
  split at h
  · exact nomatch h
  · next x encoded hdrop =>
    have hpart : secretPart t = encoded := by rw [secretPart, hdrop, List.tail_cons]
    obtain ⟨secret, hsecret, h⟩ := Option.bind_eq_some_iff.mp h
    obtain ⟨handle, hhandle, h⟩ := Option.bind_eq_some_iff.mp h
    split_ifs at h with hvalid
    obtain rfl := Option.some.inj h
    have hdot : x = '.' := by
      have hhead := List.head?_dropWhile_not (fun c : Char => decide (c ≠ '.')) (strip t)
      rw [hdrop] at hhead
      simpa using hhead
    have hsplit : strip t = (strip t).takeWhile (fun c => decide (c ≠ '.')) ++ x :: encoded := by
      rw [← hdrop]
      exact List.takeWhile_append_dropWhile.symm
    refine ⟨?_, hpart ▸ hsecret⟩
    rw [parse_eq_some hhandle, hpart, ← hdot]
    rw [hdot] at hsplit ⊢
    exact hsplit

/-! ### The texts that are codes -/

theorem toUrlsafe_ofUrlsafe {c : Char} (h : c ≠ '+' ∧ c ≠ '/' ∧ c ≠ '=') : toUrlsafe (ofUrlsafe c) = c := by
  unfold ofUrlsafe
  split_ifs with hdash hline
  · rw [hdash]
    rfl
  · rw [hline]
    rfl
  · rw [toUrlsafe, if_neg h.1, if_neg h.2.1]

/-- The secret of an accepted text is written as in the code just where it is canonical. -/
theorem secretPart_eq_iff {encoded : Text} {secret : Bytes}
    (h : urlsafeDecode (encoded ++ padding encoded) = some secret) :
    rstripPadding (urlsafeEncode secret) = encoded ↔
      (∀ c ∈ encoded, c ≠ '+' ∧ c ≠ '/' ∧ c ≠ '=') ∧
        Base64.spare ((encoded ++ padding encoded).map ofUrlsafe) = 0 := by
  constructor
  · rintro rfl
    refine ⟨fun c hc => ?_, ?_⟩
    · have hplain : ∀ c ∈ codeChars, c ≠ '+' ∧ c ≠ '/' ∧ c ≠ '=' :=
        forall_mem_of_all (by decide +kernel)
      exact hplain c ((padded_code secret).1 c hc)
    · rw [(padded_code secret).2]
      exact (Base64.encode_eq_iff (Base64.decode_encode secret)).mp rfl
  · rintro ⟨hplain, hspare⟩
    have hencode : Base64.encode secret = (encoded ++ padding encoded).map ofUrlsafe :=
      (Base64.encode_eq_iff h).mpr hspare
    have hback : (encoded.map ofUrlsafe).map toUrlsafe = encoded := by
      rw [List.map_map]
      refine (List.map_congr_left fun c hc => ?_).trans (List.map_id encoded)
      exact toUrlsafe_ofUrlsafe (hplain c hc)
    rw [urlsafeEncode, hencode, List.map_append, List.map_append, hback, padding, List.map_replicate,
      List.map_replicate]
    exact rstripPadding_append fun c hc => (hplain c hc).2.2

theorem strip_eq_iff {t : Text} {c : OpaqueCredential} (h : parseOperatorCode t = some c) :
    strip t = c.operatorCode ↔ Canonical t := by
  obtain ⟨hstrip, hdecode⟩ := parseOperatorCode_eq_some h
  rw [hstrip, OpaqueCredential.operatorCode, List.append_cancel_left_eq, List.cons_inj_right, eq_comm,
    secretPart_eq_iff hdecode]
  rfl

/-! ### Redaction -/

/-- A text without the character lies before it or after it. -/
theorem infix_of_not_mem {x : Char} {p a b : Text} (hx : x ∉ p) (h : p <:+: a ++ x :: b) :
    p <:+: a ∨ p <:+: b := by
  obtain ⟨s, r, h⟩ := h
  rcases List.append_eq_append_iff.mp h with ⟨m, rfl, -⟩ | ⟨m, hm, hr⟩
  · exact Or.inl ⟨s, m, rfl⟩
  · rcases m with _ | ⟨y, m⟩
    · exact Or.inl ⟨s, [], by rw [List.append_nil, hm, List.append_nil]⟩
    · obtain ⟨rfl, rfl⟩ := List.cons.inj hr
      rcases List.append_eq_append_iff.mp hm with ⟨n, -, hp⟩ | ⟨n, -, hn⟩
      · exact absurd (hp ▸ List.mem_append_right n List.mem_cons_self) hx
      · rcases n with _ | ⟨z, n⟩
        · rw [List.nil_append] at hn
          exact absurd (hn ▸ List.mem_cons_self) hx
        · obtain ⟨-, rfl⟩ := List.cons.inj hn
          exact Or.inr ⟨n, r, rfl⟩

/-- A mark between a bracket and another, with no room for the text between them. -/
theorem infix_of_mark {p a b : Text} (hopen : '[' ∉ p) (hclose : ']' ∉ p)
    (hlong : redactedMark.length ≤ p.length) (h : p <:+: a ++ (redactedMark ++ b)) : p <:+: a ∨ p <:+: b := by
  have hmark : redactedMark = '[' :: ("REDACTED:auth_secret".toList ++ [']']) := by decide
  rw [hmark, List.cons_append, List.append_assoc] at h
  rcases infix_of_not_mem hopen h with h | h
  · exact Or.inl h
  · rcases infix_of_not_mem hclose h with h | h
    · have hle := h.length_le
      have hshort : ("REDACTED:auth_secret".toList).length < redactedMark.length := by decide
      omega
    · exact Or.inr h

section Replace
variable {old p : Text}

theorem replaceFrom_nil (old new : Text) (skip : Nat) : replaceFrom old new skip [] = [] := by
  cases skip <;> rfl

/-- Where a text is in what the replacement leaves, it was there before. -/
theorem infix_of_replaceFrom (hopen : '[' ∉ p) (hclose : ']' ∉ p)
    (hlong : redactedMark.length ≤ p.length) (t : Text) :
    (∀ skip, p <:+: replaceFrom old redactedMark skip t → p <:+: t) ∧
      ∀ u, p <:+: u ++ replaceFrom old redactedMark 0 t → p <:+: u ++ t := by
  induction t with
  | nil =>
    refine ⟨fun skip h => ?_, fun u h => ?_⟩
    · rwa [replaceFrom_nil] at h
    · rwa [replaceFrom_nil] at h
  | cons c t ih =>
    have hzero : ∀ u, p <:+: u ++ replaceFrom old redactedMark 0 (c :: t) → p <:+: u ++ c :: t := by
      intro u h
      rw [replaceFrom] at h
      split_ifs at h with hmatch
      · rcases infix_of_mark hopen hclose hlong h with h | h
        · exact h.trans (List.prefix_append u _).isInfix
        · exact (ih.1 _ h).trans ((List.suffix_cons c t).trans (List.suffix_append u _)).isInfix
      · have hnext : p <:+: (u ++ [c]) ++ replaceFrom old redactedMark 0 t := by simpa using h
        simpa using ih.2 (u ++ [c]) hnext
    refine ⟨fun skip h => ?_, hzero⟩
    cases skip with
    | zero => exact hzero [] h
    | succ skip => exact (ih.1 skip h).trans (List.suffix_cons c t).isInfix

theorem prefix_drop_of_infix {u t : Text} (hne : old ≠ []) (h : old <:+: u) :
    ∃ i < u.length, old <+: (u ++ t).drop i := by
  obtain ⟨s, r, rfl⟩ := h
  refine ⟨s.length, ?_, r ++ t, ?_⟩
  · have hpos := List.length_pos_of_ne_nil hne
    simp only [List.length_append]
    omega
  · simp

/-- Nothing that is replaced is left, where no occurrence starts in what stands before. -/
theorem not_infix_replaceFrom (hopen : '[' ∉ old) (hclose : ']' ∉ old)
    (hlong : redactedMark.length ≤ old.length) (t : Text) :
    (∀ skip, ¬old <:+: replaceFrom old redactedMark skip t) ∧
      ∀ u, (∀ i < u.length, ¬old <+: (u ++ t).drop i) → ¬old <:+: u ++ replaceFrom old redactedMark 0 t := by
  have hne : old ≠ [] := by
    rintro rfl
    exact absurd hlong (by decide)
  have hbefore : ∀ {u t : Text}, (∀ i < u.length, ¬old <+: (u ++ t).drop i) → ¬old <:+: u := by
    intro u t hu h
    obtain ⟨i, hi, hprefix⟩ := prefix_drop_of_infix hne h
    exact hu i hi hprefix
  induction t with
  | nil =>
    refine ⟨fun skip h => ?_, fun u hu h => ?_⟩
    · rw [replaceFrom_nil] at h
      exact hne (List.infix_nil.mp h)
    · rw [replaceFrom_nil, List.append_nil] at h
      exact hbefore hu h
  | cons c t ih =>
    have hzero : ∀ u, (∀ i < u.length, ¬old <+: (u ++ c :: t).drop i) →
        ¬old <:+: u ++ replaceFrom old redactedMark 0 (c :: t) := by
      intro u hu h
      rw [replaceFrom] at h
      split_ifs at h with hmatch
      · rcases infix_of_mark hopen hclose hlong h with h | h
        · exact hbefore hu h
        · exact ih.1 _ h
      · refine ih.2 (u ++ [c]) (fun i hi hprefix => ?_) (by simpa using h)
        rw [List.append_assoc, List.singleton_append] at hprefix
        rw [List.length_append, List.length_singleton] at hi
        rcases Nat.lt_succ_iff_lt_or_eq.mp hi with hi | rfl
        · exact hu i hi hprefix
        · rw [List.drop_left] at hprefix
          exact hmatch (List.isPrefixOf_iff_prefix.mpr hprefix)
    refine ⟨fun skip => ?_, hzero⟩
    cases skip with
    | zero => exact hzero [] (fun _ h => by cases h)
    | succ skip => exact ih.1 skip

end Replace

/-- A code has no brackets, and it is longer than the mark. -/
theorem operatorCode_plain (c : OpaqueCredential) :
    '[' ∉ c.operatorCode ∧ ']' ∉ c.operatorCode ∧ redactedMark.length ≤ c.operatorCode.length := by
  have hchar : ∀ {x}, x ∈ c.operatorCode → x ∈ codeChars ∨ x = '.' := by
    intro x hx
    rcases List.mem_append.mp hx with hx | hx
    · exact Or.inl (handle_mem c.handle hx)
    · rcases List.mem_cons.mp hx with rfl | hx
      · exact Or.inr rfl
      · exact Or.inl ((padded_code c.secret).1 x hx)
  refine ⟨fun h => absurd (hchar h) (by decide), fun h => absurd (hchar h) (by decide), ?_⟩
  rw [OpaqueCredential.operatorCode, List.length_append, OpaqueId.str, Uuid.length_str]
  exact (by decide : redactedMark.length ≤ 36).trans (Nat.le_add_right 36 _)

/-- What is not in a transcript is not in the redacted one. -/
theorem infix_of_redacted {c : OpaqueCredential} {credentials : List OpaqueCredential} {transcript : Text}
    (h : c.operatorCode <:+: redactOperatorTranscript transcript credentials) :
    c.operatorCode <:+: transcript := by
  obtain ⟨hopen, hclose, hlong⟩ := operatorCode_plain c
  induction credentials generalizing transcript with
  | nil => exact h
  | cons d credentials ih => exact (infix_of_replaceFrom hopen hclose hlong transcript).1 0 (ih h)

/-- A code is removed from every transcript. -/
theorem redacted_removes {c : OpaqueCredential} {credentials : List OpaqueCredential}
    (hc : c ∈ credentials) (transcript : Text) :
    ¬c.operatorCode <:+: redactOperatorTranscript transcript credentials := by
  obtain ⟨hopen, hclose, hlong⟩ := operatorCode_plain c
  induction credentials generalizing transcript with
  | nil => exact absurd hc List.not_mem_nil
  | cons d credentials ih =>
    rcases List.mem_cons.mp hc with rfl | hc
    · intro h
      exact (not_infix_replaceFrom hopen hclose hlong transcript).1 0 (infix_of_redacted h)
    · exact ih hc _

/-! ### Exactness -/

/-- The text is the code of the credential, and it is removed from every transcript. -/
def Exact (t : Text) (c : OpaqueCredential) : Prop :=
  strip t = c.operatorCode ∧ ∀ credentials, c ∈ credentials → ∀ transcript,
    ¬strip t <:+: redactOperatorTranscript transcript credentials

theorem length_operatorCode {c : OpaqueCredential} (h : c.secret.length = 32) :
    c.operatorCode.length ≤ maxOperatorCodeChars := by
  have hencode : (urlsafeEncode c.secret).length = 44 := by
    rw [urlsafeEncode, List.length_map, Base64.length_encode, h]
  have hstrip : (rstripPadding (urlsafeEncode c.secret)).length ≤ 44 := by
    have hdrop : ((urlsafeEncode c.secret).reverse.dropWhile (· = '=')).length ≤
        (urlsafeEncode c.secret).reverse.length := (List.dropWhile_sublist _).length_le
    rwa [List.length_reverse, hencode, ← List.length_reverse] at hdrop
  have hhandle : c.handle.str.length = 36 := Uuid.length_str c.handle.value
  rw [OpaqueCredential.operatorCode, List.length_append, List.length_cons, hhandle, maxOperatorCodeChars]
  omega

/-- Every code of a credential with 32 bytes is read back; an accepted text is exactly the code of its
credential, and is redacted as it, where it is canonical; and the canonical texts of one credential differ
in their white space only. -/
theorem operator_code_exact (t : Text) (c : OpaqueCredential) :
    (c.secret.length = 32 → parseOperatorCode c.operatorCode = some c) ∧
    (parseOperatorCode t = some c → (Exact t c ↔ Canonical t)) ∧
    ∀ t', parseOperatorCode t = some c → parseOperatorCode t' = some c → Canonical t → Canonical t' →
      strip t = strip t' := by
  refine ⟨fun hlength => ?_, fun h => ?_, fun t' h h' hcanonical hcanonical' => ?_⟩
  · exact parseOperatorCode_operatorCode (by rw [OpaqueCredential.Valid, hlength]; decide)
      (length_operatorCode hlength)
  · refine ⟨fun hexact => (strip_eq_iff h).mp hexact.1, fun hcanonical => ?_⟩
    have hstrip := (strip_eq_iff h).mpr hcanonical
    refine ⟨hstrip, fun credentials hc transcript => ?_⟩
    rw [hstrip]
    exact redacted_removes hc transcript
  · rw [(strip_eq_iff h).mpr hcanonical, (strip_eq_iff h').mpr hcanonical']

namespace Sample

/-- 32 bytes of zeros. -/
def zeros : OpaqueCredential :=
  ⟨⟨⟨[0, 0, 0, 0, 0, 0, 0x40, 0, 0x80, 0, 0, 0, 0, 0, 0, 0], rfl⟩, by decide⟩, List.replicate 32 0⟩

/-- The last digit has a bit that is beyond the last byte. -/
def other : Text := zeros.operatorCode.dropLast ++ ['B']

theorem other_accepted : parseOperatorCode other = some zeros := by decide +kernel

/-- Two different texts are accepted as the same credential, and one of them is left in a transcript that
is redacted. -/
theorem other_left : ¬∀ t c, parseOperatorCode t = some c →
    strip t = c.operatorCode ∧ ∀ transcript, ¬strip t <:+: redactOperatorTranscript transcript [c] := by
  intro h
  have hleft : redactOperatorTranscript other [zeros] = other := by decide +kernel
  have hstrip : strip other = other := by decide +kernel
  refine (h other zeros other_accepted).2 other ?_
  rw [hleft, hstrip]

/-- The code itself, between white space. -/
theorem zeros_exact : Exact (' ' :: zeros.operatorCode) zeros := by
  have haccepted : parseOperatorCode (' ' :: zeros.operatorCode) = some zeros := by decide +kernel
  have hstrip : strip (' ' :: zeros.operatorCode) = zeros.operatorCode := by decide +kernel
  exact ((operator_code_exact _ zeros).2.1 haccepted).mpr ((strip_eq_iff haccepted).mp hstrip)

end Sample

end MyCogni.Auth
