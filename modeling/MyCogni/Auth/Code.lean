import MyCogni.Auth.Domain
import MyCogni.Base.Base64

/-! The text of a credential on the operator's terminal: its handle, a dot, and its secret in the
URL-safe alphabet of base 64 without padding. -/

namespace MyCogni.Auth

/-- `str.isspace` of one character. -/
def isSpace (c : Char) : Bool :=
  let n := c.toNat
  9 ≤ n && n ≤ 13 || 28 ≤ n && n ≤ 32 || n = 0x85 || n = 0xa0 || n = 0x1680 ||
    0x2000 ≤ n && n ≤ 0x200a || n = 0x2028 || n = 0x2029 || n = 0x202f || n = 0x205f || n = 0x3000

def strip (t : Text) : Text := ((t.dropWhile isSpace).reverse.dropWhile isSpace).reverse

/-- `urlsafe_b64encode` writes the alphabet of `b64encode` with two characters exchanged. -/
def toUrlsafe (c : Char) : Char := if c = '+' then '-' else if c = '/' then '_' else c

/-- The alternative characters that `b64decode` reads. -/
def ofUrlsafe (c : Char) : Char := if c = '-' then '+' else if c = '_' then '/' else c

def urlsafeEncode (b : Bytes) : Text := (Base64.encode b).map toUrlsafe

def urlsafeDecode (t : Text) : Option Bytes := Base64.decode (t.map ofUrlsafe)

def rstripPadding (t : Text) : Text := (t.reverse.dropWhile (· = '=')).reverse

/-- `"=" * (-len(encoded) % 4)` -/
def padding (t : Text) : Text := List.replicate ((4 - t.length % 4) % 4) '='

def maxOperatorCodeChars : Nat := 128

def minSecretBytes : Nat := 32

/-- What the constructor of a credential checks. -/
def OpaqueCredential.Valid (c : OpaqueCredential) : Prop := minSecretBytes ≤ c.secret.length

instance (c : OpaqueCredential) : Decidable c.Valid := inferInstanceAs (Decidable (_ ≤ _))

def OpaqueCredential.operatorCode (c : OpaqueCredential) : Text :=
  c.handle.str ++ '.' :: rstripPadding (urlsafeEncode c.secret)

/-- None where the code is malformed. -/
def parseOperatorCode (t : Text) : Option OpaqueCredential :=
  if 1 ≤ t.length ∧ t.length ≤ maxOperatorCodeChars then
    match (strip t).dropWhile (· ≠ '.') with
    | [] => none
    | _ :: encoded => do
      let secret ← urlsafeDecode (encoded ++ padding encoded)
      let handle ← OpaqueId.parse ((strip t).takeWhile (· ≠ '.'))
      if (⟨handle, secret⟩ : OpaqueCredential).Valid then some ⟨handle, secret⟩ else none
  else none

/-! ### The round trip -/

/-- Characters that a code is made of, but for the dot. -/
def codeChars : List Char :=
  "ABCDEFGHIJKLMNOPQRSTUVWXYZabcdefghijklmnopqrstuvwxyz0123456789-_".toList

theorem codeChars_plain : ∀ c ∈ codeChars, isSpace c = false ∧ c ≠ '.' ∧ c ≠ '=' :=
  forall_mem_of_all (by decide +kernel)

theorem strip_eq_self {t : Text} (h : ∀ c ∈ t, isSpace c = false) : strip t = t := by
  have hdrop : ∀ u : Text, (∀ c ∈ u, isSpace c = false) → u.dropWhile isSpace = u := by
    intro u hu
    cases u with
    | nil => rfl
    | cons c u => rw [List.dropWhile_cons, hu c List.mem_cons_self]; rfl
  rw [strip, hdrop t h, hdrop _ fun c hc => h c (List.mem_reverse.mp hc), List.reverse_reverse]

theorem hexDigit_mem : ∀ n < 16, hexDigit n ∈ codeChars := by decide

theorem hex_mem {bs : Bytes} {c : Char} (h : c ∈ hex bs) : c ∈ codeChars := by
  obtain ⟨b, -, hb⟩ := List.mem_flatMap.mp h
  have hlt : b.toNat < 256 := b.toNat_lt
  simp only [byteHex, List.mem_cons, List.not_mem_nil, or_false] at hb
  rcases hb with rfl | rfl
  · exact hexDigit_mem _ (by omega)
  · exact hexDigit_mem _ (by omega)

theorem handle_mem (i : OpaqueId) {c : Char} (h : c ∈ i.str) : c ∈ codeChars := by
  have hdash : '-' ∈ codeChars := by decide
  simp only [OpaqueId.str, Uuid.str, List.mem_append, List.mem_cons, or_assoc] at h
  rcases h with h | rfl | h | rfl | h | rfl | h | rfl | h
  all_goals first | exact hdash | exact hex_mem h

/-- The text of the bytes is a body of digits with at most two padding characters, of a length
that is a multiple of four. -/
theorem encode_shape (bs : Bytes) :
    ∃ body k, Base64.encode bs = body ++ List.replicate k '=' ∧ k ≤ 2 ∧
      (body.length + k) % 4 = 0 ∧ ∀ c ∈ body, ∃ n < 64, c = Base64.digit n := by
  induction bs using Base64.encode.induct with
  | case1 => exact ⟨[], 0, rfl, by decide, rfl, (fun _ h => by cases h)⟩
  | case2 a =>
    have ha := a.toNat_lt
    refine ⟨[Base64.digit (a.toNat * 16 / 64), Base64.digit (a.toNat * 16 % 64)], 2, rfl,
      le_rfl, by simp, fun c hc => ?_⟩
    simp only [List.mem_cons, List.not_mem_nil, or_false] at hc
    rcases hc with rfl | rfl <;> exact ⟨_, by omega, rfl⟩
  | case3 a b =>
    have ha := a.toNat_lt
    have hb := b.toNat_lt
    refine ⟨[Base64.digit ((a.toNat * 256 + b.toNat) * 4 / 4096),
      Base64.digit ((a.toNat * 256 + b.toNat) * 4 / 64 % 64),
      Base64.digit ((a.toNat * 256 + b.toNat) * 4 % 64)], 1, rfl, by decide, by simp, fun c hc => ?_⟩
    simp only [List.mem_cons, List.not_mem_nil, or_false] at hc
    rcases hc with rfl | rfl | rfl <;> exact ⟨_, by omega, rfl⟩
  | case4 a b c bs ih =>
    have ha := a.toNat_lt
    obtain ⟨body, k, hencode, hk, hlength, hbody⟩ := ih
    refine ⟨Base64.digit (((a.toNat * 256 + b.toNat) * 256 + c.toNat) / 262144) ::
      Base64.digit (((a.toNat * 256 + b.toNat) * 256 + c.toNat) / 4096 % 64) ::
      Base64.digit (((a.toNat * 256 + b.toNat) * 256 + c.toNat) / 64 % 64) ::
      Base64.digit (((a.toNat * 256 + b.toNat) * 256 + c.toNat) % 64) :: body, k, ?_, hk, ?_, ?_⟩
    · rw [Base64.encode, hencode]
      rfl
    · simp only [List.length_cons]
      omega
    · have hb := b.toNat_lt
      have hc := c.toNat_lt
      intro d hd
      simp only [List.mem_cons] at hd
      rcases hd with rfl | rfl | rfl | rfl | hd
      all_goals first | exact hbody d hd | exact ⟨_, by omega, rfl⟩

theorem urlsafe_digit :
    ∀ n < 64, toUrlsafe (Base64.digit n) ∈ codeChars ∧
      ofUrlsafe (toUrlsafe (Base64.digit n)) = Base64.digit n := by decide

theorem rstripPadding_append {body : Text} {k : Nat} (h : ∀ c ∈ body, c ≠ '=') :
    rstripPadding (body ++ List.replicate k '=') = body := by
  have hdrop : (List.replicate k '=' ++ body.reverse).dropWhile (· = '=') = body.reverse := by
    induction k with
    | zero =>
      rcases hb : body.reverse with _ | ⟨c, rest⟩
      · rfl
      · have hc : c ≠ '=' := h c (List.mem_reverse.mp (hb ▸ List.mem_cons_self))
        simp [hc]
    | succ k ih => simpa [List.replicate_succ] using ih
  rw [rstripPadding, List.reverse_append, List.reverse_replicate, hdrop, List.reverse_reverse]

/-- The text of the secret in a code, padded again, is the text that encodes the secret. -/
theorem padded_code (secret : Bytes) :
    (∀ c ∈ rstripPadding (urlsafeEncode secret), c ∈ codeChars) ∧
      (rstripPadding (urlsafeEncode secret) ++ padding (rstripPadding (urlsafeEncode secret))).map ofUrlsafe =
        Base64.encode secret := by
  obtain ⟨body, k, hencode, hk, hlength, hbody⟩ := encode_shape secret
  have hpad : toUrlsafe '=' = '=' := by decide
  have hmem : ∀ c ∈ body.map toUrlsafe, c ∈ codeChars := by
    intro c hc
    obtain ⟨d, hd, rfl⟩ := List.mem_map.mp hc
    obtain ⟨n, hn, rfl⟩ := hbody d hd
    exact (urlsafe_digit n hn).1
  have hstrip : rstripPadding (urlsafeEncode secret) = body.map toUrlsafe := by
    rw [urlsafeEncode, hencode, List.map_append, List.map_replicate, hpad]
    exact rstripPadding_append fun c hc => (codeChars_plain c (hmem c hc)).2.2
  have hpadding : padding (body.map toUrlsafe) = List.replicate k '=' := by
    rw [padding, List.length_map]
    congr 1
    omega
  have hback : (body.map toUrlsafe).map ofUrlsafe = body := by
    rw [List.map_map]
    refine (List.map_congr_left fun c hc => ?_).trans (List.map_id body)
    obtain ⟨n, hn, rfl⟩ := hbody c hc
    exact (urlsafe_digit n hn).2
  rw [hstrip, hpadding]
  refine ⟨hmem, ?_⟩
  rw [List.map_append, hback, List.map_replicate, show ofUrlsafe '=' = '=' from rfl, ← hencode]

/-- The secret in the code is read back, with its padding restored. -/
theorem urlsafeDecode_code (secret : Bytes) :
    (∀ c ∈ rstripPadding (urlsafeEncode secret), c ∈ codeChars) ∧
      urlsafeDecode (rstripPadding (urlsafeEncode secret) ++
        padding (rstripPadding (urlsafeEncode secret))) = some secret := by
  obtain ⟨hmem, hpadded⟩ := padded_code secret
  refine ⟨hmem, ?_⟩
  rw [urlsafeDecode, hpadded]
  exact Base64.decode_encode secret

/-- A code that is not too long parses back to its credential. -/
theorem parseOperatorCode_operatorCode {c : OpaqueCredential} (hvalid : c.Valid)
    (hlength : c.operatorCode.length ≤ maxOperatorCodeChars) :
    parseOperatorCode c.operatorCode = some c := by
  obtain ⟨hchars, hdecode⟩ := urlsafeDecode_code c.secret
  have hspace : ∀ d ∈ c.operatorCode, isSpace d = false := by
    intro d hd
    rcases List.mem_append.mp hd with hd | hd
    · exact (codeChars_plain d (handle_mem c.handle hd)).1
    rcases List.mem_cons.mp hd with rfl | hd
    · rfl
    · exact (codeChars_plain d (hchars d hd)).1
  have hdot : ∀ d ∈ c.handle.str, decide (d ≠ '.') = true := fun d hd =>
    decide_eq_true (codeChars_plain d (handle_mem c.handle hd)).2.1
  have hpos : 1 ≤ c.operatorCode.length := by
    simp only [OpaqueCredential.operatorCode, List.length_append, List.length_cons]
    omega
  rw [parseOperatorCode, if_pos ⟨hpos, hlength⟩, strip_eq_self hspace, OpaqueCredential.operatorCode,
    List.dropWhile_append_of_pos hdot, List.takeWhile_append_of_pos hdot]
  simp only [ne_eq, not_true_eq_false, decide_false, Bool.false_eq_true, not_false_eq_true,
    List.dropWhile_cons_of_neg, List.takeWhile_cons_of_neg, List.append_nil]
  rw [hdecode, OpaqueId.parse_str]
  exact if_pos hvalid

end MyCogni.Auth
