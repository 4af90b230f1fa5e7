import MyCogni.Base.Pattern
import MyCogni.Base.Url
import MyCogni.Mailbox.Protocol

/-! The validation of HTTPS origins and of host names in connector manifests, and the language of
texts that it accepts. -/

namespace MyCogni.Connector
open RegularExpression

/-! ### Host names -/

def lowerLetters : List Char := "abcdefghijklmnopqrstuvwxyz".toList
def digits : List Char := "0123456789".toList

/-- `[a-z0-9]` and `[a-z0-9-]`. -/
def alnum : List Char := lowerLetters ++ digits
def alnumHyphen : List Char := '-' :: alnum

/-- `(?:[a-z0-9-]{0,61}[a-z0-9])?`. -/
def labelTail : RegularExpression Char :=
  Pattern.optional (Pattern.upTo 61 (Pattern.oneOf alnumHyphen) * Pattern.oneOf alnum)

/-- `_HOST` behind its lookahead. -/
def hostPattern : RegularExpression Char :=
  Pattern.oneOrMore (Pattern.oneOf alnum * labelTail * char '.') *
    (Pattern.oneOf lowerLetters * labelTail)

/-- `(?=.{1,253}$)`, where `.` is any character but a newline and `$` also stands in front of a
newline that ends the text. -/
def hostLookahead (t : Text) : Prop :=
  ∃ front back, t = front ++ back ∧ 1 ≤ front.length ∧ front.length ≤ 253 ∧ '\n' ∉ front ∧
    (back = [] ∨ back = ['\n'])

/-- `_HOST.fullmatch(t)`. -/
def hostFullmatch (t : Text) : Prop := hostLookahead t ∧ t ∈ hostPattern.matches'

/-- A label of a host name. -/
structure IsLabel (l : Text) : Prop where
  nonempty : l ≠ []
  short : l.length ≤ 63
  letters : ∀ c ∈ l, c ∈ alnumHyphen
  first : l.head? ≠ some '-'
  last : l.getLast? ≠ some '-'

/-- A host name: two or more labels between dots, the last beginning with a letter. -/
structure IsDnsName (host : Text) : Prop where
  short : host.length ≤ 253
  labels : ∃ labels : List Text, 2 ≤ labels.length ∧ (∀ l ∈ labels, IsLabel l) ∧
    (∃ l ∈ labels.getLast?, ∃ c ∈ l.head?, c ∈ lowerLetters) ∧ host = ['.'].intercalate labels

theorem mem_labelTail {t : Text} : t ∈ labelTail.matches' ↔
    t = [] ∨ ∃ u c, t = u ++ [c] ∧ u.length ≤ 61 ∧ (∀ a ∈ u, a ∈ alnumHyphen) ∧ c ∈ alnum := by
  rw [labelTail, Pattern.mem_optional, Pattern.mem_mul]
  refine or_congr_right ⟨?_, ?_⟩
  · rintro ⟨u, hu, v, hv, rfl⟩
    obtain ⟨hlength, hall⟩ := Pattern.mem_upTo_oneOf.mp hu
    obtain ⟨c, hc, rfl⟩ := Pattern.mem_oneOf.mp hv
    exact ⟨u, c, rfl, hlength, hall, hc⟩
  · rintro ⟨u, c, rfl, hlength, hall, hc⟩
    exact ⟨u, Pattern.mem_upTo_oneOf.mpr ⟨hlength, hall⟩, [c], Pattern.mem_oneOf.mpr ⟨c, hc, rfl⟩, rfl⟩

theorem alnum_iff {c : Char} : c ∈ alnum ↔ c ∈ alnumHyphen ∧ c ≠ '-' := by
  have hhyphen : '-' ∉ alnum := by decide
  unfold alnumHyphen
  rw [List.mem_cons]
  constructor
  · exact fun h => ⟨Or.inr h, fun e => hhyphen (e ▸ h)⟩
  · rintro ⟨h | h, hne⟩
    · exact absurd h hne
    · exact h

/-- A label is a first letter and a tail. -/
theorem isLabel_iff {first : List Char} (hfirst : ∀ c ∈ first, c ∈ alnum) {l : Text} :
    l ∈ (Pattern.oneOf first * labelTail).matches' ↔ IsLabel l ∧ ∃ c ∈ l.head?, c ∈ first := by
  rw [Pattern.mem_mul]
  constructor
  · rintro ⟨u, hu, t, ht, rfl⟩
    obtain ⟨c, hc, rfl⟩ := Pattern.mem_oneOf.mp hu
    obtain ⟨hcAll, hcNe⟩ := alnum_iff.mp (hfirst c hc)
    refine ⟨?_, c, rfl, hc⟩
    rcases mem_labelTail.mp ht with rfl | ⟨u, d, rfl, hlength, hall, hd⟩
    · exact ⟨by simp, by simp, by simpa using hcAll, by simpa using hcNe, by simpa using hcNe⟩
    · obtain ⟨hdAll, hdNe⟩ := alnum_iff.mp hd
      refine ⟨by simp, ?_, ?_, by simpa using hcNe, ?_⟩
      · simp only [List.cons_append, List.nil_append, List.length_cons, List.length_append,
          List.length_nil]
        omega
      · intro a ha
        simp only [List.cons_append, List.nil_append, List.mem_cons, List.mem_append,
          List.not_mem_nil, or_false] at ha
        rcases ha with rfl | ha | rfl
        · exact hcAll
        · exact hall a ha
        · exact hdAll
      · rw [← List.append_assoc, List.getLast?_append, List.getLast?_singleton]
        simpa using hdNe
  · rintro ⟨h, c, hc, hcFirst⟩
    cases l with
    | nil => exact nomatch hc
    | cons a t =>
      obtain rfl : a = c := by simpa using hc
      refine ⟨[a], Pattern.mem_oneOf.mpr ⟨a, hcFirst, rfl⟩, t, mem_labelTail.mpr ?_, rfl⟩
      rcases List.eq_nil_or_concat t with rfl | ⟨u, d, rfl⟩
      · exact Or.inl rfl
      · have hshort := h.short
        have hletters := h.letters
        have hlast := h.last
        rw [List.concat_eq_append] at hshort hletters hlast ⊢
        simp only [List.length_cons, List.length_append, List.length_nil] at hshort
        rw [← List.cons_append, List.getLast?_append, List.getLast?_singleton] at hlast
        refine Or.inr ⟨u, d, rfl, by omega, fun b hb => hletters b (by simp [hb]), ?_⟩
        exact alnum_iff.mpr ⟨hletters d (by simp), by simpa using hlast⟩

theorem IsDnsName.mem {host : Text} (h : IsDnsName host) {c : Char} (hc : c ∈ host) :
    c = '.' ∨ c ∈ alnumHyphen := by
  obtain ⟨labels, -, hlabels, -, rfl⟩ := h.labels
  rcases Pattern.mem_of_mem_intercalate hc with hc | ⟨l, hl, hc⟩
  · exact Or.inl hc
  · exact Or.inr ((hlabels l hl).letters c hc)

theorem hostPattern_iff {t : Text} : t ∈ hostPattern.matches' ↔ ∃ labels : List Text,
    2 ≤ labels.length ∧ (∀ l ∈ labels, IsLabel l) ∧
      (∃ l ∈ labels.getLast?, ∃ c ∈ l.head?, c ∈ lowerLetters) ∧ t = ['.'].intercalate labels := by
  have hletters : ∀ c ∈ lowerLetters, c ∈ alnum := fun c hc => List.mem_append_left _ hc
  rw [hostPattern, Pattern.mem_joined]
  constructor
  · rintro ⟨ws, hne, last, hlast, hws, rfl⟩
    obtain ⟨hlabel, c, hc, hcLetter⟩ := (isLabel_iff hletters).mp hlast
    refine ⟨ws ++ [last], ?_, ?_, ⟨last, by simp, c, hc, hcLetter⟩, rfl⟩
    · have hpos := List.length_pos_of_ne_nil hne
      rw [List.length_append, List.length_singleton]
      omega
    · intro l hl
      rcases List.mem_append.mp hl with hl | hl
      · exact ((isLabel_iff fun _ h => h).mp (hws l hl)).1
      · exact List.mem_singleton.mp hl ▸ hlabel
  · rintro ⟨labels, hlength, hlabels, ⟨l, hl, c, hc, hcLetter⟩, rfl⟩
    rcases List.eq_nil_or_concat labels with rfl | ⟨ws, last, rfl⟩
    · exact absurd hlength (by simp)
    · rw [List.concat_eq_append] at *
      obtain rfl : last = l := by simpa using hl
      have hlast := hlabels last (by simp)
      refine ⟨ws, ?_, last, (isLabel_iff hletters).mpr ⟨hlast, c, hc, hcLetter⟩, ?_, rfl⟩
      · rintro rfl
        simp at hlength
      · intro w hw
        have hlabel := hlabels w (List.mem_append_left _ hw)
        obtain ⟨a, t, rfl⟩ := List.exists_cons_of_ne_nil hlabel.nonempty
        have ha := hlabel.letters a List.mem_cons_self
        have hne := hlabel.first
        exact (isLabel_iff fun _ h => h).mpr
          ⟨hlabel, a, rfl, alnum_iff.mpr ⟨ha, by simpa using hne⟩⟩

theorem intercalate_ne_nil {labels : List Text} (hlength : 2 ≤ labels.length) :
    ['.'].intercalate labels ≠ [] := by
  rcases List.eq_nil_or_concat labels with rfl | ⟨ws, last, rfl⟩
  · exact absurd hlength (by simp)
  · rw [List.concat_eq_append] at hlength ⊢
    rw [Pattern.intercalate_concat]
    cases ws with
    | nil => simp at hlength
    | cons w ws => simp

theorem hostFullmatch_iff {t : Text} : hostFullmatch t ↔ IsDnsName t := by
  unfold hostFullmatch
  rw [hostPattern_iff]
  constructor
  · rintro ⟨⟨front, back, hsplit, -, hlength, -, hback⟩, labels, htwo, hlabels, hlast, ht⟩
    refine ⟨?_, labels, htwo, hlabels, hlast, ht⟩
    rcases hback with rfl | rfl
    · rw [hsplit, List.append_nil]
      exact hlength
    · -- no label holds the newline in front of which the lookahead could stop
      have hmem : '\n' ∈ ['.'].intercalate labels := by
        rw [← ht, hsplit]
        simp
      rcases Pattern.mem_of_mem_intercalate hmem with h | ⟨l, hl, h⟩
      · exact absurd h (by decide)
      · exact absurd ((hlabels l hl).letters _ h) (by decide)
  · rintro ⟨hshort, labels, htwo, hlabels, hlast, rfl⟩
    refine ⟨⟨_, [], (List.append_nil _).symm, ?_, hshort, ?_, Or.inl rfl⟩, labels, htwo, hlabels, hlast,
      rfl⟩
    · exact List.length_pos_of_ne_nil (intercalate_ne_nil htwo)
    · intro hmem
      rcases Pattern.mem_of_mem_intercalate hmem with h | ⟨l, hl, h⟩
      · exact absurd h (by decide)
      · exact absurd ((hlabels l hl).letters _ h) (by decide)

/-! The pattern is decided on the parts between the dots. -/

theorem mem_lowerLetters {c : Char} : c ∈ lowerLetters ↔ 'a' ≤ c ∧ c ≤ 'z' := by
  constructor
  · have hall : ∀ c ∈ lowerLetters, 'a' ≤ c ∧ c ≤ 'z' := forall_mem_of_all (by decide +kernel)
    exact hall c
  · rintro ⟨ha, hz⟩
    have hlow : 97 ≤ c.toNat := ha
    have hhigh : c.toNat ≤ 122 := hz
    have hall : ∀ n < 26, Char.ofNat (97 + n) ∈ lowerLetters := by decide
    have hmem := hall (c.toNat - 97) (by omega)
    rwa [Nat.add_sub_cancel' hlow, Char.ofNat_toNat] at hmem

theorem mem_digits {c : Char} : c ∈ digits ↔ '0' ≤ c ∧ c ≤ '9' := by
  constructor
  · have hall : ∀ c ∈ digits, '0' ≤ c ∧ c ≤ '9' := forall_mem_of_all (by decide +kernel)
    exact hall c
  · rintro ⟨h0, h9⟩
    have hlow : 48 ≤ c.toNat := h0
    have hhigh : c.toNat ≤ 57 := h9
    have hall : ∀ n < 10, Char.ofNat (48 + n) ∈ digits := by decide
    have hmem := hall (c.toNat - 48) (by omega)
    rwa [Nat.add_sub_cancel' hlow, Char.ofNat_toNat] at hmem

theorem mem_alnum {c : Char} : c ∈ alnum ↔ Mailbox.isLowerAlnum c = true := by
  unfold alnum Mailbox.isLowerAlnum
  rw [List.mem_append, mem_lowerLetters, mem_digits]
  simp only [Bool.or_eq_true, Bool.and_eq_true, decide_eq_true_eq]
  exact or_comm

theorem isHostLabel_iff {l : Text} : Mailbox.isHostLabel l = true ↔ IsLabel l := by
  have hletters : (∀ c ∈ l, (Mailbox.isLowerAlnum c || decide (c = '-')) = true) ↔
      ∀ c ∈ l, c ∈ alnumHyphen := by
    refine forall₂_congr fun c _ => ?_
    rw [Bool.or_eq_true, ← mem_alnum, decide_eq_true_eq, alnumHyphen, List.mem_cons, or_comm]
  have hend : ∀ c ∈ l, c ∈ alnumHyphen → (Mailbox.isLowerAlnum c = true ↔ c ≠ '-') := by
    intro c _ hc
    rw [← mem_alnum, alnum_iff]
    exact and_iff_right hc
  simp only [Mailbox.isHostLabel, Mailbox.isSlug, Bool.and_eq_true, decide_eq_true_eq,
    List.all_eq_true, hletters]
  constructor
  · rintro ⟨hshort, ⟨⟨⟨hpos, -⟩, hall⟩, hhead⟩, hlast⟩
    refine ⟨List.ne_nil_of_length_pos hpos, hshort, hall, fun h => ?_, fun h => ?_⟩
    · rw [h] at hhead
      exact absurd hhead (by decide)
    · rw [h] at hlast
      exact absurd hlast (by decide)
  · intro h
    have hpos := List.length_pos_of_ne_nil h.nonempty
    have hshort := h.short
    refine ⟨hshort, ⟨⟨⟨hpos, by omega⟩, h.letters⟩, ?_⟩, ?_⟩
    · rw [List.head?_eq_some_head h.nonempty, Option.any_some]
      refine (hend _ (List.head_mem _) (h.letters _ (List.head_mem _))).mpr fun he => h.first ?_
      rw [List.head?_eq_some_head h.nonempty, he]
    · rw [List.getLast?_eq_some_getLast h.nonempty, Option.any_some]
      refine (hend _ (List.getLast_mem _) (h.letters _ (List.getLast_mem _))).mpr fun he =>
        h.last ?_
      rw [List.getLast?_eq_some_getLast h.nonempty, he]

theorem isHostname_iff {t : Text} : Mailbox.isHostname t = true ↔ IsDnsName t := by
  have hbegins : ∀ labels : List Text,
      ((labels.getLast?.bind List.head?).any fun c => 'a' ≤ c && c ≤ 'z') = true ↔
        ∃ l ∈ labels.getLast?, ∃ c ∈ l.head?, c ∈ lowerLetters := by
    intro labels
    simp only [Option.any_eq_true, Option.bind_eq_some_iff, mem_lowerLetters, Option.mem_def,
      Bool.and_eq_true, decide_eq_true_eq]
    constructor
    · rintro ⟨c, ⟨l, hl, hc⟩, h⟩
      exact ⟨l, hl, c, hc, h⟩
    · rintro ⟨l, hl, c, hc, h⟩
      exact ⟨c, ⟨l, hl, hc⟩, h⟩
  simp only [Mailbox.isHostname, Bool.and_eq_true, decide_eq_true_eq, List.all_eq_true, hbegins,
    isHostLabel_iff]
  constructor
  · rintro ⟨⟨⟨⟨-, hshort⟩, htwo⟩, hlabels⟩, hlast⟩
    exact ⟨hshort, _, htwo, hlabels, hlast, (List.intercalate_splitOn '.').symm⟩
  · rintro ⟨hshort, labels, htwo, hlabels, hlast, rfl⟩
    have hdot : ∀ l ∈ labels, '.' ∉ l := fun l hl h =>
      absurd ((hlabels l hl).letters _ h) (by decide)
    have hne : labels ≠ [] := List.ne_nil_of_length_pos (by omega)
    rw [List.splitOn_intercalate '.' hdot hne]
    exact ⟨⟨⟨⟨List.length_pos_of_ne_nil (intercalate_ne_nil htwo), hshort⟩, htwo⟩, hlabels⟩, hlast⟩

instance : DecidablePred hostFullmatch := fun _ =>
  decidable_of_iff _ (isHostname_iff.trans hostFullmatch_iff.symm)

/-! ### Validation -/

/-- `validate_hostname`. -/
def validateHostname (value fieldName : Text) : Except Text Text := do
  ensure (Url.lower value = value ∧ '*' ∉ value ∧ hostFullmatch value)
    (fieldName ++ " must be a canonical lowercase DNS hostname".toList)
  return value

/-- The authority in canonical syntax: the default port is left out. -/
def canonicalNetloc (hostname : Text) : Option Nat → Text
  | some port => if port ≠ 443 then hostname ++ ':' :: Nat.toDigits 10 port else hostname
  | none => hostname

/-- `validate_https_origin`. A text that is not ASCII is refused whatever its lower case is. -/
def validateHttpsOrigin (lib : Url.Checks) (value : Text) : Except Text Text := do
  ensure (Url.lower value = value ∧ '*' ∉ value ∧ Url.isAscii value = true)
    "origin must be canonical lowercase ASCII without wildcards".toList
  let parsed ← Url.urlsplit lib value
  match parsed.hostname with
  | none => .error "origin must use https and include a hostname".toList
  | some hostname => do
    ensure (parsed.scheme = "https".toList) "origin must use https and include a hostname".toList
    ensure (parsed.userinfo = (none, none)) "origin must not contain userinfo".toList
    ensure (parsed.path = [] ∧ parsed.query = [] ∧ parsed.fragment = [])
      "origin must not contain a path, query, or fragment".toList
    let _ ← validateHostname hostname "origin hostname".toList
    match parsed.port with
    | .error _ => .error "origin port is invalid".toList
    | .ok port => do
      ensure (port ≠ some 0) "origin port must be positive".toList
      let canonical := Url.urlunsplit "https".toList (canonicalNetloc hostname port)
      ensure (value = canonical) "origin must use canonical syntax".toList
      return canonical

theorem validateHostname_eq_ok {value fieldName result : Text} :
    validateHostname value fieldName = .ok result ↔
      (Url.lower value = value ∧ '*' ∉ value ∧ hostFullmatch value) ∧ value = result := by
  rw [validateHostname, bind_eq_ok_iff]
  simp only [ensure_eq_ok, exists_const, pure_eq_ok_iff]

/-! ### The accepted texts -/

/-- A port that an origin has to name: a decimal without leading zeros, other than the default. -/
structure IsPort (t : Text) : Prop where
  decimal : ∀ c ∈ t, c ∈ digits
  canonical : t.head? ≠ some '0'
  positive : 1 ≤ Url.SplitResult.decimalValue t
  bounded : Url.SplitResult.decimalValue t ≤ 65535
  other : Url.SplitResult.decimalValue t ≠ 443

/-- An HTTPS origin in canonical syntax. -/
def IsOrigin (value : Text) : Prop :=
  ∃ host, IsDnsName host ∧ (value = "https://".toList ++ host ∨
    ∃ port, IsPort port ∧ value = "https://".toList ++ host ++ ':' :: port)

theorem digitChar_of_mem {c : Char} (h : c ∈ digits) :
    c.toNat - 48 < 10 ∧ (c.toNat - 48).digitChar = c := by
  have hall : ∀ c ∈ digits, c.toNat - 48 < 10 ∧ (c.toNat - 48).digitChar = c :=
    forall_mem_of_all (by decide +kernel)
  exact hall c h

/-- A decimal without leading zeros is the rendering of its value. -/
theorem toDigits_decimalValue {t : Text} (hne : t ≠ []) (hdigits : ∀ c ∈ t, c ∈ digits)
    (hzero : t.head? ≠ some '0') : Nat.toDigits 10 (Url.SplitResult.decimalValue t) = t := by
  induction t using List.reverseRecOn with
  | nil => exact absurd rfl hne
  | append_singleton u c ih =>
    obtain ⟨hlt, hchar⟩ := digitChar_of_mem (hdigits c (by simp))
    have hvalue : Url.SplitResult.decimalValue (u ++ [c]) =
        10 * Url.SplitResult.decimalValue u + (c.toNat - 48) := by
      simp [Url.SplitResult.decimalValue, Nat.ofDigitChars_eq_foldl]
    have hlast : Nat.toDigits 10 (c.toNat - 48) = [c] := by
      rw [Nat.toDigits_of_lt_base hlt, hchar]
    rw [hvalue]
    cases u with
    | nil =>
      rw [List.nil_append, ← hlast]
      congr 1
      simp [Url.SplitResult.decimalValue]
    | cons a u =>
      have hu := ih (List.cons_ne_nil _ _) (fun b hb => hdigits b (List.mem_append_left _ hb))
        (by simpa using hzero)
      have hpos : 0 < Url.SplitResult.decimalValue (a :: u) := by
        refine Nat.pos_of_ne_zero fun h0 => ?_
        rw [h0, Nat.toDigits_zero] at hu
        obtain rfl : '0' = a := (List.cons.inj hu).1
        exact hzero rfl
      rw [← Nat.toDigits_append_toDigits (by decide) hpos hlt, hu, hlast]

theorem IsPort.toDigits {t : Text} (h : IsPort t) :
    Nat.toDigits 10 (Url.SplitResult.decimalValue t) = t := by
  refine toDigits_decimalValue ?_ h.decimal h.canonical
  rintro rfl
  exact absurd h.positive (by decide)

theorem head_toDigits {p : Nat} (hpos : 1 ≤ p) : (Nat.toDigits 10 p).head? ≠ some '0' := by
  induction p using Nat.strongRecOn with
  | ind p ih =>
    by_cases hlt : p < 10
    · have hall : ∀ p < 10, 1 ≤ p → p.digitChar ≠ '0' := by decide
      rw [Nat.toDigits_of_lt_base hlt, List.head?_cons]
      exact fun h => hall p hlt hpos (Option.some.inj h)
    · rw [Nat.toDigits_of_base_le (by decide) (by omega),
        List.head?_append_of_ne_nil _ Nat.toDigits_ne_nil]
      exact ih (p / 10) (by omega) (by omega)

theorem isPort_toDigits {p : Nat} (hpos : 1 ≤ p) (hle : p ≤ 65535) (hne : p ≠ 443) :
    IsPort (Nat.toDigits 10 p) := by
  have hvalue : Url.SplitResult.decimalValue (Nat.toDigits 10 p) = p := Nat.ofDigitChars_ten_toDigits
  refine ⟨fun c hc => ?_, ?_, hvalue.symm ▸ hpos, hvalue.symm ▸ hle, hvalue.symm ▸ hne⟩
  · have hdigit := Nat.isDigit_of_mem_toDigits (by decide) (by decide) hc
    rw [Char.isDigit, Bool.and_eq_true, decide_eq_true_eq, decide_eq_true_eq] at hdigit
    exact mem_digits.mpr hdigit
  · exact head_toDigits hpos

theorem IsDnsName.isHostChar {host : Text} (h : IsDnsName host) :
    ∀ c ∈ host, Url.isHostChar c = true := by
  have hall : ∀ c ∈ '.' :: alnumHyphen, Url.isHostChar c = true :=
    forall_mem_of_all (by decide +kernel)
  exact fun c hc => hall c (List.mem_cons.mpr (h.mem hc))

/-- The characters of an authority that an origin can have. -/
theorem authority_mem {host port : Text} (hhost : IsDnsName host) (hport : ∀ c ∈ port, c ∈ digits)
    {c : Char} (hc : c ∈ host ∨ c = ':' ∨ c ∈ port) :
    Url.isQuiet c = true ∧ c.toLower = c ∧ c ≠ '*' ∧ c ≠ '@' ∧ c.toNat < 128 := by
  have hall : ∀ c ∈ ':' :: '.' :: alnumHyphen ++ digits,
      Url.isQuiet c = true ∧ c.toLower = c ∧ c ≠ '*' ∧ c ≠ '@' ∧ c.toNat < 128 :=
    forall_mem_of_all (by decide +kernel)
  refine hall c ?_
  rcases hc with hc | rfl | hc
  · rcases hhost.mem hc with rfl | hc
    · simp
    · simp [hc]
  · simp
  · simp [hport c hc]

theorem urlunsplit_https (netloc : Text) :
    Url.urlunsplit "https".toList netloc = "https://".toList ++ netloc := rfl

/-- A canonical origin is accepted, given what its authority reads as. -/
theorem validateHttpsOrigin_canonical (lib : Url.Checks) {host netloc : Text} {port : Option Nat}
    (hhost : IsDnsName host)
    (hnetloc : ∀ c ∈ netloc,
      Url.isQuiet c = true ∧ c.toLower = c ∧ c ≠ '*' ∧ c ≠ '@' ∧ c.toNat < 128)
    (hinfo : ∀ r : Url.SplitResult, r.netloc = netloc → r.hostinfo.1 = host)
    (hport : ∀ r : Url.SplitResult, r.netloc = netloc → r.port = .ok port) (hzero : port ≠ some 0)
    (hcanonical : netloc = canonicalNetloc host port) :
    validateHttpsOrigin lib ("https://".toList ++ netloc) = .ok ("https://".toList ++ netloc) := by
  have hsplit := @Url.urlsplit_urlunsplit lib "https".toList netloc (by decide) (by decide)
    (by decide) fun c hc => (hnetloc c hc).1
  rw [urlunsplit_https] at hsplit
  have hvalue : ∀ c ∈ "https://".toList ++ netloc, c.toLower = c ∧ c ≠ '*' ∧ c.toNat < 128 := by
    have hfront : ∀ c ∈ "https://".toList, c.toLower = c ∧ c ≠ '*' ∧ c.toNat < 128 :=
      forall_mem_of_all (by decide +kernel)
    intro c hc
    rcases List.mem_append.mp hc with hc | hc
    · exact hfront c hc
    · obtain ⟨-, hlower, hstar, -, hascii⟩ := hnetloc c hc
      exact ⟨hlower, hstar, hascii⟩
  have hlower : Url.lower ("https://".toList ++ netloc) = "https://".toList ++ netloc :=
    (List.map_congr_left fun c hc => (hvalue c hc).1).trans (List.map_id _)
  have hstar : '*' ∉ "https://".toList ++ netloc := fun h => (hvalue _ h).2.1 rfl
  have hascii : Url.isAscii ("https://".toList ++ netloc) = true :=
    List.all_eq_true.mpr fun c hc => decide_eq_true (hvalue c hc).2.2
  have hchars := hhost.isHostChar
  have hne : host ≠ [] := by
    obtain ⟨labels, htwo, -, -, rfl⟩ := hhost.labels
    exact intercalate_ne_nil htwo
  have hname : validateHostname host "origin hostname".toList = .ok host := by
    have hhostLower : Url.lower host = host := by
      refine (List.map_congr_left fun c hc => ?_).trans (List.map_id _)
      exact (@authority_mem host [] hhost nofun _ (Or.inl hc)).2.1
    have hhostStar : '*' ∉ host := fun h =>
      (@authority_mem host [] hhost nofun _ (Or.inl h)).2.2.1 rfl
    rw [validateHostname, ensure_bind ⟨hhostLower, hhostStar, hostFullmatch_iff.mpr hhost⟩]
    rfl
  set parsed : Url.SplitResult := ⟨"https".toList, netloc, [], [], []⟩ with hparsed
  have huser : parsed.userinfo = (none, none) :=
    Url.SplitResult.userinfo_eq_none fun h => (hnetloc _ h).2.2.2.1 rfl
  unfold validateHttpsOrigin
  rw [ensure_bind ⟨hlower, hstar, hascii⟩, hsplit, ok_bind,
    Url.SplitResult.hostname_eq (hinfo parsed rfl) hne hchars]
  dsimp only
  rw [ensure_bind rfl, ensure_bind huser, ensure_bind ⟨rfl, rfl, rfl⟩, hname, ok_bind,
    hport parsed rfl]
  dsimp only
  rw [ensure_bind hzero, ← hcanonical, urlunsplit_https, ensure_bind rfl]
  rfl

/-- An origin is accepted, unchanged, if and only if it is `https://`, a host name and at most a port
other than the default one, whatever the checks of `urllib` outside plain authorities say. -/
theorem validateHttpsOrigin_iff (lib : Url.Checks) (value result : Text) :
    validateHttpsOrigin lib value = .ok result ↔ IsOrigin value ∧ result = value := by
  constructor
  · intro h
    unfold validateHttpsOrigin at h
    simp only [bind_eq_ok_iff, ensure_eq_ok, exists_const] at h
    obtain ⟨-, parsed, -, h⟩ := h
    split at h
    · cases h
    · next hostname _ =>
      simp only [bind_eq_ok_iff, ensure_eq_ok, exists_const] at h
      obtain ⟨-, -, -, _, hname, h⟩ := h
      obtain ⟨⟨-, -, hmatch⟩, -⟩ := validateHostname_eq_ok.mp hname
      have hhost := hostFullmatch_iff.mp hmatch
      split at h
      · cases h
      · next port hport =>
        simp only [bind_eq_ok_iff, ensure_eq_ok, exists_const, pure_eq_ok_iff] at h
        obtain ⟨hzero, hvalue, rfl⟩ := h
        refine ⟨⟨hostname, hhost, ?_⟩, hvalue.symm⟩
        rw [urlunsplit_https] at hvalue
        cases port with
        | none => exact Or.inl hvalue
        | some p =>
          by_cases hp : p = 443
          · exact Or.inl (hvalue.trans (by rw [canonicalNetloc, if_neg (not_not.mpr hp)]))
          · have hle : p ≤ 65535 := Url.SplitResult.port_le hport
            have hpos : 1 ≤ p := Nat.pos_of_ne_zero fun h => hzero (congrArg some h)
            refine Or.inr ⟨_, isPort_toDigits hpos hle hp, hvalue.trans ?_⟩
            rw [canonicalNetloc, if_pos hp, List.append_assoc]
  · rintro ⟨⟨host, hhost, hvalue⟩, rfl⟩
    have hchars := hhost.isHostChar
    rcases hvalue with rfl | ⟨port, hport, rfl⟩
    · refine @validateHttpsOrigin_canonical lib host host none hhost
        (fun c hc => @authority_mem host [] hhost (fun _ h => by cases h) _ (Or.inl hc)) ?_ ?_ (fun h => by cases h) rfl
      · exact fun r hr => congrArg Prod.fst (Url.SplitResult.hostinfo_host hr hchars)
      · intro r hr
        rw [Url.SplitResult.port, Url.SplitResult.hostinfo_host hr hchars]
    · have hne : port ≠ [] := by
        rintro rfl
        exact absurd hport.positive (by decide)
      have hdigit : ∀ c ∈ digits, c.isDigit = true := forall_mem_of_all (by decide +kernel)
      have hdecimal : Url.SplitResult.isDecimal port = true :=
        List.all_eq_true.mpr fun c hc => hdigit c (hport.decimal c hc)
      have hinfo : ∀ r : Url.SplitResult, r.netloc = host ++ ':' :: port →
          r.hostinfo = (host, some port) := fun r hr =>
        Url.SplitResult.hostinfo_port hr hchars hdecimal hne
      rw [List.append_assoc]
      refine @validateHttpsOrigin_canonical lib host (host ++ ':' :: port)
        (some (Url.SplitResult.decimalValue port)) hhost (fun c hc => ?_) ?_ ?_ ?_ ?_
      · exact authority_mem hhost hport.decimal (by simpa using hc)
      · exact fun r hr => congrArg Prod.fst (hinfo r hr)
      · exact fun r hr => Url.SplitResult.port_decimal (congrArg Prod.snd (hinfo r hr)) hdecimal
          hport.bounded hport.toDigits
      · exact fun h => absurd (Option.some.inj h) (Nat.pos_iff_ne_zero.mp hport.positive)
      · rw [canonicalNetloc, if_pos hport.other, hport.toDigits]

end MyCogni.Connector
