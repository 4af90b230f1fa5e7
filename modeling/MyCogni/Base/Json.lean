import MyCogni.Base.Bytes

/-! JSON values without floating-point numbers, their compact texts with sorted keys and ASCII
escapes, and the reader of such texts. -/

namespace MyCogni

inductive Json where
  | null
  | bool (b : Bool)
  | int (i : Int)
  | str (t : Text)
  | arr (items : List Json)
  | obj (fields : List (Text × Json))

/-! ### Strings -/

def hexQuad (n : Nat) : Text :=
  [hexDigit (n / 4096), hexDigit (n / 256 % 16), hexDigit (n / 16 % 16), hexDigit (n % 16)]

/-- The characters of a JSON text that stand for themselves. -/
def isPlainChar (c : Char) : Bool := ' ' ≤ c && c ≤ '~' && c ≠ '"' && c ≠ '\\'

def escapeChar (c : Char) : Text :=
  if isPlainChar c then [c]
  else if c = '"' then ['\\', '"']
  else if c = '\\' then ['\\', '\\']
  else if c = '\n' then ['\\', 'n']
  else if c = '\r' then ['\\', 'r']
  else if c = '\t' then ['\\', 't']
  else if c = '\x0c' then ['\\', 'f']
  else if c = '\x08' then ['\\', 'b']
  else if c.toNat < 0x10000 then '\\' :: 'u' :: hexQuad c.toNat
  else
    let n := c.toNat - 0x10000
    '\\' :: 'u' :: hexQuad (0xd800 + n / 0x400) ++ '\\' :: 'u' :: hexQuad (0xdc00 + n % 0x400)

def escape (t : Text) : Text := t.flatMap escapeChar

def quote (t : Text) : Text := '"' :: escape t ++ ['"']

def readQuad : Text → Option (Nat × Text)
  | a :: b :: c :: d :: t => do
    let w ← hexValue a
    let x ← hexValue b
    let y ← hexValue c
    let z ← hexValue d
    some (4096 * w + 256 * x + 16 * y + z, t)
  | _ => none

/-- The rest of a `\u` escape. A surrogate without its pair has no code point and is refused. -/
def readUnicode (t : Text) : Option (Char × Text) := do
  let (u, t) ← readQuad t
  if 0xd800 ≤ u ∧ u < 0xdc00 then
    match t with
    | '\\' :: 'u' :: t =>
      let (v, t) ← readQuad t
      if 0xdc00 ≤ v ∧ v < 0xe000 then
        some (Char.ofNat (0x10000 + (u - 0xd800) * 0x400 + (v - 0xdc00)), t)
      else none
    | _ => none
  else if 0xdc00 ≤ u ∧ u < 0xe000 then none
  else some (Char.ofNat u, t)

def readEscape : Text → Option (Char × Text)
  | 'u' :: t => readUnicode t
  | '"' :: t => some ('"', t)
  | '\\' :: t => some ('\\', t)
  | '/' :: t => some ('/', t)
  | 'n' :: t => some ('\n', t)
  | 'r' :: t => some ('\r', t)
  | 't' :: t => some ('\t', t)
  | 'f' :: t => some ('\x0c', t)
  | 'b' :: t => some ('\x08', t)
  | _ => none

def readUnit : Text → Option (Char × Text)
  | [] => none
  | c :: t => if c = '\\' then readEscape t else if c.toNat < 32 then none else some (c, t)

/-- The rest of a string, after its opening quote. -/
def readBody : Nat → Text → Option (Text × Text)
  | 0, _ => none
  | _ + 1, '"' :: t => some ([], t)
  | n + 1, t => do
    let (c, t) ← readUnit t
    let (cs, t) ← readBody n t
    some (c :: cs, t)

def readString (t : Text) : Option (Text × Text) := readBody (t.length + 1) t

theorem readQuad_hexQuad {n : Nat} (h : n < 0x10000) (t : Text) :
    readQuad (hexQuad n ++ t) = some (n, t) := by
  have h₁ : hexValue (hexDigit (n / 4096)) = some (n / 4096) := hexValue_hexDigit (by omega)
  have h₂ : hexValue (hexDigit (n / 256 % 16)) = some (n / 256 % 16) := hexValue_hexDigit (by omega)
  have h₃ : hexValue (hexDigit (n / 16 % 16)) = some (n / 16 % 16) := hexValue_hexDigit (by omega)
  have h₄ : hexValue (hexDigit (n % 16)) = some (n % 16) := hexValue_hexDigit (by omega)
  have hsum : 4096 * (n / 4096) + 256 * (n / 256 % 16) + 16 * (n / 16 % 16) + n % 16 = n := by omega
  simp only [hexQuad, List.cons_append, List.nil_append, readQuad, h₁, h₂, h₃, h₄,
    Option.bind_eq_bind, Option.bind_some, hsum]

theorem toNat_valid (c : Char) : c.toNat < 0xd800 ∨ 0xdfff < c.toNat ∧ c.toNat < 0x110000 := by
  have h := c.valid
  simp only [UInt32.isValidChar, Nat.isValidChar] at h
  exact h

theorem readUnicode_basic {c : Char} (h : c.toNat < 0x10000) (t : Text) :
    readUnicode (hexQuad c.toNat ++ t) = some (c, t) := by
  have hvalid := toNat_valid c
  rw [readUnicode, readQuad_hexQuad h]
  simp only [Option.bind_eq_bind, Option.bind_some]
  rw [if_neg (by omega), if_neg (by omega), Char.ofNat_toNat]

theorem readUnicode_surrogates {u v : Nat} (hu : 0xd800 ≤ u ∧ u < 0xdc00)
    (hv : 0xdc00 ≤ v ∧ v < 0xe000) (t : Text) :
    readUnicode (hexQuad u ++ '\\' :: 'u' :: hexQuad v ++ t) =
      some (Char.ofNat (0x10000 + (u - 0xd800) * 0x400 + (v - 0xdc00)), t) := by
  rw [List.append_assoc, readUnicode, readQuad_hexQuad (by omega)]
  simp only [Option.bind_eq_bind, Option.bind_some, List.cons_append]
  rw [if_pos hu, readQuad_hexQuad (by omega)]
  simp only [Option.bind_some]
  rw [if_pos hv]

theorem readUnicode_pair {c : Char} (h : ¬c.toNat < 0x10000) (t : Text) :
    readUnicode (hexQuad (0xd800 + (c.toNat - 0x10000) / 0x400) ++
      '\\' :: 'u' :: hexQuad (0xdc00 + (c.toNat - 0x10000) % 0x400) ++ t) = some (c, t) := by
  have hvalid := toNat_valid c
  have hsum : 0x10000 + (0xd800 + (c.toNat - 0x10000) / 0x400 - 0xd800) * 0x400 +
      (0xdc00 + (c.toNat - 0x10000) % 0x400 - 0xdc00) = c.toNat := by omega
  rw [readUnicode_surrogates (by omega) (by omega), hsum, Char.ofNat_toNat]

theorem readUnit_escapeChar (c : Char) (t : Text) :
    readUnit (escapeChar c ++ t) = some (c, t) := by
  unfold escapeChar
  split_ifs with h₀ h₁ h₂ h₃ h₄ h₅ h₆ h₇ h₈
  · simp only [isPlainChar, Bool.and_eq_true, decide_eq_true_eq] at h₀
    have hlow : ¬c.toNat < 32 := not_lt.mpr h₀.1.1.1
    simp only [List.cons_append, List.nil_append, readUnit, if_neg h₀.2, if_neg hlow]
  · rw [h₁]; rfl
  · rw [h₂]; rfl
  · rw [h₃]; rfl
  · rw [h₄]; rfl
  · rw [h₅]; rfl
  · rw [h₆]; rfl
  · rw [h₇]; rfl
  · exact readUnicode_basic h₈ t
  · exact readUnicode_pair h₈ t

theorem escapeChar_head (c : Char) : ∃ a u, escapeChar c = a :: u ∧ a ≠ '"' := by
  unfold escapeChar
  split_ifs with h₀
  · simp only [isPlainChar, Bool.and_eq_true, decide_eq_true_eq] at h₀
    exact ⟨c, [], rfl, h₀.1.2⟩
  all_goals exact ⟨'\\', _, rfl, by decide⟩

theorem readBody_escape {n : Nat} (s t : Text) (h : s.length < n) :
    readBody n (escape s ++ '"' :: t) = some (s, t) := by
  induction s generalizing n with
  | nil =>
    obtain ⟨n, rfl⟩ : ∃ m, n = m + 1 := ⟨n - 1, by simp at h; omega⟩
    rfl
  | cons c s ih =>
    obtain ⟨n, rfl⟩ : ∃ m, n = m + 1 := ⟨n - 1, by omega⟩
    have hs : s.length < n := by simpa using h
    have hunit : readUnit (escapeChar c ++ (escape s ++ '"' :: t)) =
        some (c, escape s ++ '"' :: t) := readUnit_escapeChar c _
    obtain ⟨a, u, ha, hquote⟩ := escapeChar_head c
    have hbody : escape (c :: s) ++ '"' :: t = a :: (u ++ (escape s ++ '"' :: t)) := by
      rw [escape, List.flatMap_cons, ha, ← escape, List.append_assoc, List.cons_append]
    rw [hbody, readBody]
    · rw [ha, List.cons_append] at hunit
      rw [hunit]
      simp only [Option.bind_eq_bind, Option.bind_some, ih hs]
    · intro t' ht'
      exact hquote (List.cons.inj ht').1

theorem length_escape_le (t : Text) : t.length ≤ (escape t).length := by
  induction t with
  | nil => exact Nat.zero_le _
  | cons c t ih =>
    obtain ⟨a, u, ha, -⟩ := escapeChar_head c
    rw [escape, List.flatMap_cons, ← escape, List.length_append, ha, List.length_cons,
      List.length_cons]
    omega

theorem readString_quote (s t : Text) : readString (escape s ++ '"' :: t) = some (s, t) := by
  refine readBody_escape s t ?_
  have h := length_escape_le s
  rw [List.length_append]
  omega

/-! ### Integers -/

def readNat (t : Text) : Option (Nat × Text) :=
  let digits := t.takeWhile Char.isDigit
  if digits = [] ∨ maxStrDigits < digits.length then none
  else some (Nat.ofDigitChars 10 digits 0, t.dropWhile Char.isDigit)

/-- Spellings with leading zeros are read too; they differ from the canonical text. -/
def readInt : Text → Option (Int × Text)
  | '-' :: t => (readNat t).map fun p => (-(p.1 : Int), p.2)
  | t => (readNat t).map fun p => ((p.1 : Int), p.2)

/-- A text that does not continue a number. -/
def NoDigit (t : Text) : Prop := ∀ c ∈ t.head?, c.isDigit = false

theorem readNat_toDigits {n : Nat} {t : Text} (ht : NoDigit t)
    (hn : (Nat.toDigits 10 n).length ≤ maxStrDigits) :
    readNat (Nat.toDigits 10 n ++ t) = some (n, t) := by
  have hdigits : ∀ c ∈ Nat.toDigits 10 n, c.isDigit = true := fun c hc =>
    Nat.isDigit_of_mem_toDigits (by decide) (by decide) hc
  have hnone : t.takeWhile Char.isDigit = [] ∧ t.dropWhile Char.isDigit = t := by
    cases t with
    | nil => exact ⟨rfl, rfl⟩
    | cons c t =>
      have hc : c.isDigit = false := ht c rfl
      simp [hc]
  have htake : (Nat.toDigits 10 n ++ t).takeWhile Char.isDigit = Nat.toDigits 10 n := by
    rw [List.takeWhile_append_of_pos hdigits, hnone.1, List.append_nil]
  have hdrop : (Nat.toDigits 10 n ++ t).dropWhile Char.isDigit = t := by
    rw [List.dropWhile_append_of_pos hdigits, hnone.2]
  rw [readNat, htake, hdrop, if_neg, Nat.ofDigitChars_ten_toDigits]
  rintro (h | h)
  · exact Nat.toDigits_ne_nil h
  · omega

theorem readInt_intText {i : Int} {t : Text} (ht : NoDigit t) (hi : strDigitsOk i = true) :
    readInt (intText i ++ t) = some (i, t) := by
  have hread := readNat_toDigits (n := i.natAbs) ht (by simpa [strDigitsOk] using hi)
  unfold intText
  split_ifs with hneg
  · simp only [List.cons_append, List.nil_append, readInt, hread, Option.map_some]
    congr 2
    omega
  · rw [List.nil_append]
    obtain ⟨c, ds, hds⟩ := List.exists_cons_of_ne_nil (Nat.toDigits_ne_nil (b := 10) (n := i.natAbs))
    have hc : c ≠ '-' := by
      rintro rfl
      have hdigit := Nat.isDigit_of_mem_toDigits (b := 10) (n := i.natAbs) (c := '-') (by decide)
        (by decide) (by rw [hds]; exact List.mem_cons_self)
      exact absurd hdigit (by decide)
    rw [hds, List.cons_append] at hread ⊢
    rw [readInt, hread, Option.map_some]
    · congr 2
      omega
    · intro t' ht'
      exact hc (List.cons.inj ht').1

/-! ### Values -/

mutual
/-- The compact text of a value, with the fields of an object in the given order. -/
def Json.text : Json → Text
  | .null => "null".toList
  | .bool b => if b then "true".toList else "false".toList
  | .int i => intText i
  | .str t => quote t
  | .arr items => '[' :: itemsText items
  | .obj fields => '\x7b' :: fieldsText fields

def itemsText : List Json → Text
  | [] => [']']
  | j :: js => j.text ++ itemsTail js

def itemsTail : List Json → Text
  | [] => [']']
  | j :: js => ',' :: j.text ++ itemsTail js

def fieldsText : List (Text × Json) → Text
  | [] => ['\x7d']
  | (k, j) :: fs => quote k ++ ':' :: j.text ++ fieldsTail fs

def fieldsTail : List (Text × Json) → Text
  | [] => ['\x7d']
  | (k, j) :: fs => ',' :: quote k ++ ':' :: j.text ++ fieldsTail fs
end

mutual
def readValue : Nat → Text → Option (Json × Text)
  | 0, _ => none
  | _ + 1, [] => none
  | n + 1, c :: t =>
    if c = 'n' then if t.take 3 = "ull".toList then some (.null, t.drop 3) else none
    else if c = 't' then if t.take 3 = "rue".toList then some (.bool true, t.drop 3) else none
    else if c = 'f' then if t.take 4 = "alse".toList then some (.bool false, t.drop 4) else none
    else if c = '"' then (readString t).map fun p => (.str p.1, p.2)
    else if c = '[' then (readItems n t).map fun p => (.arr p.1, p.2)
    else if c = '\x7b' then (readFields n t).map fun p => (.obj p.1, p.2)
    else (readInt (c :: t)).map fun p => (.int p.1, p.2)

def readItems : Nat → Text → Option (List Json × Text)
  | 0, _ => none
  | n + 1, t =>
    if t.head? = some ']' then some ([], t.tail)
    else do
      let (j, t) ← readValue n t
      let (js, t) ← readItemsTail n t
      some (j :: js, t)

def readItemsTail : Nat → Text → Option (List Json × Text)
  | 0, _ => none
  | _ + 1, [] => none
  | n + 1, c :: t =>
    if c = ']' then some ([], t)
    else if c = ',' then do
      let (j, t) ← readValue n t
      let (js, t) ← readItemsTail n t
      some (j :: js, t)
    else none

def readFields : Nat → Text → Option (List (Text × Json) × Text)
  | 0, _ => none
  | n + 1, t =>
    if t.head? = some '\x7d' then some ([], t.tail)
    else do
      let (f, t) ← readField n t
      let (fs, t) ← readFieldsTail n t
      some (f :: fs, t)

def readFieldsTail : Nat → Text → Option (List (Text × Json) × Text)
  | 0, _ => none
  | _ + 1, [] => none
  | n + 1, c :: t =>
    if c = '\x7d' then some ([], t)
    else if c = ',' then do
      let (f, t) ← readField n t
      let (fs, t) ← readFieldsTail n t
      some (f :: fs, t)
    else none

def readField : Nat → Text → Option ((Text × Json) × Text)
  | 0, _ => none
  | n + 1, t =>
    if t.head? = some '"' then do
      let (k, t) ← readString t.tail
      if t.head? = some ':' then do
        let (j, t) ← readValue n t.tail
        some ((k, j), t)
      else none
    else none
end

@[elab_as_elim] theorem Json.induction {p : Json → Prop} (null : p .null)
    (bool : ∀ b, p (.bool b)) (int : ∀ i, p (.int i))
    (str : ∀ t, p (.str t)) (arr : ∀ items, (∀ j ∈ items, p j) → p (.arr items))
    (obj : ∀ fields : List (Text × Json), (∀ f ∈ fields, p f.2) → p (.obj fields)) (j : Json) :
    p j := by
  match j with
  | .null => exact null
  | .bool b => exact bool b
  | .int i => exact int i
  | .str t => exact str t
  | .arr items => exact arr items fun j hj => Json.induction null bool int str arr obj j
  | .obj fields => exact obj fields fun f hf => Json.induction null bool int str arr obj f.2
termination_by sizeOf j
decreasing_by
  · have h := List.sizeOf_lt_of_mem hj
    simp only [Json.arr.sizeOf_spec]
    omega
  · have h := List.sizeOf_lt_of_mem hf
    have hpair : sizeOf f.2 < sizeOf f := by
      cases f
      simp only [Prod.mk.sizeOf_spec]
      omega
    simp only [Json.obj.sizeOf_spec]
    omega

mutual
/-- No integer is too long to be rendered. -/
def Json.digitsOk : Json → Bool
  | .int i => strDigitsOk i
  | .arr items => itemsDigitsOk items
  | .obj fields => fieldsDigitsOk fields
  | .null | .bool _ | .str _ => true

def itemsDigitsOk : List Json → Bool
  | [] => true
  | j :: js => j.digitsOk && itemsDigitsOk js

def fieldsDigitsOk : List (Text × Json) → Bool
  | [] => true
  | (_, j) :: fs => j.digitsOk && fieldsDigitsOk fs
end

theorem noDigit_cons {c : Char} (h : c.isDigit = false) (t : Text) : NoDigit (c :: t) := by
  intro c' hc'
  obtain rfl := Option.some.inj hc'
  exact h

theorem itemsTail_cons (js : List Json) : ∃ c t, itemsTail js = c :: t ∧ c.isDigit = false := by
  cases js with
  | nil => exact ⟨']', [], by rw [itemsTail], by decide⟩
  | cons j js => exact ⟨',', j.text ++ itemsTail js, by rw [itemsTail]; rfl, by decide⟩

theorem fieldsTail_cons (fs : List (Text × Json)) :
    ∃ c t, fieldsTail fs = c :: t ∧ c.isDigit = false := by
  cases fs with
  | nil => exact ⟨'\x7d', [], by rw [fieldsTail], by decide⟩
  | cons f fs => exact ⟨',', _, by rw [fieldsTail]; rfl, by decide⟩

theorem toDigits_head (n : Nat) : ∃ c t, Nat.toDigits 10 n = c :: t ∧ c.isDigit = true := by
  obtain ⟨c, t, ht⟩ := List.exists_cons_of_ne_nil (Nat.toDigits_ne_nil (b := 10) (n := n))
  refine ⟨c, t, ht, Nat.isDigit_of_mem_toDigits (b := 10) (n := n) (by decide) (by decide) ?_⟩
  rw [ht]
  exact List.mem_cons_self

theorem intText_head (i : Int) : ∃ c t, intText i = c :: t ∧ (c = '-' ∨ c.isDigit = true) := by
  obtain ⟨c, t, ht, hc⟩ := toDigits_head i.natAbs
  unfold intText
  split_ifs
  · exact ⟨'-', _, rfl, Or.inl rfl⟩
  · exact ⟨c, t, ht, Or.inr hc⟩

theorem text_head (j : Json) : ∃ c t, j.text = c :: t ∧ c ≠ ']' ∧ c ≠ '\x7d' := by
  cases j with
  | null => exact ⟨'n', _, by rw [Json.text]; rfl, by decide, by decide⟩
  | bool b =>
    cases b
    · exact ⟨'f', _, by rw [Json.text]; rfl, by decide, by decide⟩
    · exact ⟨'t', _, by rw [Json.text]; rfl, by decide, by decide⟩
  | int i =>
    obtain ⟨c, t, ht, hc⟩ := intText_head i
    refine ⟨c, t, by rw [Json.text, ht], ?_, ?_⟩
    all_goals
      rintro rfl
      rcases hc with hc | hc <;> exact absurd hc (by decide)
  | str s => exact ⟨'"', _, by rw [Json.text, quote]; rfl, by decide, by decide⟩
  | arr items => exact ⟨'[', _, by rw [Json.text], by decide, by decide⟩
  | obj fields => exact ⟨'\x7b', _, by rw [Json.text], by decide, by decide⟩

theorem text_length_pos (j : Json) : 0 < j.text.length := by
  obtain ⟨c, t, ht, -⟩ := text_head j
  rw [ht]
  exact Nat.succ_pos _

theorem readValue_int {i : Int} (hi : strDigitsOk i = true) {t : Text} (ht : NoDigit t) (n : Nat) :
    readValue (n + 1) (intText i ++ t) = some (.int i, t) := by
  have hread := readInt_intText ht hi
  obtain ⟨c, u, hu, hc⟩ := intText_head i
  have hne : ∀ d : Char, d ≠ '-' → d.isDigit = false → c ≠ d := by
    rintro d hd hdigit rfl
    rcases hc with hc | hc
    · exact hd hc
    · exact absurd (hc.symm.trans hdigit) (by decide)
  rw [hu, List.cons_append] at hread ⊢
  rw [readValue, if_neg (hne _ (by decide) (by decide)), if_neg (hne _ (by decide) (by decide)),
    if_neg (hne _ (by decide) (by decide)), if_neg (hne _ (by decide) (by decide)),
    if_neg (hne _ (by decide) (by decide)), if_neg (hne _ (by decide) (by decide)), hread]
  rfl

theorem readField_of_value {k : Text} {j : Json} {n : Nat} {t : Text}
    (h : readValue n (j.text ++ t) = some (j, t)) :
    readField (n + 1) (quote k ++ ':' :: j.text ++ t) = some ((k, j), t) := by
  have hquote : quote k ++ ':' :: j.text ++ t = '"' :: (escape k ++ '"' :: ':' :: (j.text ++ t)) := by
    simp only [quote, List.cons_append, List.append_assoc, List.nil_append]
  rw [hquote, readField]
  simp only [if_pos, List.tail_cons, readString_quote, Option.bind_eq_bind, Option.bind_some,
    List.head?_cons, h]

/-! The reader undoes the text of every value. The fuel bounds what remains to be read. -/

mutual
theorem readValue_text {j : Json} (hj : j.digitsOk = true) {n : Nat} (hn : j.text.length ≤ n)
    {t : Text} (ht : NoDigit t) : readValue n (j.text ++ t) = some (j, t) := by
  have hpos := text_length_pos j
  obtain ⟨n, rfl⟩ : ∃ m, n = m + 1 := ⟨n - 1, by omega⟩
  cases j with
  | null => rfl
  | bool b => cases b <;> rfl
  | int i =>
    rw [Json.digitsOk] at hj
    rw [Json.text]
    exact readValue_int hj ht n
  | str s =>
    rw [Json.text, quote, List.append_assoc, List.cons_append, readValue, if_neg (by decide),
      if_neg (by decide), if_neg (by decide), if_pos rfl, List.cons_append, List.nil_append, readString_quote]
    rfl
  | arr items =>
    rw [Json.digitsOk] at hj
    rw [Json.text, List.length_cons] at hn
    rw [Json.text, List.cons_append, readValue, if_neg (by decide), if_neg (by decide),
      if_neg (by decide), if_neg (by decide), if_pos rfl, readItems_text items hj (by omega)]
    rfl
  | obj fields =>
    rw [Json.digitsOk] at hj
    rw [Json.text, List.length_cons] at hn
    rw [Json.text, List.cons_append, readValue, if_neg (by decide), if_neg (by decide),
      if_neg (by decide), if_neg (by decide), if_neg (by decide), if_pos rfl,
      readFields_text fields hj (by omega)]
    rfl
termination_by sizeOf j

theorem readItems_text (items : List Json) (hj : itemsDigitsOk items = true) {n : Nat}
    (hn : (itemsText items).length ≤ n) (t : Text) :
    readItems n (itemsText items ++ t) = some (items, t) := by
  cases items with
  | nil =>
    rw [itemsText] at hn ⊢
    obtain ⟨n, rfl⟩ : ∃ m, n = m + 1 := ⟨n - 1, by simp at hn; omega⟩
    rfl
  | cons j js =>
    rw [itemsDigitsOk, Bool.and_eq_true] at hj
    rw [itemsText, List.length_append] at hn
    have hpos := text_length_pos j
    obtain ⟨c, u, hu, hclose, -⟩ := text_head j
    obtain ⟨d, v, hv, hd⟩ := itemsTail_cons js
    have htail : 0 < (itemsTail js).length := by rw [hv]; exact Nat.succ_pos _
    obtain ⟨n, rfl⟩ : ∃ m, n = m + 1 := ⟨n - 1, by omega⟩
    have hhead : (j.text ++ (itemsTail js ++ t)).head? ≠ some ']' := by
      rw [hu]
      simpa using hclose
    have hvalue := readValue_text (j := j) hj.1 (n := n) (by omega)
      (t := itemsTail js ++ t) (by rw [hv]; exact noDigit_cons hd _)
    rw [itemsText, List.append_assoc, readItems, if_neg hhead, hvalue]
    simp only [Option.bind_eq_bind, Option.bind_some,
      readItemsTail_text js hj.2 (n := n) (by omega) t]
termination_by sizeOf items

theorem readItemsTail_text (items : List Json) (hj : itemsDigitsOk items = true) {n : Nat}
    (hn : (itemsTail items).length ≤ n) (t : Text) :
    readItemsTail n (itemsTail items ++ t) = some (items, t) := by
  cases items with
  | nil =>
    rw [itemsTail] at hn ⊢
    obtain ⟨n, rfl⟩ : ∃ m, n = m + 1 := ⟨n - 1, by simp at hn; omega⟩
    rfl
  | cons j js =>
    rw [itemsDigitsOk, Bool.and_eq_true] at hj
    rw [itemsTail, List.length_append, List.length_cons] at hn
    obtain ⟨d, v, hv, hd⟩ := itemsTail_cons js
    obtain ⟨n, rfl⟩ : ∃ m, n = m + 1 := ⟨n - 1, by omega⟩
    have hvalue := readValue_text (j := j) hj.1 (n := n) (by omega)
      (t := itemsTail js ++ t) (by rw [hv]; exact noDigit_cons hd _)
    rw [itemsTail, List.append_assoc, List.cons_append, readItemsTail, if_neg (by decide),
      if_pos rfl, hvalue]
    simp only [Option.bind_eq_bind, Option.bind_some,
      readItemsTail_text js hj.2 (n := n) (by omega) t]
termination_by sizeOf items

theorem readFields_text (fields : List (Text × Json)) (hj : fieldsDigitsOk fields = true) {n : Nat}
    (hn : (fieldsText fields).length ≤ n) (t : Text) :
    readFields n (fieldsText fields ++ t) = some (fields, t) := by
  match fields, hj, hn with
  | [], hj, hn =>
    rw [fieldsText] at hn ⊢
    obtain ⟨n, rfl⟩ : ∃ m, n = m + 1 := ⟨n - 1, by simp at hn; omega⟩
    rfl
  | (k, j) :: fs, hj, hn =>
    rw [fieldsDigitsOk, Bool.and_eq_true] at hj
    rw [fieldsText, List.length_append, List.length_append, List.length_cons] at hn
    have hquote : 2 ≤ (quote k).length := by
      rw [quote, List.length_append, List.length_cons, List.length_singleton]
      omega
    obtain ⟨d, v, hv, hd⟩ := fieldsTail_cons fs
    obtain ⟨n, rfl⟩ : ∃ m, n = m + 1 + 1 := ⟨n - 2, by omega⟩
    have hvalue := readValue_text (j := j) hj.1 (n := n) (by omega)
      (t := fieldsTail fs ++ t) (by rw [hv]; exact noDigit_cons hd _)
    rw [fieldsText, List.append_assoc, readFields, if_neg (by simp [quote]), readField_of_value hvalue]
    simp only [Option.bind_eq_bind, Option.bind_some,
      readFieldsTail_text fs hj.2 (n := n + 1) (by omega) t]
termination_by sizeOf fields

theorem readFieldsTail_text (fields : List (Text × Json)) (hj : fieldsDigitsOk fields = true)
    {n : Nat} (hn : (fieldsTail fields).length ≤ n) (t : Text) :
    readFieldsTail n (fieldsTail fields ++ t) = some (fields, t) := by
  match fields, hj, hn with
  | [], hj, hn =>
    rw [fieldsTail] at hn ⊢
    obtain ⟨n, rfl⟩ : ∃ m, n = m + 1 := ⟨n - 1, by simp at hn; omega⟩
    rfl
  | (k, j) :: fs, hj, hn =>
    rw [fieldsDigitsOk, Bool.and_eq_true] at hj
    rw [fieldsTail, List.length_append, List.length_append, List.length_cons, List.length_cons] at hn
    have hquote : 2 ≤ (quote k).length := by
      rw [quote, List.length_append, List.length_cons, List.length_singleton]
      omega
    obtain ⟨d, v, hv, hd⟩ := fieldsTail_cons fs
    obtain ⟨n, rfl⟩ : ∃ m, n = m + 1 + 1 := ⟨n - 2, by omega⟩
    have hvalue := readValue_text (j := j) hj.1 (n := n) (by omega)
      (t := fieldsTail fs ++ t) (by rw [hv]; exact noDigit_cons hd _)
    rw [fieldsTail, List.append_assoc, List.cons_append, List.cons_append, readFieldsTail,
      if_neg (by decide), if_pos rfl, readField_of_value hvalue]
    simp only [Option.bind_eq_bind, Option.bind_some,
      readFieldsTail_text fs hj.2 (n := n + 1) (by omega) t]
termination_by sizeOf fields
end

/-! ### Sorted keys -/

def keyLe (a b : Text × Json) : Prop := (a.1 : List Char) ≤ b.1

instance : DecidableRel keyLe := fun a b => inferInstanceAs (Decidable ((a.1 : List Char) ≤ b.1))

instance : Std.Total keyLe := ⟨fun a b => le_total (α := List Char) a.1 b.1⟩

instance : IsTrans (Text × Json) keyLe := ⟨fun _ _ _ => le_trans (α := List Char)⟩

mutual
/-- The value with the fields of every object sorted by their names. -/
def Json.sortKeys : Json → Json
  | .arr items => .arr (sortItems items)
  | .obj fields => .obj ((sortFields fields).insertionSort keyLe)
  | .null => .null
  | .bool b => .bool b
  | .int i => .int i
  | .str t => .str t

def sortItems : List Json → List Json
  | [] => []
  | j :: js => j.sortKeys :: sortItems js

def sortFields : List (Text × Json) → List (Text × Json)
  | [] => []
  | (k, j) :: fs => (k, j.sortKeys) :: sortFields fs
end

mutual
/-- No object has two fields of one name. -/
def Json.uniqueKeys : Json → Bool
  | .arr items => itemsUnique items
  | .obj fields => (fields.map Prod.fst).Nodup && fieldsUnique fields
  | .null | .bool _ | .int _ | .str _ => true

def itemsUnique : List Json → Bool
  | [] => true
  | j :: js => j.uniqueKeys && itemsUnique js

def fieldsUnique : List (Text × Json) → Bool
  | [] => true
  | (_, j) :: fs => j.uniqueKeys && fieldsUnique fs
end

theorem sortItems_eq (items : List Json) : sortItems items = items.map Json.sortKeys := by
  induction items with
  | nil => rfl
  | cons j js ih => rw [sortItems, ih, List.map_cons]

theorem sortFields_eq (fields : List (Text × Json)) :
    sortFields fields = fields.map fun f => (f.1, f.2.sortKeys) := by
  induction fields with
  | nil => rfl
  | cons f fs ih => rw [sortFields, ih, List.map_cons]

theorem itemsDigitsOk_iff {items : List Json} :
    itemsDigitsOk items = true ↔ ∀ j ∈ items, j.digitsOk = true := by
  induction items with
  | nil => simp [itemsDigitsOk]
  | cons j js ih => rw [itemsDigitsOk, Bool.and_eq_true, ih, List.forall_mem_cons]

theorem fieldsDigitsOk_iff {fields : List (Text × Json)} :
    fieldsDigitsOk fields = true ↔ ∀ f ∈ fields, f.2.digitsOk = true := by
  induction fields with
  | nil => simp [fieldsDigitsOk]
  | cons f fs ih => rw [fieldsDigitsOk, Bool.and_eq_true, ih, List.forall_mem_cons]

theorem itemsUnique_iff {items : List Json} :
    itemsUnique items = true ↔ ∀ j ∈ items, j.uniqueKeys = true := by
  induction items with
  | nil => simp [itemsUnique]
  | cons j js ih => rw [itemsUnique, Bool.and_eq_true, ih, List.forall_mem_cons]

theorem fieldsUnique_iff {fields : List (Text × Json)} :
    fieldsUnique fields = true ↔ ∀ f ∈ fields, f.2.uniqueKeys = true := by
  induction fields with
  | nil => simp [fieldsUnique]
  | cons f fs ih => rw [fieldsUnique, Bool.and_eq_true, ih, List.forall_mem_cons]

theorem perm_sortFields (fields : List (Text × Json)) :
    ((sortFields fields).insertionSort keyLe).Perm (fields.map fun f => (f.1, f.2.sortKeys)) := by
  rw [sortFields_eq]
  exact List.perm_insertionSort _ _

theorem digitsOk_sortKeys (j : Json) : j.sortKeys.digitsOk = j.digitsOk := by
  induction j using Json.induction with
  | null => rfl
  | bool b => rfl
  | int i => rfl
  | str t => rfl
  | arr items ih =>
    rw [Json.sortKeys, Json.digitsOk, Json.digitsOk, sortItems_eq, Bool.eq_iff_iff,
      itemsDigitsOk_iff, itemsDigitsOk_iff, List.forall_mem_map]
    exact forall₂_congr fun j hj => by rw [ih j hj]
  | obj fields ih =>
    rw [Json.sortKeys, Json.digitsOk, Json.digitsOk, Bool.eq_iff_iff, fieldsDigitsOk_iff,
      fieldsDigitsOk_iff]
    simp only [(perm_sortFields fields).mem_iff, List.forall_mem_map]
    exact forall₂_congr fun f hf => by rw [ih f hf]

theorem uniqueKeys_sortKeys (j : Json) : j.sortKeys.uniqueKeys = j.uniqueKeys := by
  induction j using Json.induction with
  | null => rfl
  | bool b => rfl
  | int i => rfl
  | str t => rfl
  | arr items ih =>
    rw [Json.sortKeys, Json.uniqueKeys, Json.uniqueKeys, sortItems_eq, Bool.eq_iff_iff,
      itemsUnique_iff, itemsUnique_iff, List.forall_mem_map]
    exact forall₂_congr fun j hj => by rw [ih j hj]
  | obj fields ih =>
    have hkeys : (((sortFields fields).insertionSort keyLe).map Prod.fst).Nodup ↔
        (fields.map Prod.fst).Nodup := by
      rw [((perm_sortFields fields).map Prod.fst).nodup_iff, List.map_map]
      rfl
    rw [Json.sortKeys, Json.uniqueKeys, Json.uniqueKeys, Bool.eq_iff_iff, Bool.and_eq_true,
      Bool.and_eq_true, fieldsUnique_iff, fieldsUnique_iff, decide_eq_true_eq, decide_eq_true_eq,
      hkeys]
    simp only [(perm_sortFields fields).mem_iff, List.forall_mem_map]
    exact and_congr_right fun _ => forall₂_congr fun f hf => by rw [ih f hf]

theorem sortKeys_sortKeys (j : Json) : j.sortKeys.sortKeys = j.sortKeys := by
  induction j using Json.induction with
  | null => rfl
  | bool b => rfl
  | int i => rfl
  | str t => rfl
  | arr items ih =>
    simp only [Json.sortKeys, sortItems_eq, List.map_map, Json.arr.injEq]
    exact List.map_congr_left ih
  | obj fields ih =>
    have hfixed : sortFields ((sortFields fields).insertionSort keyLe) =
        (sortFields fields).insertionSort keyLe := by
      rw [sortFields_eq ((sortFields fields).insertionSort keyLe)]
      refine (List.map_congr_left fun f hf => ?_).trans (List.map_id _)
      obtain ⟨g, hg, rfl⟩ := List.mem_map.mp ((perm_sortFields fields).mem_iff.mp hf)
      exact congrArg (Prod.mk g.1) (ih g hg)
    rw [Json.sortKeys, Json.sortKeys, hfixed, (List.pairwise_insertionSort keyLe _).insertionSort_eq]

/-! ### Bytes -/

def isAscii (t : Text) : Bool := t.all fun c => c.toNat < 128

theorem isAscii_append {s t : Text} : isAscii (s ++ t) = (isAscii s && isAscii t) :=
  List.all_append

theorem isAscii_cons {c : Char} {t : Text} :
    isAscii (c :: t) = (decide (c.toNat < 128) && isAscii t) := List.all_cons

/-- The text of ASCII bytes. Other bytes occur in no text that is written here. -/
def decodeAscii (b : Bytes) : Option Text :=
  if b.all (· < 128) then some (b.map fun x => Char.ofNat x.toNat) else none

theorem encode_of_isAscii {t : Text} (h : isAscii t = true) :
    t.encode = t.map fun c => UInt8.ofNat c.toNat := by
  induction t with
  | nil => rfl
  | cons c t ih =>
    rw [isAscii_cons, Bool.and_eq_true, decide_eq_true_eq] at h
    have hc : String.utf8EncodeChar c = [UInt8.ofNat c.toNat] := by
      refine String.utf8EncodeChar_eq_singleton (Char.utf8Size_eq_one_iff.mpr ?_)
      rw [UInt32.le_iff_toNat_le]
      exact Nat.le_of_lt_succ h.1
    rw [List.map_cons, ← ih h.2, Text.encode, List.flatMap_cons, hc]
    rfl

theorem decodeAscii_encode {t : Text} (h : isAscii t = true) : decodeAscii t.encode = some t := by
  have hvalue : ∀ c ∈ t, (UInt8.ofNat c.toNat).toNat = c.toNat := by
    intro c hc
    have hlt : c.toNat < 128 := by simpa using List.all_eq_true.mp h c hc
    rw [UInt8.toNat_ofNat', Nat.mod_eq_of_lt (by omega)]
  rw [encode_of_isAscii h, decodeAscii, if_pos, List.map_map]
  · congr 1
    refine (List.map_congr_left fun c hc => ?_).trans (List.map_id _)
    rw [Function.comp_apply, hvalue c hc, Char.ofNat_toNat]
    rfl
  · rw [List.all_map, List.all_eq_true]
    intro c hc
    have hlt : c.toNat < 128 := by simpa using List.all_eq_true.mp h c hc
    rw [Function.comp_apply, decide_eq_true_eq, UInt8.lt_iff_toNat_lt, hvalue c hc]
    exact hlt

theorem isAscii_hexQuad (n : Nat) (h : n < 0x10000) : isAscii (hexQuad n) = true := by
  have hdigit : ∀ d < 16, (hexDigit d).toNat < 128 := by decide
  simp only [hexQuad, isAscii, List.all_cons, List.all_nil, Bool.and_true, Bool.and_eq_true,
    decide_eq_true_eq]
  exact ⟨hdigit _ (by omega), hdigit _ (by omega), hdigit _ (by omega), hdigit _ (by omega)⟩

theorem isAscii_escapeChar (c : Char) : isAscii (escapeChar c) = true := by
  have hvalid := toNat_valid c
  unfold escapeChar
  split_ifs with h₀
  · simp only [isPlainChar, Bool.and_eq_true, decide_eq_true_eq] at h₀
    have hc : c.toNat ≤ 126 := h₀.1.1.2
    simp only [isAscii, List.all_cons, List.all_nil, Bool.and_true, decide_eq_true_eq]
    omega
  any_goals rfl
  · rw [isAscii_cons, isAscii_cons, isAscii_hexQuad _ (by omega)]
    rfl
  · rw [isAscii_append, isAscii_cons, isAscii_cons, isAscii_cons, isAscii_cons,
      isAscii_hexQuad _ (by omega), isAscii_hexQuad _ (by omega)]
    rfl

theorem isAscii_quote (t : Text) : isAscii (quote t) = true := by
  have hescape : isAscii (escape t) = true := by
    induction t with
    | nil => rfl
    | cons c t ih =>
      rw [escape, List.flatMap_cons, isAscii_append, isAscii_escapeChar, ← escape, ih]
      rfl
  rw [quote, List.cons_append, isAscii_cons, isAscii_append, hescape]
  rfl

theorem isAscii_intText (i : Int) : isAscii (intText i) = true := by
  have hdigits : isAscii (Nat.toDigits 10 i.natAbs) = true := by
    rw [isAscii, List.all_eq_true]
    intro c hc
    have hdigit := Nat.isDigit_of_mem_toDigits (b := 10) (by decide) (by decide) hc
    simp only [Char.isDigit, Bool.and_eq_true, decide_eq_true_eq] at hdigit
    have hle : c.toNat ≤ 57 := hdigit.2
    rw [decide_eq_true_eq]
    omega
  unfold intText
  split_ifs
  · rw [isAscii_append, hdigits]
    rfl
  · exact hdigits

theorem isAscii_text (j : Json) : isAscii j.text = true := by
  induction j using Json.induction with
  | null => rfl
  | bool b => cases b <;> rfl
  | int i => exact isAscii_intText i
  | str t => exact isAscii_quote t
  | arr items ih =>
    have htail : ∀ js : List Json, (∀ j ∈ js, isAscii j.text = true) →
        isAscii (itemsTail js) = true := by
      intro js hjs
      induction js with
      | nil => rfl
      | cons j js ih =>
        rw [List.forall_mem_cons] at hjs
        rw [itemsTail, isAscii_append, isAscii_cons, hjs.1, ih hjs.2]
        rfl
    rw [Json.text, isAscii_cons]
    cases items with
    | nil => rfl
    | cons j js =>
      rw [List.forall_mem_cons] at ih
      rw [itemsText, isAscii_append, ih.1, htail js ih.2]
      rfl
  | obj fields ih =>
    have htail : ∀ fs : List (Text × Json), (∀ f ∈ fs, isAscii f.2.text = true) →
        isAscii (fieldsTail fs) = true := by
      intro fs hfs
      induction fs with
      | nil => rfl
      | cons f fs ih =>
        rw [List.forall_mem_cons] at hfs
        rw [fieldsTail, isAscii_append, isAscii_append, isAscii_cons, isAscii_cons, isAscii_quote,
          hfs.1, ih hfs.2]
        rfl
    rw [Json.text, isAscii_cons]
    cases fields with
    | nil => rfl
    | cons f fs =>
      rw [List.forall_mem_cons] at ih
      rw [fieldsText, isAscii_append, isAscii_append, isAscii_cons, isAscii_quote, ih.1,
        htail fs ih.2]
      rfl

/-- `json.dumps(value, sort_keys=True, separators=(",", ":")).encode("utf-8")`, or nothing where
an integer is too long to be rendered. -/
def Json.dumps (j : Json) : Option Bytes :=
  if j.digitsOk then some j.sortKeys.text.encode else none

/-- `json.loads` of bytes, with a hook that refuses duplicate names. -/
def Json.loads (b : Bytes) : Option Json := do
  let t ← decodeAscii b
  let (j, rest) ← readValue t.length t
  if rest = [] ∧ j.uniqueKeys then some j else none

theorem loads_dumps {j : Json} {b : Bytes} (h : j.dumps = some b) (hkeys : j.uniqueKeys = true) :
    Json.loads b = some j.sortKeys := by
  unfold Json.dumps at h
  split_ifs at h with hdigits
  obtain rfl := Option.some.inj h
  have hread := readValue_text (j := j.sortKeys) (t := []) (by rw [digitsOk_sortKeys, hdigits])
    le_rfl (fun c hc => nomatch hc)
  rw [List.append_nil] at hread
  rw [Json.loads, decodeAscii_encode (isAscii_text _)]
  simp only [Option.bind_eq_bind, Option.bind_some, hread, uniqueKeys_sortKeys, hkeys, and_self,
    if_true]

theorem dumps_sortKeys (j : Json) : j.sortKeys.dumps = j.dumps := by
  rw [Json.dumps, Json.dumps, digitsOk_sortKeys, sortKeys_sortKeys]

/-- `json.dumps(value, sort_keys=True, separators=(",", ":"))`. -/
def Json.render (j : Json) : Option Text := if j.digitsOk then some j.sortKeys.text else none

/-- `json.loads` of a text as it is rendered, with a hook that refuses duplicate names. -/
def Json.parse (t : Text) : Option Json := do
  let (j, rest) ← readValue t.length t
  if rest = [] ∧ j.uniqueKeys then some j else none

theorem parse_render {j : Json} {t : Text} (h : j.render = some t) (hkeys : j.uniqueKeys = true) :
    Json.parse t = some j.sortKeys := by
  unfold Json.render at h
  split_ifs at h with hdigits
  obtain rfl := Option.some.inj h
  have hread := readValue_text (j := j.sortKeys) (t := []) (by rw [digitsOk_sortKeys, hdigits])
    le_rfl (fun c hc => nomatch hc)
  rw [List.append_nil] at hread
  simp only [Json.parse, Option.bind_eq_bind, Option.bind_some, hread, uniqueKeys_sortKeys, hkeys,
    and_self, if_true]

/-! ### Fields -/

def Json.get? : Json → Text → Option Json
  | .obj fields, k => fields.lookup k
  | _, _ => none

/-- The names of the fields are those expected, in any order. -/
def Json.hasFields : Json → List Text → Bool
  | .obj fields, expected => (∀ k ∈ expected, k ∈ fields.map Prod.fst) ∧
      ∀ k ∈ fields.map Prod.fst, k ∈ expected
  | _, _ => false

theorem lookup_eq_some_of_nodup {fields : List (Text × Json)} (h : (fields.map Prod.fst).Nodup)
    {k : Text} {j : Json} : fields.lookup k = some j ↔ (k, j) ∈ fields := by
  induction fields with
  | nil => simp
  | cons f fs ih =>
    rw [List.map_cons, List.nodup_cons] at h
    rw [List.lookup_cons, List.mem_cons]
    rcases eq_or_ne k f.1 with rfl | hne
    · rw [beq_self_eq_true]
      constructor
      · intro hj
        exact Or.inl (Prod.ext rfl (Option.some.inj hj).symm)
      · rintro (hj | hj)
        · rw [← hj]
        · exact absurd (List.mem_map.mpr ⟨_, hj, rfl⟩) h.1
    · have hpair : (k, j) ≠ f := fun h => hne (congrArg Prod.fst h)
      rw [beq_eq_false_iff_ne.mpr hne, or_iff_right hpair]
      exact ih h.2

theorem lookup_map_sortKeys (fields : List (Text × Json)) (k : Text) :
    (fields.map fun f => (f.1, f.2.sortKeys)).lookup k = (fields.lookup k).map Json.sortKeys := by
  induction fields with
  | nil => rfl
  | cons f fs ih =>
    rw [List.map_cons, List.lookup_cons, List.lookup_cons]
    cases k == f.1 with
    | true => rfl
    | false => exact ih

theorem get?_sortKeys {fields : List (Text × Json)} (h : (fields.map Prod.fst).Nodup) (k : Text) :
    (Json.obj fields).sortKeys.get? k = (fields.lookup k).map Json.sortKeys := by
  have hperm := perm_sortFields fields
  have hmap : ((fields.map fun f => (f.1, f.2.sortKeys)).map Prod.fst).Nodup := by
    rw [List.map_map]
    exact h
  rw [Json.sortKeys, Json.get?, ← lookup_map_sortKeys]
  refine Option.ext fun j => ?_
  rw [lookup_eq_some_of_nodup ((hperm.map Prod.fst).nodup_iff.mpr hmap), hperm.mem_iff,
    lookup_eq_some_of_nodup hmap]

theorem hasFields_sortKeys {fields : List (Text × Json)} {expected : List Text}
    (h : (fields.map Prod.fst).Perm expected) :
    (Json.obj fields).sortKeys.hasFields expected = true := by
  have hperm := (perm_sortFields fields).map Prod.fst
  rw [List.map_map] at hperm
  have hkeys := hperm.trans h
  rw [Json.sortKeys, Json.hasFields, decide_eq_true_eq]
  exact ⟨fun k hk => hkeys.mem_iff.mpr hk, fun k hk => hkeys.mem_iff.mp hk⟩

def Json.field (j : Json) (name : String) : Option Json := j.get? name.toList

/-- Nothing, unless the value is an object with exactly these fields. -/
def Json.exactMapping (j : Json) (names : List String) : Option Unit :=
  if j.hasFields (names.map String.toList) then some () else none

theorem lookup_name_head (name : String) (j : Json) (fields : List (Text × Json)) :
    List.lookup name.toList ((name.toList, j) :: fields) = some j := by
  rw [List.lookup_cons, beq_self_eq_true]

theorem lookup_name_tail {name name' : String} (h : name ≠ name') (j : Json)
    (fields : List (Text × Json)) :
    List.lookup name.toList ((name'.toList, j) :: fields) = List.lookup name.toList fields := by
  have hne : (name.toList == name'.toList) = false := by
    rw [beq_eq_false_iff_ne]
    exact fun hlist => h (String.toList_injective hlist)
  rw [List.lookup_cons, hne]

theorem field_sortKeys {fields : List (Text × Json)} {names : List String}
    (h : fields.map Prod.fst = names.map String.toList) (hnodup : names.Nodup) (name : String) :
    (Json.obj fields).sortKeys.field name = (fields.lookup name.toList).map Json.sortKeys := by
  refine get?_sortKeys ?_ _
  rw [h]
  exact hnodup.map fun _ _ => String.toList_injective

theorem exactMapping_sortKeys {fields : List (Text × Json)} {names : List String}
    (h : fields.map Prod.fst = names.map String.toList) :
    (Json.obj fields).sortKeys.exactMapping names = some () :=
  if_pos (hasFields_sortKeys (List.Perm.of_eq h))

/-! ### Lengths -/

theorem length_escapeChar_le (c : Char) : (escapeChar c).length ≤ 12 := by
  unfold escapeChar
  split_ifs <;> simp [hexQuad]

theorem length_quote_le (t : Text) : (quote t).length ≤ 12 * t.length + 2 := by
  have hescape : (escape t).length ≤ 12 * t.length := by
    induction t with
    | nil => exact le_rfl
    | cons c t ih =>
      have hc := length_escapeChar_le c
      rw [escape, List.flatMap_cons, ← escape, List.length_append, List.length_cons]
      omega
  rw [quote, List.length_append, List.length_cons, List.length_singleton]
  omega

theorem length_itemsTail_le {items : List Json} {n : Nat} (h : ∀ j ∈ items, j.text.length ≤ n) :
    (itemsTail items).length ≤ items.length * (n + 1) + 1 := by
  induction items with
  | nil => rw [itemsTail]; simp
  | cons j js ih =>
    rw [List.forall_mem_cons] at h
    have hjs := ih h.2
    rw [itemsTail, List.length_append, List.length_cons, List.length_cons, Nat.add_mul, Nat.one_mul]
    have hj := h.1
    omega

theorem length_arr_text_le {items : List Json} {n : Nat} (h : ∀ j ∈ items, j.text.length ≤ n) :
    (Json.arr items).text.length ≤ items.length * (n + 1) + 2 := by
  rw [Json.text, List.length_cons]
  cases items with
  | nil => rw [itemsText]; simp
  | cons j js =>
    rw [List.forall_mem_cons] at h
    have htail := length_itemsTail_le h.2
    have hj := h.1
    rw [itemsText, List.length_append, List.length_cons, Nat.add_mul, Nat.one_mul]
    omega

theorem length_fieldsTail_le {fields : List (Text × Json)} {n : Nat}
    (h : ∀ f ∈ fields, f.1.length ≤ n) :
    (fieldsTail fields).length ≤
      (fields.map fun f => f.2.text.length).sum + fields.length * (12 * n + 4) + 1 := by
  induction fields with
  | nil => rw [fieldsTail]; simp
  | cons f fs ih =>
    rw [List.forall_mem_cons] at h
    have hfs := ih h.2
    have hkey := length_quote_le f.1
    have hf := h.1
    rw [fieldsTail, List.length_append, List.length_append, List.length_cons, List.length_cons,
      List.length_cons, List.map_cons, List.sum_cons, Nat.add_mul, Nat.one_mul]
    omega

theorem length_obj_text_le {fields : List (Text × Json)} {n : Nat}
    (h : ∀ f ∈ fields, f.1.length ≤ n) :
    (Json.obj fields).text.length ≤
      (fields.map fun f => f.2.text.length).sum + fields.length * (12 * n + 4) + 2 := by
  rw [Json.text, List.length_cons]
  cases fields with
  | nil => rw [fieldsText]; simp
  | cons f fs =>
    rw [List.forall_mem_cons] at h
    have htail := length_fieldsTail_le h.2
    have hkey := length_quote_le f.1
    have hf := h.1
    rw [fieldsText, List.length_append, List.length_append, List.length_cons, List.length_cons,
      List.map_cons, List.sum_cons, Nat.add_mul, Nat.one_mul]
    omega

theorem length_str_text_le {t : Text} {n : Nat} (h : t.length ≤ n) :
    (Json.str t).text.length ≤ 12 * n + 2 := by
  have hquote := length_quote_le t
  rw [Json.text]
  omega

end MyCogni
