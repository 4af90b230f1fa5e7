import MyCogni.Base.Bytes

/-! Base64 with padding, as `b64encode` writes it and `b64decode` with validation reads it. -/

namespace MyCogni.Base64

def digit (n : Nat) : Char :=
  if n < 26 then Char.ofNat (65 + n)
  else if n < 52 then Char.ofNat (71 + n)
  else if n < 62 then Char.ofNat (n - 4)
  else if n = 62 then '+'
  else '/'

def value (c : Char) : Option Nat :=
  if 'A' ≤ c ∧ c ≤ 'Z' then some (c.toNat - 65)
  else if 'a' ≤ c ∧ c ≤ 'z' then some (c.toNat - 71)
  else if '0' ≤ c ∧ c ≤ '9' then some (c.toNat + 4)
  else if c = '+' then some 62
  else if c = '/' then some 63
  else none

def encode : Bytes → Text
  | [] => []
  | [a] =>
    let n := a.toNat * 16
    [digit (n / 64), digit (n % 64), '=', '=']
  | [a, b] =>
    let n := (a.toNat * 256 + b.toNat) * 4
    [digit (n / 4096), digit (n / 64 % 64), digit (n % 64), '=']
  | a :: b :: c :: bs =>
    let n := (a.toNat * 256 + b.toNat) * 256 + c.toNat
    digit (n / 262144) :: digit (n / 4096 % 64) :: digit (n / 64 % 64) :: digit (n % 64) ::
      encode bs

/-- Bits beyond the last byte are dropped. -/
def decode : Text → Option Bytes
  | [] => some []
  | a :: b :: c :: d :: rest =>
    if d = '=' then
      if rest ≠ [] then none
      else if c = '=' then do
        let n := (← value a) * 64 + (← value b)
        some [UInt8.ofNat (n / 16)]
      else do
        let n := ((← value a) * 64 + (← value b)) * 64 + (← value c)
        some [UInt8.ofNat (n / 1024), UInt8.ofNat (n / 4 % 256)]
    else do
      let n := (((← value a) * 64 + (← value b)) * 64 + (← value c)) * 64 + (← value d)
      let bs ← decode rest
      some (UInt8.ofNat (n / 65536) :: UInt8.ofNat (n / 256 % 256) :: UInt8.ofNat (n % 256) :: bs)
  | _ => none

theorem value_digit {n : Nat} (h : n < 64) : value (digit n) = some n := by
  have hall : ∀ n < 64, value (digit n) = some n := by decide
  exact hall n h

theorem digit_ne_pad {n : Nat} (h : n < 64) : digit n ≠ '=' := by
  intro hpad
  have hvalue := value_digit h
  rw [hpad] at hvalue
  exact nomatch hvalue

theorem ofNat_eq {a : UInt8} {n : Nat} (h : n = a.toNat) : UInt8.ofNat n = a := by
  rw [h, UInt8.ofNat_toNat]

theorem decode_encode (bs : Bytes) : decode (encode bs) = some bs := by
  induction bs using encode.induct with
  | case1 => rfl
  | case2 a =>
    have ha := a.toNat_lt
    have hfirst : a.toNat * 16 / 64 < 64 := by omega
    have hsecond : a.toNat * 16 % 64 < 64 := by omega
    rw [encode, decode, if_pos rfl, if_neg (by simp), if_pos rfl, value_digit hfirst,
      value_digit hsecond]
    simp only [Option.bind_eq_bind, Option.bind_some, Option.some.injEq, List.cons.injEq, and_true]
    exact ofNat_eq (by omega)
  | case3 a b =>
    have ha := a.toNat_lt
    have hb := b.toNat_lt
    have hfirst : (a.toNat * 256 + b.toNat) * 4 / 4096 < 64 := by omega
    have hsecond : (a.toNat * 256 + b.toNat) * 4 / 64 % 64 < 64 := by omega
    have hthird : (a.toNat * 256 + b.toNat) * 4 % 64 < 64 := by omega
    rw [encode, decode, if_pos rfl, if_neg (by simp), if_neg (digit_ne_pad hthird),
      value_digit hfirst, value_digit hsecond, value_digit hthird]
    simp only [Option.bind_eq_bind, Option.bind_some, Option.some.injEq, List.cons.injEq, and_true]
    exact ⟨ofNat_eq (by omega), ofNat_eq (by omega)⟩
  | case4 a b c bs ih =>
    have ha := a.toNat_lt
    have hb := b.toNat_lt
    have hc := c.toNat_lt
    have hfirst : ((a.toNat * 256 + b.toNat) * 256 + c.toNat) / 262144 < 64 := by omega
    have hsecond : ((a.toNat * 256 + b.toNat) * 256 + c.toNat) / 4096 % 64 < 64 := by omega
    have hthird : ((a.toNat * 256 + b.toNat) * 256 + c.toNat) / 64 % 64 < 64 := by omega
    have hfourth : ((a.toNat * 256 + b.toNat) * 256 + c.toNat) % 64 < 64 := by omega
    rw [encode, decode, if_neg (digit_ne_pad hfourth), value_digit hfirst, value_digit hsecond,
      value_digit hthird, value_digit hfourth, ih]
    simp only [Option.bind_eq_bind, Option.bind_some, Option.some.injEq, List.cons.injEq, and_true]
    exact ⟨ofNat_eq (by omega), ofNat_eq (by omega), ofNat_eq (by omega)⟩

theorem length_encode (bs : Bytes) : (encode bs).length = 4 * ((bs.length + 2) / 3) := by
  induction bs using encode.induct with
  | case1 => rfl
  | case2 a => simp [encode]
  | case3 a b => simp [encode]
  | case4 a b c bs ih =>
    rw [encode]
    simp only [List.length_cons, ih]
    omega

/-! ### Texts that decode -/

theorem digit_injOn {m n : Nat} (hm : m < 64) (hn : n < 64) (h : digit m = digit n) : m = n := by
  have hvalue := congrArg value h
  rw [value_digit hm, value_digit hn] at hvalue
  exact Option.some.inj hvalue

/-- Each digit is the one of its value. -/
theorem digit_value {c : Char} {n : Nat} (h : value c = some n) : n < 64 ∧ digit n = c := by
  unfold value at h
  split_ifs at h with hupper hlower hnumber hplus hslash
  · obtain rfl := Option.some.inj h
    have hlow : 65 ≤ c.toNat := hupper.1
    have hhigh : c.toNat ≤ 90 := hupper.2
    refine ⟨by omega, ?_⟩
    rw [digit, if_pos (by omega), show 65 + (c.toNat - 65) = c.toNat by omega, Char.ofNat_toNat]
  · obtain rfl := Option.some.inj h
    have hlow : 97 ≤ c.toNat := hlower.1
    have hhigh : c.toNat ≤ 122 := hlower.2
    refine ⟨by omega, ?_⟩
    rw [digit, if_neg (by omega), if_pos (by omega), show 71 + (c.toNat - 71) = c.toNat by omega,
      Char.ofNat_toNat]
  · obtain rfl := Option.some.inj h
    have hlow : 48 ≤ c.toNat := hnumber.1
    have hhigh : c.toNat ≤ 57 := hnumber.2
    refine ⟨by omega, ?_⟩
    rw [digit, if_neg (by omega), if_neg (by omega), if_pos (by omega),
      show c.toNat + 4 - 4 = c.toNat by omega, Char.ofNat_toNat]
  · obtain rfl := Option.some.inj h
    exact ⟨by decide, hplus.symm⟩
  · obtain rfl := Option.some.inj h
    exact ⟨by decide, hslash.symm⟩

/-- The bits of the last digit that are beyond the last byte. -/
def spare : Text → Nat
  | _ :: b :: c :: d :: rest =>
    if d = '=' then
      if c = '=' then (value b).getD 0 % 16 else (value c).getD 0 % 4
    else spare rest
  | _ => 0

/-- A text that decodes is the one that encodes its bytes just where no bits are dropped. -/
theorem encode_eq_iff {t : Text} {bs : Bytes} (h : decode t = some bs) : encode bs = t ↔ spare t = 0 := by
  induction t using decode.induct generalizing bs with
  | case1 =>
    obtain rfl := Option.some.inj h
    exact ⟨fun _ => rfl, fun _ => rfl⟩
  | case2 a b c rest hrest =>
    rw [decode, if_pos rfl, if_pos hrest] at h
    exact nomatch h
  | case3 a b rest hrest =>
    obtain rfl := not_not.mp hrest
    rw [decode, if_pos rfl, if_neg hrest, if_pos rfl] at h
    obtain ⟨x, hx, y, hy, h⟩ : ∃ x, value a = some x ∧ ∃ y, value b = some y ∧
        some [UInt8.ofNat ((x * 64 + y) / 16)] = some bs := by
      simpa [Option.bind_eq_some_iff] using h
    obtain rfl := Option.some.inj h
    obtain ⟨hxlt, rfl⟩ := digit_value hx
    obtain ⟨hylt, rfl⟩ := digit_value hy
    have hbyte : (UInt8.ofNat ((x * 64 + y) / 16)).toNat = (x * 64 + y) / 16 := by
      rw [UInt8.toNat_ofNat']
      omega
    rw [encode, hbyte, spare, if_pos rfl, if_pos rfl, hy, Option.getD_some,
      show (x * 64 + y) / 16 * 16 / 64 = x by omega]
    simp only [List.cons.injEq, true_and, and_true]
    constructor
    · intro hdigit
      have heq := digit_injOn (by omega) hylt hdigit
      omega
    · intro hspare
      congr 1
      omega
  | case4 a b c rest hrest hc =>
    obtain rfl := not_not.mp hrest
    rw [decode, if_pos rfl, if_neg hrest, if_neg hc] at h
    obtain ⟨x, hx, y, hy, z, hz, h⟩ : ∃ x, value a = some x ∧ ∃ y, value b = some y ∧
        ∃ z, value c = some z ∧ some [UInt8.ofNat (((x * 64 + y) * 64 + z) / 1024),
          UInt8.ofNat (((x * 64 + y) * 64 + z) / 4 % 256)] = some bs := by
      simpa [Option.bind_eq_some_iff] using h
    obtain rfl := Option.some.inj h
    obtain ⟨hxlt, rfl⟩ := digit_value hx
    obtain ⟨hylt, rfl⟩ := digit_value hy
    obtain ⟨hzlt, rfl⟩ := digit_value hz
    have hfirst : (UInt8.ofNat (((x * 64 + y) * 64 + z) / 1024)).toNat =
        ((x * 64 + y) * 64 + z) / 1024 := by
      rw [UInt8.toNat_ofNat']
      omega
    have hsecond : (UInt8.ofNat (((x * 64 + y) * 64 + z) / 4 % 256)).toNat =
        ((x * 64 + y) * 64 + z) / 4 % 256 := by
      rw [UInt8.toNat_ofNat']
      omega
    have hall : (((x * 64 + y) * 64 + z) / 1024 * 256 + ((x * 64 + y) * 64 + z) / 4 % 256) * 4 =
        (x * 64 + y) * 64 + z - z % 4 := by omega
    rw [encode, hfirst, hsecond, hall, spare, if_pos rfl, if_neg hc, hz, Option.getD_some,
      show ((x * 64 + y) * 64 + z - z % 4) / 4096 = x by omega,
      show ((x * 64 + y) * 64 + z - z % 4) / 64 % 64 = y by omega]
    simp only [List.cons.injEq, true_and, and_true]
    constructor
    · intro hdigit
      have heq := digit_injOn (by omega) hzlt hdigit
      omega
    · intro hspare
      congr 1
      omega
  | case5 a b c d rest hd ih =>
    rw [decode, if_neg hd] at h
    obtain ⟨x, hx, y, hy, z, hz, w, hw, bs', hbs, h⟩ : ∃ x, value a = some x ∧ ∃ y, value b = some y ∧
        ∃ z, value c = some z ∧ ∃ w, value d = some w ∧ ∃ bs', decode rest = some bs' ∧
          some (UInt8.ofNat ((((x * 64 + y) * 64 + z) * 64 + w) / 65536) ::
            UInt8.ofNat ((((x * 64 + y) * 64 + z) * 64 + w) / 256 % 256) ::
            UInt8.ofNat ((((x * 64 + y) * 64 + z) * 64 + w) % 256) :: bs') = some bs := by
      simpa [Option.bind_eq_some_iff] using h
    obtain rfl := Option.some.inj h
    obtain ⟨hxlt, rfl⟩ := digit_value hx
    obtain ⟨hylt, rfl⟩ := digit_value hy
    obtain ⟨hzlt, rfl⟩ := digit_value hz
    obtain ⟨hwlt, rfl⟩ := digit_value hw
    obtain ⟨n, hn⟩ : ∃ n, ((x * 64 + y) * 64 + z) * 64 + w = n := ⟨_, rfl⟩
    have hall : (n / 65536 % 256 * 256 + n / 256 % 256 % 256) * 256 + n % 256 % 256 = n := by omega
    rw [hn, encode, UInt8.toNat_ofNat', UInt8.toNat_ofNat', UInt8.toNat_ofNat', hall, spare, if_neg hd,
      show n / 262144 = x by omega, show n / 4096 % 64 = y by omega, show n / 64 % 64 = z by omega,
      show n % 64 = w by omega]
    simpa using ih hbs
  | case6 t hnil hlong =>
    rw [decode] at h
    · exact nomatch h
    · exact hnil
    · exact hlong

theorem encode_injective : Function.Injective encode := by
  intro a b h
  exact Option.some.inj ((decode_encode a).symm.trans ((congrArg decode h).trans (decode_encode b)))

end MyCogni.Base64
