import Mathlib.Tactic.Ring
import MyCogni.Base.Bytes

/-! UTC instants as `datetime` holds them: microseconds from the beginning of year 1 to the end
of year 9999, with the proleptic Gregorian calendar and the ISO 8601 text of `isoformat`. -/

namespace MyCogni

/-- One past the last representable microsecond. -/
def datetimeLimit : Nat := 3652059 * 86400000000

abbrev Datetime := Fin datetimeLimit

instance neZero_thousand : NeZero 1000 := ⟨by decide⟩

/-- An instant of the first millisecond. -/
def Datetime.early (n : Fin 1000) : Datetime := ⟨n, lt_trans n.isLt (by decide)⟩

/-- `value + delta`, or nothing when the sum is not representable. -/
def Datetime.add (t : Datetime) (delta : Nat) : Option Datetime :=
  if h : t.val + delta < datetimeLimit then some ⟨t.val + delta, h⟩ else none

namespace Calendar

def isLeap (y : Nat) : Bool := y % 4 = 0 && (y % 100 ≠ 0 || y % 400 = 0)

def daysBeforeYear (y : Nat) : Nat := (y - 1) * 365 + (y - 1) / 4 - (y - 1) / 100 + (y - 1) / 400

def daysInMonth (leap : Bool) (m : Nat) : Nat :=
  if m = 2 then (if leap then 29 else 28)
  else if m = 4 ∨ m = 6 ∨ m = 9 ∨ m = 11 then 30 else 31

def daysBeforeMonth (leap : Bool) (m : Nat) : Nat :=
  [0, 0, 31, 59, 90, 120, 151, 181, 212, 243, 273, 304, 334].getD m 0 + if 2 < m ∧ leap then 1 else 0

/-- The month and day of the zero-based day `k` of a year. -/
def monthDay (leap : Bool) (k : Nat) : Nat × Nat :=
  let guess := (k + 50) / 32
  let m := if k < daysBeforeMonth leap guess then guess - 1 else guess
  (m, k - daysBeforeMonth leap m + 1)

/-- The date of day `k` of a year, from the position of the year in its 400-, 100-, 4- and
1-year cycles. -/
def cycleDate (n400 n100 n4 n1 k : Nat) : Nat × Nat × Nat :=
  let year := n400 * 400 + n100 * 100 + n4 * 4 + n1 + 1
  if n1 = 4 ∨ n100 = 4 then (year - 1, 12, 31)
  else (year, monthDay (decide (n1 = 3 ∧ (n4 ≠ 24 ∨ n100 = 3))) k)

/-- Year, month and day of the zero-based day number `n`. -/
def ymd (n : Nat) : Nat × Nat × Nat :=
  cycleDate (n / 146097) (n % 146097 / 36524) (n % 146097 % 36524 / 1461)
    (n % 146097 % 36524 % 1461 / 365) (n % 146097 % 36524 % 1461 % 365)

def dayNumber (y m d : Nat) : Nat := daysBeforeYear y + daysBeforeMonth (isLeap y) m + (d - 1)

theorem monthDay_spec (leap : Bool) (k : Nat) (h : k < if leap then 366 else 365) :
    1 ≤ (monthDay leap k).1 ∧ (monthDay leap k).1 ≤ 12 ∧ 1 ≤ (monthDay leap k).2 ∧
      (monthDay leap k).2 ≤ daysInMonth leap (monthDay leap k).1 ∧
      daysBeforeMonth leap (monthDay leap k).1 + ((monthDay leap k).2 - 1) = k := by
  have hall : ∀ leap : Bool, ∀ k < if leap then 366 else 365,
      1 ≤ (monthDay leap k).1 ∧ (monthDay leap k).1 ≤ 12 ∧ 1 ≤ (monthDay leap k).2 ∧
        (monthDay leap k).2 ≤ daysInMonth leap (monthDay leap k).1 ∧
        daysBeforeMonth leap (monthDay leap k).1 + ((monthDay leap k).2 - 1) = k := by
    decide +kernel
  exact hall leap k h

/-- A calendar date within the years 1 to 9999. -/
structure IsDate (y m d : Nat) : Prop where
  year : 1 ≤ y ∧ y ≤ 9999
  month : 1 ≤ m ∧ m ≤ 12
  day : 1 ≤ d ∧ d ≤ daysInMonth (isLeap y) m

instance (y m d : Nat) : Decidable (IsDate y m d) :=
  decidable_of_iff ((1 ≤ y ∧ y ≤ 9999) ∧ (1 ≤ m ∧ m ≤ 12) ∧ 1 ≤ d ∧ d ≤ daysInMonth (isLeap y) m)
    ⟨fun ⟨a, b, c⟩ => ⟨a, b, c⟩, fun ⟨a, b, c⟩ => ⟨a, b, c⟩⟩

theorem isLeap_cycle {a b c d : Nat} (hb : b ≤ 3) (hc : c ≤ 24) (hd : d ≤ 3) :
    isLeap (a * 400 + b * 100 + c * 4 + d + 1) = decide (d = 3 ∧ (c ≠ 24 ∨ b = 3)) := by
  rw [isLeap, Bool.eq_iff_iff]
  simp only [Bool.and_eq_true, Bool.or_eq_true, decide_eq_true_eq]
  omega

theorem daysBeforeYear_cycle {a b c d : Nat} (hb : b ≤ 3) (hc : c ≤ 24) (hd : d ≤ 3) :
    daysBeforeYear (a * 400 + b * 100 + c * 4 + d + 1) =
      a * 146097 + b * 36524 + c * 1461 + d * 365 := by
  unfold daysBeforeYear
  omega

theorem dayNumber_lastDay {y : Nat} (h : isLeap y = true) :
    dayNumber y 12 31 = daysBeforeYear y + 365 := by
  rw [dayNumber, h]
  rfl

theorem lastDay_isDate {y : Nat} (h : isLeap y = true) (h1 : 1 ≤ y) (h2 : y ≤ 9999) :
    IsDate y 12 31 := ⟨⟨h1, h2⟩, by decide, by rw [h]; decide⟩

/-- The date of a day number is a date, and it has that number. -/
theorem ymd_spec {n : Nat} (hn : n < 3652059) :
    IsDate (ymd n).1 (ymd n).2.1 (ymd n).2.2 ∧
      dayNumber (ymd n).1 (ymd n).2.1 (ymd n).2.2 = n := by
  unfold ymd
  generalize ha : n / 146097 = a
  generalize hr : n % 146097 = r
  generalize hb : r / 36524 = b
  generalize hs : r % 36524 = s
  generalize hc : s / 1461 = c
  generalize ht : s % 1461 = t
  generalize hd : t / 365 = d
  by_cases hlast : d = 4 ∨ b = 4
  · -- the last day of a four-year or of a four-hundred-year cycle
    rw [cycleDate, if_pos hlast]
    by_cases hb4 : b = 4
    · have hleap : isLeap (a * 400 + 3 * 100 + 24 * 4 + 3 + 1) = true := by
        rw [isLeap_cycle le_rfl le_rfl le_rfl]
        rfl
      have hdays := daysBeforeYear_cycle (a := a) (b := 3) (c := 24) (d := 3) le_rfl le_rfl le_rfl
      have hyear : a * 400 + b * 100 + c * 4 + d + 1 - 1 = a * 400 + 3 * 100 + 24 * 4 + 3 + 1 := by
        omega
      rw [hyear]
      exact ⟨lastDay_isDate hleap (by omega) (by omega), by
        rw [dayNumber_lastDay hleap, hdays]; omega⟩
    · have hc23 : c ≤ 23 := by omega
      have hleap : isLeap (a * 400 + b * 100 + c * 4 + 3 + 1) = true := by
        rw [isLeap_cycle (by omega) (by omega) le_rfl]
        exact decide_eq_true ⟨rfl, Or.inl (by omega)⟩
      have hdays := daysBeforeYear_cycle (a := a) (b := b) (c := c) (d := 3) (by omega) (by omega)
        le_rfl
      have hyear : a * 400 + b * 100 + c * 4 + d + 1 - 1 = a * 400 + b * 100 + c * 4 + 3 + 1 := by
        omega
      rw [hyear]
      exact ⟨lastDay_isDate hleap (by omega) (by omega), by
        rw [dayNumber_lastDay hleap, hdays]; omega⟩
  · rw [cycleDate, if_neg hlast]
    have hb3 : b ≤ 3 := by omega
    have hc24 : c ≤ 24 := by omega
    have hd3 : d ≤ 3 := by omega
    have hleap := isLeap_cycle (a := a) hb3 hc24 hd3
    have hyear : a * 400 + b * 100 + c * 4 + d + 1 ≤ 9999 := by omega
    have hk : t % 365 < if decide (d = 3 ∧ (c ≠ 24 ∨ b = 3)) then 366 else 365 := by
      have := Nat.mod_lt t (show 365 > 0 by decide)
      split_ifs <;> omega
    obtain ⟨hm1, hm12, hd1, hdm, hsum⟩ := monthDay_spec _ _ hk
    refine ⟨⟨⟨Nat.le_add_left .., hyear⟩, ⟨hm1, hm12⟩, hd1, ?_⟩, ?_⟩
    · rw [hleap]
      exact hdm
    · rw [dayNumber, hleap, daysBeforeYear_cycle hb3 hc24 hd3, Nat.add_assoc, hsum]
      omega

end Calendar

/-! ### ISO 8601 text -/

def digitChar (n : Nat) : Char := Char.ofNat (48 + n)

def digitValue (c : Char) : Option Nat :=
  if '0' ≤ c ∧ c ≤ '9' then some (c.toNat - 48) else none

theorem digitValue_digitChar {n : Nat} (h : n < 10) : digitValue (digitChar n) = some n := by
  interval_cases n <;> rfl

/-- The last `k` decimal digits of `n`, zero-padded. -/
def padDec : Nat → Nat → Text
  | 0, _ => []
  | k + 1, n => digitChar (n / 10 ^ k % 10) :: padDec k n

/-- Read exactly `k` decimal digits. -/
def readDec : Nat → Nat → Text → Option (Nat × Text)
  | 0, acc, t => some (acc, t)
  | _ + 1, _, [] => none
  | k + 1, acc, c :: t => (digitValue c).bind fun d => readDec k (10 * acc + d) t

theorem readDec_padDec (k acc n : Nat) (t : Text) :
    readDec k acc (padDec k n ++ t) = some (acc * 10 ^ k + n % 10 ^ k, t) := by
  induction k generalizing acc with
  | zero => simp [readDec, padDec, Nat.mod_one]
  | succ k ih =>
    have hd := digitValue_digitChar (n := n / 10 ^ k % 10) (Nat.mod_lt _ (by decide))
    have hmod : n % 10 ^ (k + 1) = n / 10 ^ k % 10 * 10 ^ k + n % 10 ^ k := by
      rw [Nat.pow_succ, Nat.mod_mul, Nat.mul_comm (10 ^ k), Nat.add_comm]
    rw [padDec, List.cons_append, readDec, hd, Option.bind_some, ih, hmod, Nat.pow_succ]
    congr 2
    ring

/-- Read one expected character. -/
def readChar (c : Char) : Text → Option Text
  | [] => none
  | c' :: t => if c' = c then some t else none

@[simp] theorem readChar_cons (c : Char) (t : Text) : readChar c (c :: t) = some t := if_pos rfl

namespace Datetime

def day (t : Datetime) : Nat := t.val / 86400000000

def second (t : Datetime) : Nat := t.val % 86400000000 / 1000000

def micro (t : Datetime) : Nat := t.val % 1000000

def dateText (t : Datetime) : Text :=
  let date := Calendar.ymd t.day
  padDec 4 date.1 ++ '-' :: padDec 2 date.2.1 ++ '-' :: padDec 2 date.2.2

def clockText (t : Datetime) : Text :=
  padDec 2 (t.second / 3600) ++ ':' :: padDec 2 (t.second / 60 % 60) ++
    ':' :: padDec 2 (t.second % 60)

def utcSuffix : Text := "+00:00".toList

/-- `isoformat(timespec="microseconds")`. -/
def isoformatMicro (t : Datetime) : Text :=
  t.dateText ++ 'T' :: t.clockText ++ '.' :: padDec 6 t.micro ++ utcSuffix

/-- `isoformat()`, which leaves out a zero fraction. -/
def isoformat (t : Datetime) : Text :=
  if t.micro = 0 then t.dateText ++ 'T' :: t.clockText ++ utcSuffix else t.isoformatMicro

def readFraction (t : Text) : Option (Nat × Text) :=
  match readChar '.' t with
  | some t => readDec 6 0 t
  | none => some (0, t)

/-- `fromisoformat` on the texts that `isoformat` writes for UTC instants. -/
def fromIsoformat (t : Text) : Option Datetime := do
  let (y, t) ← readDec 4 0 t
  let (m, t) ← readDec 2 0 (← readChar '-' t)
  let (d, t) ← readDec 2 0 (← readChar '-' t)
  let (hh, t) ← readDec 2 0 (← readChar 'T' t)
  let (mm, t) ← readDec 2 0 (← readChar ':' t)
  let (ss, t) ← readDec 2 0 (← readChar ':' t)
  let (us, t) ← readFraction t
  if Calendar.IsDate y m d ∧ hh < 24 ∧ mm < 60 ∧ ss < 60 ∧ t = utcSuffix then
    let value := Calendar.dayNumber y m d * 86400000000 +
      ((hh * 60 + mm) * 60 + ss) * 1000000 + us
    if h : value < datetimeLimit then some ⟨value, h⟩ else none
  else none

theorem readDec_small {k n : Nat} (h : n < 10 ^ k) (t : Text) :
    readDec k 0 (padDec k n ++ t) = some (n, t) := by
  rw [readDec_padDec, Nat.zero_mul, Nat.zero_add, Nat.mod_eq_of_lt h]

theorem readFraction_micro (t : Datetime) :
    readFraction ('.' :: padDec 6 t.micro ++ utcSuffix) = some (t.micro, utcSuffix) := by
  have hm : t.micro < 10 ^ 6 := Nat.mod_lt _ (by decide)
  rw [readFraction, List.cons_append, readChar_cons]
  exact readDec_small hm utcSuffix

/-- The fraction that `isoformat` writes, and what it leaves out. -/
theorem readFraction_isoformat (t : Datetime) (front : Text) :
    ∃ tail, (if t.micro = 0 then front ++ utcSuffix else
        front ++ '.' :: padDec 6 t.micro ++ utcSuffix) = front ++ tail ∧
      readFraction tail = some (t.micro, utcSuffix) := by
  by_cases h : t.micro = 0
  · refine ⟨utcSuffix, by rw [if_pos h], ?_⟩
    rw [h]
    rfl
  · exact ⟨'.' :: padDec 6 t.micro ++ utcSuffix, by rw [if_neg h, List.append_assoc],
      readFraction_micro t⟩

/-- A date and a time of day with any tail that reads as the fraction. -/
theorem fromIsoformat_of_fraction (t : Datetime) {tail : Text}
    (hfrac : readFraction tail = some (t.micro, utcSuffix)) :
    fromIsoformat (t.dateText ++ 'T' :: t.clockText ++ tail) = some t := by
  obtain ⟨hdate, hnum⟩ := Calendar.ymd_spec (n := t.day) (by
    have := t.isLt
    simp only [day, datetimeLimit] at *
    omega)
  have hyear := hdate.year
  have hmonth := hdate.month
  have hday : (Calendar.ymd t.day).2.2 ≤ 31 := hdate.day.2.trans (by
    unfold Calendar.daysInMonth
    split_ifs <;> omega)
  have hsec : t.second < 86400 := by
    unfold second
    omega
  have hval : Calendar.dayNumber (Calendar.ymd t.day).1 (Calendar.ymd t.day).2.1
      (Calendar.ymd t.day).2.2 * 86400000000 +
      ((t.second / 3600 * 60 + t.second / 60 % 60) * 60 + t.second % 60) * 1000000 + t.micro =
      t.val := by
    rw [hnum]
    unfold day second micro
    omega
  rw [fromIsoformat, dateText, clockText]
  simp only [List.append_assoc, List.cons_append, Option.bind_eq_bind]
  rw [readDec_small (by omega), Option.bind_some, readChar_cons, Option.bind_some,
    readDec_small (by omega), Option.bind_some, readChar_cons, Option.bind_some,
    readDec_small (by omega), Option.bind_some, readChar_cons, Option.bind_some,
    readDec_small (by omega), Option.bind_some, readChar_cons, Option.bind_some,
    readDec_small (by omega), Option.bind_some, readChar_cons, Option.bind_some,
    readDec_small (by omega), Option.bind_some, hfrac, Option.bind_some]
  rw [if_pos ⟨hdate, by omega, by omega, by omega, rfl⟩, dif_pos (hval ▸ t.isLt)]
  exact congrArg some (Fin.ext hval)

theorem fromIsoformat_isoformat (t : Datetime) : fromIsoformat t.isoformat = some t := by
  obtain ⟨tail, htail, hfrac⟩ := readFraction_isoformat t (t.dateText ++ 'T' :: t.clockText)
  have hiso : t.isoformat = t.dateText ++ 'T' :: t.clockText ++ tail := by
    rw [← htail, isoformat, isoformatMicro]
  rw [hiso]
  exact fromIsoformat_of_fraction t hfrac

theorem fromIsoformat_isoformatMicro (t : Datetime) : fromIsoformat t.isoformatMicro = some t := by
  rw [isoformatMicro, List.append_assoc]
  exact fromIsoformat_of_fraction t (readFraction_micro t)

@[simp] theorem length_padDec (k n : Nat) : (padDec k n).length = k := by
  induction k with
  | zero => rfl
  | succ k ih => rw [padDec, List.length_cons, ih]

theorem length_isoformatMicro (t : Datetime) : t.isoformatMicro.length = 32 := by
  simp only [isoformatMicro, dateText, clockText, utcSuffix, List.length_append, List.length_cons,
    length_padDec]
  rfl

theorem isoformat_injective : Function.Injective isoformat := by
  intro a b h
  have := congrArg fromIsoformat h
  rwa [fromIsoformat_isoformat, fromIsoformat_isoformat, Option.some.injEq] at this

theorem isoformatMicro_injective : Function.Injective isoformatMicro := by
  intro a b h
  have := congrArg fromIsoformat h
  rwa [fromIsoformat_isoformatMicro, fromIsoformat_isoformatMicro, Option.some.injEq] at this

end Datetime
end MyCogni
