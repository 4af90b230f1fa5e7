import Mathlib.Data.Char
import Mathlib.Data.List.Lex
import Mathlib.Data.List.Sort
import Mathlib.Tactic.IntervalCases

/-! Byte strings and texts with the conversions of the standard library that the program uses:
big-endian integers, hexadecimal, UTF-8 and the decimal rendering of integers. -/

namespace MyCogni

abbrev Bytes := List UInt8

/-- A text is the sequence of its code points. -/
abbrev Text := List Char

instance : LawfulBEq Bytes := inferInstance

instance : LawfulBEq Text := inferInstance

/-- A check of all characters of a text, one after another. -/
theorem forall_mem_of_all {p : Char → Prop} [DecidablePred p] {t : Text}
    (h : t.all (fun c => decide (p c)) = true) : ∀ c ∈ t, p c :=
  fun c hc => of_decide_eq_true (List.all_eq_true.mp h c hc)

/-- The ASCII bytes of a literal. -/
def ascii (s : String) : Bytes := s.toList.map fun c => UInt8.ofNat c.toNat

def Text.encode (t : Text) : Bytes := t.flatMap String.utf8EncodeChar

theorem Text.encode_injective : Function.Injective Text.encode := by
  intro a b h
  have hbytes : (String.ofList a).toByteArray = (String.ofList b).toByteArray := by
    rw [String.toByteArray_ofList, String.toByteArray_ofList]
    exact congrArg List.toByteArray h
  exact String.ofList_injective (String.toByteArray_inj.mp hbytes)

/-- `n.to_bytes(k, "big")`. -/
def toBytesBE : Nat → Nat → Bytes
  | 0, _ => []
  | k + 1, n => UInt8.ofNat (n / 256 ^ k % 256) :: toBytesBE k n

@[simp] theorem length_toBytesBE (k n : Nat) : (toBytesBE k n).length = k := by
  induction k with
  | zero => rfl
  | succ k ih => rw [toBytesBE, List.length_cons, ih]

/-! ### Decimal rendering -/

def intText (i : Int) : Text :=
  (if i < 0 then ['-'] else []) ++ Nat.toDigits 10 i.natAbs

/-- The default bound on the digits of a conversion between `int` and `str`. -/
def maxStrDigits : Nat := 4300

def strDigitsOk (i : Int) : Bool := (Nat.toDigits 10 i.natAbs).length ≤ maxStrDigits

/-- `str(i)`, or nothing where the conversion raises `ValueError`. -/
def strInt (i : Int) : Option Text := if strDigitsOk i then some (intText i) else none

/-! ### Hexadecimal -/

def hexDigit (n : Nat) : Char := if n < 10 then Char.ofNat (48 + n) else Char.ofNat (87 + n)

def hexValue (c : Char) : Option Nat :=
  if '0' ≤ c ∧ c ≤ '9' then some (c.toNat - 48)
  else if 'a' ≤ c ∧ c ≤ 'f' then some (c.toNat - 87)
  else if 'A' ≤ c ∧ c ≤ 'F' then some (c.toNat - 55)
  else none

def byteHex (b : UInt8) : Text := [hexDigit (b.toNat / 16), hexDigit (b.toNat % 16)]

def hex (bs : Bytes) : Text := bs.flatMap byteHex

def unhex : Text → Option Bytes
  | [] => some []
  | [_] => none
  | a :: b :: t => do
    let x ← hexValue a
    let y ← hexValue b
    let bs ← unhex t
    pure (UInt8.ofNat (16 * x + y) :: bs)

theorem hexValue_hexDigit {n : Nat} (h : n < 16) : hexValue (hexDigit n) = some n := by
  interval_cases n <;> rfl

theorem unhex_hex (bs : Bytes) : unhex (hex bs) = some bs := by
  induction bs with
  | nil => rfl
  | cons b bs ih =>
    have hb : b.toNat < 256 := b.toNat_lt
    have h1 := hexValue_hexDigit (n := b.toNat / 16) (by omega)
    have h2 := hexValue_hexDigit (n := b.toNat % 16) (by omega)
    have hv : 16 * (b.toNat / 16) + b.toNat % 16 = b.toNat := by omega
    show unhex (hexDigit (b.toNat / 16) :: hexDigit (b.toNat % 16) :: hex bs) = _
    rw [unhex, h1, h2, ih]
    simp only [Option.bind_eq_bind, Option.bind_some, Option.pure_def, hv, UInt8.ofNat_toNat]

theorem length_hex (bs : Bytes) : (hex bs).length = 2 * bs.length := by
  induction bs with
  | nil => rfl
  | cons b bs ih =>
    rw [hex, List.flatMap_cons, List.length_append, ← hex, ih, List.length_cons, byteHex]
    simp only [List.length_cons, List.length_nil]
    omega

theorem hex_injective : Function.Injective hex := by
  intro a b h
  have := congrArg unhex h
  rwa [unhex_hex, unhex_hex, Option.some.injEq] at this

end MyCogni
