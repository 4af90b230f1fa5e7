import Mathlib.Algebra.Order.BigOperators.Group.List
import MyCogni.Base.Base64
import MyCogni.Base.Datetime
import MyCogni.Base.Json
import MyCogni.Base.Uuid

/-! How long JSON texts are: exactly for arrays and objects from their parts, for strings of plain
characters, and for the texts of byte strings, identifiers and instants. -/

namespace MyCogni

/-! ### Arrays and objects -/

theorem length_itemsTail (items : List Json) :
    (itemsTail items).length = (items.map fun j => j.text.length + 1).sum + 1 := by
  induction items with
  | nil => rw [itemsTail]; rfl
  | cons j js ih =>
    rw [itemsTail, List.length_append, List.length_cons, ih, List.map_cons, List.sum_cons]
    omega

theorem length_text_arr {items : List Json} (h : items ≠ []) :
    (Json.arr items).text.length = (items.map fun j => j.text.length + 1).sum + 1 := by
  cases items with
  | nil => exact absurd rfl h
  | cons j js =>
    rw [Json.text, itemsText, List.length_cons, List.length_append, length_itemsTail, List.map_cons,
      List.sum_cons]
    omega

theorem length_text_arr_nil : (Json.arr []).text.length = 2 := by
  rw [Json.text, itemsText]
  rfl

theorem length_fieldsTail (fields : List (Text × Json)) : (fieldsTail fields).length =
    (fields.map fun f => (quote f.1).length + f.2.text.length + 2).sum + 1 := by
  induction fields with
  | nil => rw [fieldsTail]; rfl
  | cons f fs ih =>
    rw [fieldsTail, List.length_append, List.length_append, List.length_cons, List.length_cons, ih,
      List.map_cons, List.sum_cons]
    omega

theorem length_text_obj {fields : List (Text × Json)} (h : fields ≠ []) :
    (Json.obj fields).text.length =
      (fields.map fun f => (quote f.1).length + f.2.text.length + 2).sum + 1 := by
  cases fields with
  | nil => exact absurd rfl h
  | cons f fs =>
    rw [Json.text, fieldsText, List.length_cons, List.length_append, List.length_append,
      List.length_cons, length_fieldsTail, List.map_cons, List.sum_cons]
    omega

/-- Sorting the fields of the objects does not change the length of a text. -/
theorem length_text_sortKeys (j : Json) : j.sortKeys.text.length = j.text.length := by
  induction j using Json.induction with
  | null => rfl
  | bool b => rfl
  | int i => rfl
  | str t => rfl
  | arr items ih =>
    rw [Json.sortKeys, sortItems_eq]
    by_cases hitems : items = []
    · rw [hitems]
      rfl
    · rw [length_text_arr hitems, length_text_arr (by simpa using hitems), List.map_map]
      exact congrArg (fun l => List.sum l + 1)
        (List.map_congr_left fun j hj => congrArg (· + 1) (ih j hj))
  | obj fields ih =>
    have hperm := perm_sortFields fields
    rw [Json.sortKeys]
    by_cases hfields : fields = []
    · rw [hfields]
      rfl
    · have hsorted : (sortFields fields).insertionSort keyLe ≠ [] := by
        intro hnil
        rw [hnil] at hperm
        exact hfields (List.map_eq_nil_iff.mp hperm.nil_eq.symm)
      rw [length_text_obj hfields, length_text_obj hsorted, (hperm.map _).sum_eq, List.map_map]
      refine congrArg (fun l => List.sum l + 1) (List.map_congr_left fun f hf => ?_)
      show (quote f.1).length + f.2.sortKeys.text.length + 2 = _
      rw [ih f hf]

theorem length_dumps {j : Json} {b : Bytes} (h : j.dumps = some b) : b.length = j.text.length := by
  unfold Json.dumps at h
  split_ifs at h
  obtain rfl := Option.some.inj h
  rw [encode_of_isAscii (isAscii_text _), List.length_map, length_text_sortKeys]

/-- No part of an array is longer than it. -/
theorem length_text_le_arr {items : List Json} {j : Json} (h : j ∈ items) :
    j.text.length ≤ (Json.arr items).text.length := by
  have hle := List.single_le_sum (fun x _ => Nat.zero_le x) _
    (List.mem_map_of_mem (f := fun j : Json => j.text.length + 1) h)
  rw [length_text_arr (List.ne_nil_of_mem h)]
  omega

theorem length_text_le_obj {fields : List (Text × Json)} {f : Text × Json} (h : f ∈ fields) :
    f.2.text.length ≤ (Json.obj fields).text.length := by
  have hle := List.single_le_sum (fun x _ => Nat.zero_le x) _
    (List.mem_map_of_mem (f := fun f : Text × Json => (quote f.1).length + f.2.text.length + 2) h)
  rw [length_text_obj (List.ne_nil_of_mem h)]
  omega

/-! ### Strings -/

def isPlain (t : Text) : Bool := t.all isPlainChar

theorem isPlain_append {s t : Text} : isPlain (s ++ t) = (isPlain s && isPlain t) :=
  List.all_append

theorem isPlain_cons {c : Char} {t : Text} : isPlain (c :: t) = (isPlainChar c && isPlain t) := rfl

theorem length_quote {t : Text} (h : isPlain t = true) : (quote t).length = t.length + 2 := by
  have hescape : escape t = t := by
    induction t with
    | nil => rfl
    | cons c t ih =>
      rw [isPlain_cons, Bool.and_eq_true] at h
      have hc : escapeChar c = [c] := if_pos h.1
      rw [escape, List.flatMap_cons, ← escape, hc, ih h.2]
      rfl
  rw [quote, hescape, List.length_append, List.length_cons, List.length_singleton]

theorem length_text_str {t : Text} (h : isPlain t = true) :
    (Json.str t).text.length = t.length + 2 := by
  rw [Json.text, length_quote h]

/-- An object whose fields have the given names. -/
theorem length_text_obj_names {fields : List (Text × Json)} {names : List String}
    (h : fields.map Prod.fst = names.map String.toList)
    (hplain : (names.all fun n => isPlain n.toList) = true) (hne : names ≠ []) :
    (Json.obj fields).text.length =
      (fields.map fun f => f.2.text.length).sum + (names.map fun n => n.length + 4).sum + 1 := by
  have hfields : fields ≠ [] := by
    rintro rfl
    exact hne (List.map_eq_nil_iff.mp h.symm)
  rw [length_text_obj hfields]
  clear hne hfields
  induction fields generalizing names with
  | nil =>
    rw [List.map_eq_nil_iff.mp h.symm]
    rfl
  | cons f fs ih =>
    cases names with
    | nil => exact nomatch h
    | cons n ns =>
      rw [List.map_cons, List.map_cons, List.cons.injEq] at h
      rw [List.all_cons, Bool.and_eq_true] at hplain
      have hquote : (quote f.1).length = n.length + 2 := by
        rw [h.1, length_quote hplain.1, String.length_toList]
      have hrest := ih h.2 hplain.2
      simp only [List.map_cons, List.sum_cons, hquote] at hrest ⊢
      omega

theorem isPlain_hex (bs : Bytes) : isPlain (hex bs) = true := by
  have hdigit : ∀ n < 16, isPlainChar (hexDigit n) = true := by decide
  refine List.all_eq_true.mpr fun c hc => ?_
  obtain ⟨b, -, hb⟩ := List.mem_flatMap.mp hc
  have hlt : b.toNat < 256 := b.toNat_lt
  simp only [byteHex, List.mem_cons, List.not_mem_nil, or_false] at hb
  rcases hb with rfl | rfl
  · exact hdigit _ (by omega)
  · exact hdigit _ (by omega)

theorem isPlain_uuid (u : Uuid) : isPlain u.str = true := by
  have hhyphen : isPlainChar '-' = true := rfl
  simp only [Uuid.str, isPlain_append, isPlain_cons, isPlain_hex, hhyphen, Bool.and_self]

theorem length_text_uuid (u : Uuid) : (Json.str u.str).text.length = 38 := by
  rw [length_text_str (isPlain_uuid u), Uuid.length_str]

namespace Base64

theorem isPlain_encode (bs : Bytes) : isPlain (encode bs) = true := by
  have hdigit : ∀ n < 64, isPlainChar (digit n) = true := by decide
  have hpad : isPlainChar '=' = true := rfl
  induction bs using encode.induct with
  | case1 => rfl
  | case2 a =>
    have ha := a.toNat_lt
    rw [encode]
    simp only [isPlain_cons, hdigit (a.toNat * 16 / 64) (by omega),
      hdigit (a.toNat * 16 % 64) (by omega), hpad]
    rfl
  | case3 a b =>
    have ha := a.toNat_lt
    have hb := b.toNat_lt
    rw [encode]
    simp only [isPlain_cons, hdigit ((a.toNat * 256 + b.toNat) * 4 / 4096) (by omega),
      hdigit ((a.toNat * 256 + b.toNat) * 4 / 64 % 64) (by omega),
      hdigit ((a.toNat * 256 + b.toNat) * 4 % 64) (by omega), hpad]
    rfl
  | case4 a b c bs ih =>
    have ha := a.toNat_lt
    have hb := b.toNat_lt
    have hc := c.toNat_lt
    rw [encode]
    simp only [isPlain_cons, ih,
      hdigit (((a.toNat * 256 + b.toNat) * 256 + c.toNat) / 262144) (by omega),
      hdigit (((a.toNat * 256 + b.toNat) * 256 + c.toNat) / 4096 % 64) (by omega),
      hdigit (((a.toNat * 256 + b.toNat) * 256 + c.toNat) / 64 % 64) (by omega),
      hdigit (((a.toNat * 256 + b.toNat) * 256 + c.toNat) % 64) (by omega)]
    rfl

theorem length_text_encode (bs : Bytes) :
    (Json.str (encode bs)).text.length = 4 * ((bs.length + 2) / 3) + 2 := by
  rw [length_text_str (isPlain_encode bs), length_encode]

end Base64

namespace Datetime

theorem isPlain_padDec (k n : Nat) : isPlain (padDec k n) = true := by
  have hdigit : ∀ n < 10, isPlainChar (digitChar n) = true := by decide
  induction k with
  | zero => rfl
  | succ k ih => rw [padDec, isPlain_cons, ih, hdigit _ (Nat.mod_lt _ (by decide))]; rfl

theorem isPlain_isoformat (t : Datetime) : isPlain t.isoformat = true := by
  have hmarks : (isPlainChar '-' && isPlainChar ':' && isPlainChar 'T' && isPlainChar '.' &&
      isPlain utcSuffix) = true := by decide
  simp only [Bool.and_eq_true] at hmarks
  unfold isoformat
  split_ifs
  · simp only [dateText, clockText, isPlain_append, isPlain_cons, isPlain_padDec, hmarks,
      Bool.and_self]
  · simp only [isoformatMicro, dateText, clockText, isPlain_append, isPlain_cons, isPlain_padDec,
      hmarks, Bool.and_self]

theorem length_isoformat_le (t : Datetime) : t.isoformat.length ≤ 32 := by
  unfold isoformat
  split_ifs
  · simp only [dateText, clockText, utcSuffix, List.length_append, List.length_cons, length_padDec]
    decide
  · exact t.length_isoformatMicro.le

theorem length_text_isoformat_le (t : Datetime) : (Json.str t.isoformat).text.length ≤ 34 := by
  have hle := t.length_isoformat_le
  rw [length_text_str t.isPlain_isoformat]
  omega

end Datetime
end MyCogni
