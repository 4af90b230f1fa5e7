import MyCogni.Base.Struct

/-! Framings of byte strings that can be taken apart again: parts with their lengths in front, and
parts of one fixed length. -/

namespace MyCogni

/-- A part with its length in front. -/
def frame (part : Bytes) : Bytes := toBytesBE 8 part.length ++ part

theorem toBytesBE_injOn {k m n : Nat} (hm : m < 256 ^ k) (hn : n < 256 ^ k)
    (h : toBytesBE k m = toBytesBE k n) : m = n := by
  have hvalue := congrArg ofBytesBE h
  rwa [ofBytesBE_toBytesBE, ofBytesBE_toBytesBE, Nat.mod_eq_of_lt hm, Nat.mod_eq_of_lt hn]
    at hvalue

theorem frame_append_inj {a b s t : Bytes} (ha : a.length < 256 ^ 8) (hb : b.length < 256 ^ 8)
    (h : frame a ++ s = frame b ++ t) : a = b ∧ s = t := by
  unfold frame at h
  rw [List.append_assoc, List.append_assoc] at h
  obtain ⟨hlength, hrest⟩ := List.append_inj h (by simp)
  exact List.append_inj hrest (toBytesBE_injOn ha hb hlength)

/-- So many framed parts are told apart by their concatenation. -/
theorem flatMap_frame_inj {ps qs : List Bytes} (hlength : ps.length = qs.length)
    (hps : ∀ p ∈ ps, p.length < 256 ^ 8) (hqs : ∀ q ∈ qs, q.length < 256 ^ 8)
    (h : ps.flatMap frame = qs.flatMap frame) : ps = qs := by
  induction ps generalizing qs with
  | nil => exact (List.length_eq_zero_iff.mp hlength.symm).symm
  | cons p ps ih =>
    cases qs with
    | nil => exact nomatch hlength
    | cons q qs =>
      rw [List.flatMap_cons, List.flatMap_cons] at h
      obtain ⟨rfl, hrest⟩ := frame_append_inj (hps p List.mem_cons_self) (hqs q List.mem_cons_self) h
      have htail := ih (Nat.succ.inj hlength) (fun p hp => hps p (List.mem_cons_of_mem _ hp))
        (fun q hq => hqs q (List.mem_cons_of_mem _ hq)) hrest
      rw [htail]

/-- Parts of one length need no length in front. -/
theorem flatMap_inj_of_length {α : Type*} {f : α → Bytes} {n : Nat} (hf : Function.Injective f)
    (hpart : ∀ a, (f a).length = n) {as bs : List α} (hlength : as.length = bs.length)
    (h : as.flatMap f = bs.flatMap f) : as = bs := by
  induction as generalizing bs with
  | nil => exact (List.length_eq_zero_iff.mp hlength.symm).symm
  | cons a as ih =>
    cases bs with
    | nil => exact nomatch hlength
    | cons b bs =>
      rw [List.flatMap_cons, List.flatMap_cons] at h
      obtain ⟨hhead, htail⟩ := List.append_inj h ((hpart a).trans (hpart b).symm)
      rw [hf hhead, ih (Nat.succ.inj hlength) htail]

theorem length_encode_le (t : Text) : t.encode.length ≤ 4 * t.length := by
  induction t with
  | nil => exact le_rfl
  | cons c t ih =>
    have hc : (String.utf8EncodeChar c).length ≤ 4 := by
      rw [String.length_utf8EncodeChar]
      exact c.utf8Size_le_four
    have hsplit : Text.encode (c :: t) = String.utf8EncodeChar c ++ Text.encode t := rfl
    rw [hsplit, List.length_append, List.length_cons]
    omega

end MyCogni
