import MyCogni.Base.Bytes
import Mathlib.Tactic.Linarith
import Mathlib.Tactic.Ring

/-! Fixed-width records of bytes, as the standard library packs and unpacks them: byte fields that
are cut or padded to their width, and unsigned integers in big-endian order. -/

namespace MyCogni

/-- `int.from_bytes(b, "big")`. -/
def ofBytesBE : Bytes → Nat
  | [] => 0
  | b :: bs => b.toNat * 256 ^ bs.length + ofBytesBE bs

theorem ofBytesBE_lt (bs : Bytes) : ofBytesBE bs < 256 ^ bs.length := by
  induction bs with
  | nil => exact Nat.one_pos
  | cons b bs ih =>
    have hb : b.toNat < 256 := b.toNat_lt
    rw [ofBytesBE, List.length_cons, pow_succ]
    nlinarith

theorem ofBytesBE_toBytesBE (k n : Nat) : ofBytesBE (toBytesBE k n) = n % 256 ^ k := by
  induction k with
  | zero => rw [toBytesBE, ofBytesBE, pow_zero, Nat.mod_one]
  | succ k ih =>
    have hbyte : (UInt8.ofNat (n / 256 ^ k % 256)).toNat = n / 256 ^ k % 256 := by
      rw [UInt8.toNat_ofNat', Nat.mod_mod]
    rw [toBytesBE, ofBytesBE, length_toBytesBE, ih, hbyte, pow_succ, Nat.mod_mul]
    ring

theorem toBytesBE_add (k m n : Nat) : toBytesBE k (m * 256 ^ k + n) = toBytesBE k n := by
  induction k generalizing m with
  | zero => rfl
  | succ k ih =>
    have hsplit : m * 256 ^ (k + 1) + n = 256 * m * 256 ^ k + n := by ring
    have hdigit : (m * 256 ^ (k + 1) + n) / 256 ^ k % 256 = n / 256 ^ k % 256 := by
      rw [hsplit, Nat.add_comm, Nat.add_mul_div_right _ _ (by positivity), Nat.add_mul_mod_self_left]
    rw [toBytesBE, toBytesBE, hdigit, hsplit, ih]

theorem toBytesBE_ofBytesBE (bs : Bytes) : toBytesBE bs.length (ofBytesBE bs) = bs := by
  induction bs with
  | nil => rfl
  | cons b bs ih =>
    have hb : b.toNat < 256 := b.toNat_lt
    have hdigit : (b.toNat * 256 ^ bs.length + ofBytesBE bs) / 256 ^ bs.length % 256 = b.toNat := by
      rw [Nat.add_comm, Nat.add_mul_div_right _ _ (by positivity),
        Nat.div_eq_of_lt (ofBytesBE_lt bs), Nat.zero_add, Nat.mod_eq_of_lt hb]
    rw [ofBytesBE, List.length_cons, toBytesBE, hdigit, toBytesBE_add, ih, UInt8.ofNat_toNat]

namespace Struct

/-- A field `<width>s`, or an unsigned integer of so many bytes. -/
inductive Field where
  | bytes (width : Nat)
  | uint (width : Nat)
deriving DecidableEq

namespace Field

@[reducible] def Value : Field → Type
  | bytes _ => Bytes
  | uint _ => Nat

def size : Field → Nat
  | bytes width => width
  | uint width => width

/-- Bytes are cut or padded without a word; an integer out of range is an error. -/
def pack : (f : Field) → f.Value → Option Bytes
  | bytes width, b => some ((b ++ List.replicate width 0).take width)
  | uint width, n => if n < 256 ^ width then some (toBytesBE width n) else none

def unpack : (f : Field) → Bytes → f.Value
  | bytes _, b => b
  | uint _, b => ofBytesBE b

/-- The values that packing does not alter. -/
def Fits : (f : Field) → f.Value → Prop
  | bytes width, b => b.length = width
  | uint width, n => n < 256 ^ width

theorem pack_fits {f : Field} {v : f.Value} (h : f.Fits v) :
    ∃ b, f.pack v = some b ∧ b.length = f.size ∧ f.unpack b = v := by
  cases f with
  | bytes width =>
    have hcut : (v ++ List.replicate width 0).take width = v := by
      rw [← h, List.take_left]
    exact ⟨v, congrArg some hcut, h, rfl⟩
  | uint width =>
    refine ⟨toBytesBE width v, if_pos h, length_toBytesBE width v, ?_⟩
    change ofBytesBE (toBytesBE width v) = v
    rw [ofBytesBE_toBytesBE, Nat.mod_eq_of_lt h]

theorem unpack_fits {f : Field} {b : Bytes} (h : b.length = f.size) : f.Fits (f.unpack b) := by
  cases f with
  | bytes width => exact h
  | uint width =>
    have hlt := ofBytesBE_lt b
    rw [h] at hlt
    exact hlt

theorem pack_unpack {f : Field} {b : Bytes} (h : b.length = f.size) :
    f.pack (f.unpack b) = some b := by
  cases f with
  | bytes width =>
    change some ((b ++ List.replicate width 0).take width) = some b
    rw [← show b.length = width from h, List.take_left]
  | uint width =>
    have hfits : ofBytesBE b < 256 ^ width := unpack_fits h
    change (if ofBytesBE b < 256 ^ width then some (toBytesBE width (ofBytesBE b)) else none) = _
    rw [if_pos hfits, ← show b.length = width from h, toBytesBE_ofBytesBE]

end Field

@[reducible] def Values : List Field → Type
  | [] => Unit
  | f :: fs => f.Value × Values fs

def calcsize (fs : List Field) : Nat := (fs.map Field.size).sum

/-- None where packing raises `struct.error`. -/
def pack : (fs : List Field) → Values fs → Option Bytes
  | [], _ => some []
  | f :: fs, (v, vs) => do
    let b ← f.pack v
    let bs ← pack fs vs
    pure (b ++ bs)

def unpack : (fs : List Field) → Bytes → Values fs
  | [], _ => ()
  | f :: fs, bs => (f.unpack (bs.take f.size), unpack fs (bs.drop f.size))

/-- None where the buffer is too short. -/
def unpackFrom (fs : List Field) (buffer : Bytes) (offset : Nat) : Option (Values fs) :=
  if calcsize fs ≤ (buffer.drop offset).length then some (unpack fs (buffer.drop offset)) else none

def Fits : (fs : List Field) → Values fs → Prop
  | [], _ => True
  | f :: fs, (v, vs) => f.Fits v ∧ Fits fs vs

theorem unpack_pack {fs : List Field} {vs : Values fs} (h : Fits fs vs) :
    ∃ bs, pack fs vs = some bs ∧ bs.length = calcsize fs ∧
      ∀ rest, unpack fs (bs ++ rest) = vs := by
  induction fs with
  | nil => exact ⟨[], rfl, rfl, fun _ => rfl⟩
  | cons f fs ih =>
    obtain ⟨v, vs⟩ := vs
    obtain ⟨hv, hvs⟩ := h
    obtain ⟨b, hpack, hlength, hunpack⟩ := Field.pack_fits hv
    obtain ⟨bs, hpacks, hlengths, hunpacks⟩ := ih hvs
    refine ⟨b ++ bs, ?_, ?_, fun rest => ?_⟩
    · rw [pack, hpack, hpacks]
      rfl
    · rw [List.length_append, hlength, hlengths]
      rfl
    · rw [unpack, List.append_assoc, ← hlength, List.take_left, List.drop_left, hunpack, hunpacks]

theorem pack_injective {fs : List Field} {vs vs' : Values fs} (h : Fits fs vs) (h' : Fits fs vs')
    (heq : pack fs vs = pack fs vs') : vs = vs' := by
  obtain ⟨bs, hpack, -, hunpack⟩ := unpack_pack h
  obtain ⟨bs', hpack', -, hunpack'⟩ := unpack_pack h'
  obtain rfl := Option.some.inj (hpack.symm.trans (heq.trans hpack'))
  exact (hunpack []).symm.trans (hunpack' [])

theorem pack_unpack {fs : List Field} {bs : Bytes} (h : calcsize fs ≤ bs.length) :
    Fits fs (unpack fs bs) ∧ pack fs (unpack fs bs) = some (bs.take (calcsize fs)) := by
  induction fs generalizing bs with
  | nil => exact ⟨trivial, rfl⟩
  | cons f fs ih =>
    have hsize : calcsize (f :: fs) = f.size + calcsize fs := rfl
    rw [hsize] at h ⊢
    have hhead : (bs.take f.size).length = f.size := by
      rw [List.length_take]
      omega
    obtain ⟨hfits, hpack⟩ := @ih (bs.drop f.size) (by rw [List.length_drop]; omega)
    refine ⟨⟨Field.unpack_fits hhead, hfits⟩, ?_⟩
    rw [unpack, pack, Field.pack_unpack hhead, hpack, List.take_add]
    rfl

theorem unpackFrom_pack {fs : List Field} {vs : Values fs} (h : Fits fs vs) {bs : Bytes}
    (hpack : pack fs vs = some bs) {buffer rest : Bytes} {offset : Nat}
    (hbuffer : buffer.drop offset = bs ++ rest) : unpackFrom fs buffer offset = some vs := by
  obtain ⟨bs', hpack', hlength, hunpack⟩ := unpack_pack h
  cases hpack.symm.trans hpack'
  have hroom : calcsize fs ≤ (buffer.drop offset).length := by
    rw [hbuffer, List.length_append, hlength]
    exact Nat.le_add_right _ _
  rw [unpackFrom, if_pos hroom, hbuffer, hunpack]

theorem pack_unpackFrom {fs : List Field} {vs : Values fs} {buffer : Bytes} {offset : Nat}
    (h : unpackFrom fs buffer offset = some vs) :
    Fits fs vs ∧ pack fs vs = some ((buffer.drop offset).take (calcsize fs)) := by
  unfold unpackFrom at h
  split_ifs at h with hroom
  cases h
  exact pack_unpack hroom

end Struct
end MyCogni
