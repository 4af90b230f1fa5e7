import MyCogni.Base.Bytes

/-! AES-256 in Galois/counter mode with a tag of sixteen bytes. Decryption inverts encryption for
every key, nonce and associated data; nothing more is used of the cipher. -/

namespace MyCogni
namespace AesGcm

/-! ### The block cipher -/

def xtime (b : UInt8) : UInt8 := (b <<< 1) ^^^ (if b &&& 0x80 = 0 then 0 else 0x1b)

def mul (a b : UInt8) : UInt8 :=
  ((List.range 8).foldl (fun (acc : UInt8 × UInt8) i =>
    (if (b >>> UInt8.ofNat i) &&& 1 = 1 then acc.1 ^^^ acc.2 else acc.1, xtime acc.2)) (0, a)).1

def rotate (b : UInt8) (n : Nat) : UInt8 := (b <<< UInt8.ofNat n) ||| (b >>> UInt8.ofNat (8 - n))

/-- The affine transform of the inverse, which is the 254th power. -/
def subByte (b : UInt8) : UInt8 :=
  let inverse := (mul b)^[254] 1
  inverse ^^^ rotate inverse 1 ^^^ rotate inverse 2 ^^^ rotate inverse 3 ^^^ rotate inverse 4 ^^^ 0x63

def xor (a b : Bytes) : Bytes := List.zipWith (· ^^^ ·) a b

/-- The words of the key schedule, newest first, extended by the `i`-th. -/
def extend (words : List Bytes) (i : Nat) : List Bytes :=
  let last := words.headD []
  let last :=
    if i % 8 = 0 then
      let rotated := (last.drop 1 ++ last.take 1).map subByte
      xor rotated [xtime^[i / 8 - 1] 1, 0, 0, 0]
    else if i % 8 = 4 then last.map subByte
    else last
  xor (words.getD 7 []) last :: words

/-- The fifteen round keys of a key of 32 bytes. -/
def roundKeys (key : Bytes) : List Bytes :=
  let words := (List.range 8).map fun i => (key.drop (4 * i)).take 4
  let schedule := (((List.range 52).map (· + 8)).foldl extend words.reverse).reverse
  (List.range 15).map fun i => ((schedule.drop (4 * i)).take 4).flatten

/-- The state is kept by columns. -/
def shiftRows (state : Bytes) : Bytes :=
  (List.range 16).map fun i => state.getD ((i + 4 * (i % 4)) % 16) 0

def mixColumns (state : Bytes) : Bytes :=
  (List.range 16).map fun i =>
    let cell (k : Nat) := state.getD (4 * (i / 4) + (i + k) % 4) 0
    mul 2 (cell 0) ^^^ mul 3 (cell 1) ^^^ cell 2 ^^^ cell 3

abbrev Block := BitVec 128

def block (b : Bytes) : Block := BitVec.ofNat 128 (b.foldl (fun n x => 256 * n + x.toNat) 0)

def Block.bytes (x : Block) : Bytes := toBytesBE 16 x.toNat

def encryptBlock (key : Bytes) (x : Block) : Block :=
  let keys := roundKeys key
  let round (state : Bytes) (roundKey : Bytes) :=
    xor (mixColumns (shiftRows (state.map subByte))) roundKey
  let state := ((keys.drop 1).take 13).foldl round (xor x.bytes (keys.headD []))
  block (xor (shiftRows (state.map subByte)) (keys.getD 14 []))

/-! ### The mode -/

/-- The product in the field of 2^128 elements; the first bit is the most significant one. -/
def product (x y : Block) : Block :=
  ((List.range 128).foldl (fun (acc : Block × Block) i =>
    (if x.getMsbD i then acc.1 ^^^ acc.2 else acc.1,
     if acc.2.getLsbD 0 then (acc.2 >>> 1) ^^^ (0xe1#128 <<< 120) else acc.2 >>> 1)) (0, y)).1

def pad (b : Bytes) : Bytes := b ++ List.replicate ((16 - b.length % 16) % 16) 0

def hash (h : Block) (b : Bytes) : Block :=
  ((List.range (b.length / 16)).map fun i => block ((b.drop (16 * i)).take 16)).foldl
    (fun y x => product (y ^^^ x) h) 0

def lengthBytes (b : Bytes) : Bytes := toBytesBE 8 (8 * b.length)

def initialCounter (key nonce : Bytes) : Block :=
  if nonce.length = 12 then block (nonce ++ [0, 0, 0, 1])
  else hash (encryptBlock key 0) (pad nonce ++ List.replicate 8 0 ++ lengthBytes nonce)

/-- The counter is the last 32 bits. -/
def advance (x : Block) (n : Nat) : Block :=
  (x >>> 32 <<< 32) ||| ((x.setWidth 32 + BitVec.ofNat 32 n).setWidth 128)

def keystream (key : Bytes) (counter : Block) (n : Nat) : Bytes :=
  (List.range n).flatMap fun i => Block.bytes (encryptBlock key (advance counter (i + 1)))

def mask (key nonce text : Bytes) : Bytes :=
  xor text (keystream key (initialCounter key nonce) text.length)

def tag (key nonce ciphertext aad : Bytes) : Bytes :=
  Block.bytes (encryptBlock key (initialCounter key nonce) ^^^ hash (encryptBlock key 0)
    (pad aad ++ pad ciphertext ++ lengthBytes aad ++ lengthBytes ciphertext))

def encrypt (key nonce plaintext aad : Bytes) : Bytes :=
  let ciphertext := mask key nonce plaintext
  ciphertext ++ tag key nonce ciphertext aad

def decrypt (key nonce ciphertext aad : Bytes) : Option Bytes :=
  let text := ciphertext.take (ciphertext.length - 16)
  if ciphertext.drop (ciphertext.length - 16) = tag key nonce text aad then
    some (mask key nonce text)
  else none

/-! ### Decryption inverts encryption -/

theorem length_keystream (key : Bytes) (counter : Block) (n : Nat) :
    (keystream key counter n).length = 16 * n := by
  induction n with
  | zero => rfl
  | succ n ih =>
    unfold keystream at ih ⊢
    rw [List.range_succ, List.flatMap_append, List.length_append, ih, List.flatMap_singleton,
      Block.bytes, length_toBytesBE]
    omega

theorem length_mask (key nonce text : Bytes) : (mask key nonce text).length = text.length := by
  rw [mask, xor, List.length_zipWith, length_keystream]
  omega

theorem xor_xor {a b : Bytes} (h : a.length ≤ b.length) : xor (xor a b) b = a := by
  induction a generalizing b with
  | nil => rfl
  | cons x a ih =>
    cases b with
    | nil => simp at h
    | cons y b =>
      rw [List.length_cons, List.length_cons, Nat.add_le_add_iff_right] at h
      have hxy : (x ^^^ y) ^^^ y = x := by rw [UInt8.xor_assoc, UInt8.xor_self, UInt8.xor_zero]
      show ((x ^^^ y) ^^^ y) :: xor (xor a b) b = x :: a
      rw [hxy, ih h]

theorem mask_mask (key nonce text : Bytes) : mask key nonce (mask key nonce text) = text := by
  have hlength : text.length ≤
      (keystream key (initialCounter key nonce) text.length).length := by
    rw [length_keystream]
    omega
  rw [mask, length_mask, mask, xor_xor hlength]

theorem length_tag (key nonce ciphertext aad : Bytes) :
    (tag key nonce ciphertext aad).length = 16 := length_toBytesBE ..

theorem length_encrypt (key nonce plaintext aad : Bytes) :
    (encrypt key nonce plaintext aad).length = plaintext.length + 16 := by
  rw [encrypt, List.length_append, length_mask, length_tag]

theorem decrypt_encrypt (key nonce plaintext aad : Bytes) :
    decrypt key nonce (encrypt key nonce plaintext aad) aad = some plaintext := by
  have hlength : (encrypt key nonce plaintext aad).length - 16 =
      (mask key nonce plaintext).length := by
    rw [length_encrypt, length_mask, Nat.add_sub_cancel]
  rw [decrypt, hlength, encrypt, List.take_left, List.drop_left, if_pos rfl, mask_mask]

end AesGcm

/-- Authenticated encryption under a key, a nonce and associated data: decryption inverts
encryption, and a ciphertext is its plaintext and a tag of sixteen bytes long. -/
structure Aead where
  encrypt : (key nonce plaintext aad : Bytes) → Bytes
  decrypt : (key nonce ciphertext aad : Bytes) → Option Bytes
  decrypt_encrypt : ∀ key nonce plaintext aad,
    decrypt key nonce (encrypt key nonce plaintext aad) aad = some plaintext
  length_encrypt : ∀ key nonce plaintext aad,
    (encrypt key nonce plaintext aad).length = plaintext.length + 16

/-- The cipher of the program. -/
def Aead.aesGcm : Aead where
  encrypt := AesGcm.encrypt
  decrypt := AesGcm.decrypt
  decrypt_encrypt := AesGcm.decrypt_encrypt
  length_encrypt := AesGcm.length_encrypt

end MyCogni
