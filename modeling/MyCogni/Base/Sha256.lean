import MyCogni.Base.Bytes

/-! SHA-256 and HMAC-SHA-256 on byte strings, as `hashlib` and `hmac` compute them. The rest of
the development uses only that the digests have 32 bytes. -/

namespace MyCogni.Sha256

abbrev Word := BitVec 32

def roundConstants : List Word :=
  [0x428a2f98, 0x71374491, 0xb5c0fbcf, 0xe9b5dba5, 0x3956c25b, 0x59f111f1, 0x923f82a4, 0xab1c5ed5,
   0xd807aa98, 0x12835b01, 0x243185be, 0x550c7dc3, 0x72be5d74, 0x80deb1fe, 0x9bdc06a7, 0xc19bf174,
   0xe49b69c1, 0xefbe4786, 0x0fc19dc6, 0x240ca1cc, 0x2de92c6f, 0x4a7484aa, 0x5cb0a9dc, 0x76f988da,
   0x983e5152, 0xa831c66d, 0xb00327c8, 0xbf597fc7, 0xc6e00bf3, 0xd5a79147, 0x06ca6351, 0x14292967,
   0x27b70a85, 0x2e1b2138, 0x4d2c6dfc, 0x53380d13, 0x650a7354, 0x766a0abb, 0x81c2c92e, 0x92722c85,
   0xa2bfe8a1, 0xa81a664b, 0xc24b8b70, 0xc76c51a3, 0xd192e819, 0xd6990624, 0xf40e3585, 0x106aa070,
   0x19a4c116, 0x1e376c08, 0x2748774c, 0x34b0bcb5, 0x391c0cb3, 0x4ed8aa4a, 0x5b9cca4f, 0x682e6ff3,
   0x748f82ee, 0x78a5636f, 0x84c87814, 0x8cc70208, 0x90befffa, 0xa4506ceb, 0xbef9a3f7, 0xc67178f2]

structure Hash where
  a : Word
  b : Word
  c : Word
  d : Word
  e : Word
  f : Word
  g : Word
  h : Word

def initial : Hash :=
  ⟨0x6a09e667, 0xbb67ae85, 0x3c6ef372, 0xa54ff53a, 0x510e527f, 0x9b05688c, 0x1f83d9ab, 0x5be0cd19⟩

def smallSigma0 (x : Word) : Word := x.rotateRight 7 ^^^ x.rotateRight 18 ^^^ x >>> 3

def smallSigma1 (x : Word) : Word := x.rotateRight 17 ^^^ x.rotateRight 19 ^^^ x >>> 10

def bigSigma0 (x : Word) : Word := x.rotateRight 2 ^^^ x.rotateRight 13 ^^^ x.rotateRight 22

def bigSigma1 (x : Word) : Word := x.rotateRight 6 ^^^ x.rotateRight 11 ^^^ x.rotateRight 25

def word (b : Bytes) : Word := BitVec.ofNat 32 (b.foldl (fun n x => 256 * n + x.toNat) 0)

/-- The last sixteen words of the message schedule, newest first, extended by one. -/
def extend (w : List Word) : List Word :=
  (smallSigma1 (w.getD 1 0) + w.getD 6 0 + smallSigma0 (w.getD 14 0) + w.getD 15 0) :: w

def schedule (block : Bytes) : List Word :=
  let input := (List.range 16).map fun i => word ((block.drop (4 * i)).take 4)
  (extend^[48] input.reverse).reverse

def round (s : Hash) (k w : Word) : Hash :=
  let t1 := s.h + bigSigma1 s.e + ((s.e &&& s.f) ^^^ (~~~s.e &&& s.g)) + k + w
  let t2 := bigSigma0 s.a + ((s.a &&& s.b) ^^^ (s.a &&& s.c) ^^^ (s.b &&& s.c))
  ⟨t1 + t2, s.a, s.b, s.c, s.d + t1, s.e, s.f, s.g⟩

def compress (s : Hash) (block : Bytes) : Hash :=
  let r := (roundConstants.zip (schedule block)).foldl (fun s kw => round s kw.1 kw.2) s
  ⟨s.a + r.a, s.b + r.b, s.c + r.c, s.d + r.d, s.e + r.e, s.f + r.f, s.g + r.g, s.h + r.h⟩

def pad (m : Bytes) : Bytes :=
  m ++ 0x80 :: List.replicate ((119 - m.length % 64) % 64) 0 ++ toBytesBE 8 (8 * m.length)

def digest (m : Bytes) : Bytes :=
  let p := pad m
  let s := (List.range (p.length / 64)).foldl
    (fun s i => compress s ((p.drop (64 * i)).take 64)) initial
  [s.a, s.b, s.c, s.d, s.e, s.f, s.g, s.h].flatMap fun w => toBytesBE 4 w.toNat

@[simp] theorem length_digest (m : Bytes) : (digest m).length = 32 := by
  simp only [digest, List.length_flatMap, length_toBytesBE, List.map_cons, List.map_nil,
    List.sum_cons, List.sum_nil, Nat.reduceAdd]

def blockKey (key : Bytes) : Bytes :=
  let k := if key.length > 64 then digest key else key
  k ++ List.replicate (64 - k.length) 0

def hmac (key m : Bytes) : Bytes :=
  digest ((blockKey key).map (· ^^^ 0x5c) ++ digest ((blockKey key).map (· ^^^ 0x36) ++ m))

@[simp] theorem length_hmac (key m : Bytes) : (hmac key m).length = 32 := length_digest _

attribute [irreducible] digest hmac

end MyCogni.Sha256
