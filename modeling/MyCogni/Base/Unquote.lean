import MyCogni.Base.Bytes

/-! `urllib.parse.unquote`: percent escapes of the ASCII parts of a text, read as UTF-8, where what is
not UTF-8 is replaced. -/

namespace MyCogni.Url

/-! ### UTF-8 with replacement -/

/-- What a first byte announces: how many bytes follow, between what the next one lies, and the bits
that the first one gives. -/
structure Announced where
  follow : Nat
  low : Nat := 0x80
  high : Nat := 0xbf
  value : Nat

def announced (b : Nat) : Option Announced :=
  if b < 0x80 then some { follow := 0, value := b }
  else if b < 0xc2 then none
  else if b < 0xe0 then some { follow := 1, value := b % 0x20 }
  else if b < 0xf0 then
    some { follow := 2, value := b % 0x10, low := if b = 0xe0 then 0xa0 else 0x80,
           high := if b = 0xed then 0x9f else 0xbf }
  else if b < 0xf5 then
    some { follow := 3, value := b % 0x08, low := if b = 0xf0 then 0x90 else 0x80,
           high := if b = 0xf4 then 0x8f else 0xbf }
  else none

/-- The text of these bytes, where those before them have announced some. -/
def decodeFrom : Option Announced → Bytes → Text
  | none, [] => []
  | some _, [] => ['\ufffd']
  | pending, b :: bs =>
    let first :=
      match announced b.toNat with
      | none => '\ufffd' :: decodeFrom none bs
      | some a => if a.follow = 0 then Char.ofNat a.value :: decodeFrom none bs
        else decodeFrom (some a) bs
    match pending with
    | none => first
    | some a =>
      if a.low ≤ b.toNat ∧ b.toNat ≤ a.high then
        let value := a.value * 0x40 + b.toNat % 0x40
        if a.follow = 1 then Char.ofNat value :: decodeFrom none bs
        else decodeFrom (some { follow := a.follow - 1, value }) bs
      else '\ufffd' :: first

/-- `bs.decode("utf-8", "replace")` -/
def decodeReplace (bs : Bytes) : Text := decodeFrom none bs

/-! ### Percent escapes -/

def unquoteToBytes : Text → Bytes
  | [] => []
  | c :: t =>
    match c, t with
    | '%', a :: b :: rest =>
      match hexValue a, hexValue b with
      | some x, some y => UInt8.ofNat (16 * x + y) :: unquoteToBytes rest
      | _, _ => UInt8.ofNat '%'.toNat :: unquoteToBytes (a :: b :: rest)
    | c, t => UInt8.ofNat c.toNat :: unquoteToBytes t

def isAsciiChar (c : Char) : Bool := c.toNat < 128

def unquote (t : Text) : Text :=
  if '%' ∈ t then
    (t.splitBy fun a b => isAsciiChar a == isAsciiChar b).flatMap fun part =>
      if part.all isAsciiChar then decodeReplace (unquoteToBytes part) else part
  else t

end MyCogni.Url
