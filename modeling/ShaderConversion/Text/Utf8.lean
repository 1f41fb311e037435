import ShaderConversion.Text.Basic

namespace ShaderConversion.Utf8

def encode (s : Text) : List UInt8 := s.flatMap String.utf8EncodeChar

def size (s : Text) : Nat := s.foldr (fun c n => c.utf8Size + n) 0

theorem length_encode (s : Text) : (encode s).length = size s := by
  induction s with
  | nil => rfl
  | cons c s ih => simp_all [encode, size, String.length_utf8EncodeChar]

theorem encode_append (s t : Text) : encode (s ++ t) = encode s ++ encode t := List.flatMap_append

-- What a byte sequence is made of: characters, byte runs that no character
-- starts with, and at the very end the beginning of a character.
inductive Piece where
  | char (c : Char)
  | flaw (length : Nat)
  | cut (length : Nat)
  deriving DecidableEq, Repr

structure Awaiting where
  more : Nat
  low : UInt8
  high : UInt8
  value : Nat
  seen : Nat

-- The multi-byte characters a byte can begin. The bounds on the second byte
-- exclude overlong forms, surrogates and values beyond U+10FFFF.
def Awaiting.ofLead? (b : UInt8) : Option Awaiting :=
  if b < 0xC2 then none
  else if b < 0xE0 then some ⟨0, 0x80, 0xBF, b.toNat % 32, 1⟩
  else if b = 0xE0 then some ⟨1, 0xA0, 0xBF, 0, 1⟩
  else if b = 0xED then some ⟨1, 0x80, 0x9F, 13, 1⟩
  else if b < 0xF0 then some ⟨1, 0x80, 0xBF, b.toNat % 16, 1⟩
  else if b = 0xF0 then some ⟨2, 0x90, 0xBF, 0, 1⟩
  else if b < 0xF4 then some ⟨2, 0x80, 0xBF, b.toNat % 8, 1⟩
  else if b = 0xF4 then some ⟨2, 0x80, 0x8F, 4, 1⟩
  else none

structure Progress where
  pieces : List Piece
  awaiting : Option Awaiting

def Progress.lead (pieces : List Piece) (b : UInt8) : Progress :=
  if b < 0x80 then ⟨.char (Char.ofNat b.toNat) :: pieces, none⟩
  else match Awaiting.ofLead? b with
    | none => ⟨.flaw 1 :: pieces, none⟩
    | some awaiting => ⟨pieces, some awaiting⟩

-- A byte that does not continue the character being read ends it as a flaw and
-- is itself read as the beginning of something new.
def Progress.step (p : Progress) (b : UInt8) : Progress :=
  match p.awaiting with
  | none => Progress.lead p.pieces b
  | some a =>
    if a.low ≤ b ∧ b ≤ a.high then
      let value := a.value * 64 + b.toNat % 64
      match a.more with
      | 0 => ⟨.char (Char.ofNat value) :: p.pieces, none⟩
      | more + 1 => ⟨p.pieces, some ⟨more, 0x80, 0xBF, value, a.seen + 1⟩⟩
    else Progress.lead (.flaw a.seen :: p.pieces) b

def Progress.finish (p : Progress) : List Piece :=
  match p.awaiting with
  | none => p.pieces.reverse
  | some a => (.cut a.seen :: p.pieces).reverse

def pieces (bytes : List UInt8) : List Piece :=
  (bytes.foldl Progress.step ⟨[], none⟩).finish

def replacement : Char := '\uFFFD'

def Piece.shown : Piece → Char
  | .char c => c
  | .flaw _ => replacement
  | .cut _ => replacement

def decode (bytes : List UInt8) : Text := (pieces bytes).map Piece.shown

structure Fault where
  index : Nat
  length? : Option Nat
  deriving DecidableEq, Repr

def Fault.message (fault : Fault) : String :=
  match fault.length? with
  | some length => s!"invalid utf-8 sequence of {length} bytes from index {fault.index}"
  | none => s!"incomplete utf-8 byte sequence from index {fault.index}"

def firstFault (index : Nat) : List Piece → Option Fault
  | [] => none
  | .char c :: rest => firstFault (index + c.utf8Size) rest
  | .flaw length :: _ => some ⟨index, some length⟩
  | .cut _ :: _ => some ⟨index, none⟩

def fault? (bytes : List UInt8) : Option Fault := firstFault 0 (pieces bytes)

def decodeStrict (bytes : List UInt8) : Except Fault Text :=
  match fault? bytes with
  | none => .ok (decode bytes)
  | some fault => .error fault

end ShaderConversion.Utf8
