/-!
# UTF-8

`encode` writes a text as bytes.  `pieces` takes any bytes apart into the characters that are
encoded well and, between them, the shortest runs of bytes that cannot be part of one; a byte that
breaks off a character begun before it may begin the next.  `decode?` accepts bytes that are
characters only, and `decodeLossy` puts one replacement character for each run of other bytes.
-/

namespace Paging.Text.Utf8

def encode (s : String) : List UInt8 := s.toList.flatMap String.utf8EncodeChar

/-! ## Taking bytes apart -/

inductive Piece
  | char (c : Char)
  /-- Bytes that are no character. -/
  | stray (bytes : List UInt8)
  deriving DecidableEq, Repr

/-- A character of which some bytes have been read. -/
structure Begun where
  bytes : List UInt8
  /-- The bits of its code point so far. -/
  value : Nat
  /-- How many bytes are to follow the next one. -/
  left : Nat
  /-- The least value of the next byte. -/
  low : UInt8
  /-- The greatest value of the next byte. -/
  high : UInt8
  deriving DecidableEq, Repr

/-- What a byte that starts afresh amounts to: a piece, or a character begun. -/
def first (b : UInt8) : Piece ⊕ Begun :=
  if b ≤ 0x7F then .inl (.char (Char.ofNat b.toNat))
  else if 0xC2 ≤ b ∧ b ≤ 0xDF then .inr ⟨[b], b.toNat - 0xC0, 0, 0x80, 0xBF⟩
  else if b = 0xE0 then .inr ⟨[b], 0, 1, 0xA0, 0xBF⟩
  else if b = 0xED then .inr ⟨[b], 0xD, 1, 0x80, 0x9F⟩
  else if 0xE1 ≤ b ∧ b ≤ 0xEF then .inr ⟨[b], b.toNat - 0xE0, 1, 0x80, 0xBF⟩
  else if b = 0xF0 then .inr ⟨[b], 0, 2, 0x90, 0xBF⟩
  else if 0xF1 ≤ b ∧ b ≤ 0xF3 then .inr ⟨[b], b.toNat - 0xF0, 2, 0x80, 0xBF⟩
  else if b = 0xF4 then .inr ⟨[b], 4, 2, 0x80, 0x8F⟩
  else .inl (.stray [b])

/-- The pieces of the bytes that follow a character begun, if there is one. -/
def piecesFrom : Option Begun → List UInt8 → List Piece
  | none, [] => []
  | some p, [] => [.stray p.bytes]
  | none, b :: bs =>
    match first b with
    | .inl x => x :: piecesFrom none bs
    | .inr p => piecesFrom (some p) bs
  | some p, b :: bs =>
    if p.low ≤ b ∧ b ≤ p.high then
      match p.left with
      | 0 => .char (Char.ofNat (p.value * 64 + (b.toNat - 0x80))) :: piecesFrom none bs
      | n + 1 =>
        piecesFrom (some ⟨p.bytes ++ [b], p.value * 64 + (b.toNat - 0x80), n, 0x80, 0xBF⟩) bs
    else
      .stray p.bytes ::
        match first b with
        | .inl x => x :: piecesFrom none bs
        | .inr q => piecesFrom (some q) bs

def pieces (bytes : List UInt8) : List Piece := piecesFrom none bytes

/-! ## Decoding -/

/-- The characters of the pieces, if all are characters. -/
def chars? : List Piece → Option (List Char)
  | [] => some []
  | .char c :: ps => (chars? ps).map (c :: ·)
  | .stray _ :: _ => none

def decode? (bytes : List UInt8) : Option String := (chars? (pieces bytes)).map String.ofList

/-- A character as itself, and other bytes as the replacement character. -/
def Piece.toChar : Piece → Char
  | char c => c
  | stray _ => '\uFFFD'

def decodeLossy (bytes : List UInt8) : String := String.ofList ((pieces bytes).map Piece.toChar)

end Paging.Text.Utf8
