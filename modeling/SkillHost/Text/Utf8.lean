import SkillHost.Text.Basic

/-! Text as UTF-8 bytes, and any bytes as text. A reader of bytes finds every character that is
well formed; of the bytes between them each longest beginning of a character that is not
completed makes one piece, and so does each byte that begins none. -/
namespace SkillHost.Text

def toBytes (t : Text) : List UInt8 := t.flatMap String.utf8EncodeChar

inductive Piece where
  | char (c : Char)
  | stray (bytes : List UInt8)
  deriving DecidableEq

inductive Utf8Scan where
  | between
  /-- `seen` are the bytes of a character so far. `missing + 1` bytes are missing, and the next
  lies from `low` to `high`; `code` is the number that the bytes so far give. -/
  | inside (seen : List UInt8) (missing code low high : Nat)

namespace Utf8Scan

/-- What a byte between characters gives, and the scan that it starts. No character takes more
bytes than it needs, is a surrogate, or lies above U+10FFFF. -/
def start (b : UInt8) : List Piece × Utf8Scan :=
  let n := b.toNat
  if n < 0x80 then ([.char (Char.ofNat n)], between)
  else if n < 0xc2 ∨ 0xf4 < n then ([.stray [b]], between)
  else if n < 0xe0 then ([], inside [b] 0 (n - 0xc0) 0x80 0xbf)
  else if n < 0xf0 then
    ([], inside [b] 1 (n - 0xe0) (if n = 0xe0 then 0xa0 else 0x80) (if n = 0xed then 0x9f else 0xbf))
  else
    ([], inside [b] 2 (n - 0xf0) (if n = 0xf0 then 0x90 else 0x80) (if n = 0xf4 then 0x8f else 0xbf))

def next : Utf8Scan → UInt8 → List Piece × Utf8Scan
  | between, b => start b
  | inside seen missing code low high, b =>
    if low ≤ b.toNat ∧ b.toNat ≤ high then
      let code := code * 0x40 + (b.toNat - 0x80)
      match missing with
      | 0 => ([.char (Char.ofNat code)], between)
      | missing + 1 => ([], inside (seen ++ [b]) missing code 0x80 0xbf)
    else (.stray seen :: (start b).1, (start b).2)

end Utf8Scan

def piecesFrom : Utf8Scan → List UInt8 → List Piece
  | .between, [] => []
  | .inside seen _ _ _ _, [] => [.stray seen]
  | s, b :: rest => (s.next b).1 ++ piecesFrom (s.next b).2 rest

def pieces (bytes : List UInt8) : List Piece := piecesFrom .between bytes

def Piece.shown : Piece → Char
  | char c => c
  | stray _ => '\ufffd'

def ofBytes (bytes : List UInt8) : Text := (pieces bytes).map Piece.shown

end SkillHost.Text
