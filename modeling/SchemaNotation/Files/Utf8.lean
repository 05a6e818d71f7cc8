/-! Decoding UTF-8 bytes into text, with the reason a decoding fails.

A character is one to four bytes: an ASCII byte, or a lead byte `C2`–`F4` followed by the right
number of continuation bytes `80`–`BF`, where the second byte after `E0`, `ED`, `F0` and `F4` is
narrowed so that no character is encoded too long, is a surrogate, or lies beyond `10FFFF`. A
failure names the bytes of the longest valid start of a character at the point of failure: a
byte that cannot start a character, a character cut short by a byte that cannot continue it, or
a character cut short by the end of the input. -/

namespace SchemaNotation.Utf8

/-- Why decoding stopped. -/
inductive Reason where
  | invalidStart
  | invalidContinuation
  | unexpectedEnd
deriving BEq, Repr, Inhabited, DecidableEq

/-- A decoding failure: the reason and the positions of the first and last offending bytes. -/
structure Failure where
  reason : Reason
  first : Nat
  last : Nat
  byte : UInt8
deriving BEq, Repr, Inhabited

/-- The number of continuation bytes after a lead byte, and the range of the first of them. -/
def leadShape (b : UInt8) : Option (Nat × UInt8 × UInt8) :=
  if b < 0xC2 then none
  else if b < 0xE0 then some (1, 0x80, 0xBF)
  else if b == 0xE0 then some (2, 0xA0, 0xBF)
  else if b == 0xED then some (2, 0x80, 0x9F)
  else if b < 0xF0 then some (2, 0x80, 0xBF)
  else if b == 0xF0 then some (3, 0x90, 0xBF)
  else if b < 0xF4 then some (3, 0x80, 0xBF)
  else if b == 0xF4 then some (3, 0x80, 0x8F)
  else none

/-- How many of the bytes `rest` continue a character that needs `need` continuation bytes,
the first within `lo`–`hi`; and whether the input ended before the character was complete. -/
def continuation (rest : List UInt8) (need : Nat) (lo hi : UInt8) : Nat × Bool :=
  let rec go : List UInt8 → Nat → Bool → Nat
    | [], _, _ => 0
    | b :: more, k, isFirst =>
      if k == 0 then 0
      else if (if isFirst then lo ≤ b && b ≤ hi else 0x80 ≤ b && b ≤ 0xBF) then 1 + go more (k - 1) false
      else 0
  let n := go rest need true
  (n, n < need && n == rest.length)

/-- The code point of a lead byte and its continuation bytes. -/
def codePoint (lead : UInt8) (conts : List UInt8) : Nat :=
  let start := match conts.length with
    | 1 => lead.toNat % 0x20
    | 2 => lead.toNat % 0x10
    | _ => lead.toNat % 0x08
  conts.foldl (fun acc b => acc * 64 + b.toNat % 64) start

/-- Decodes bytes from position `pos`, collecting characters in reverse. -/
def decodeFrom : List UInt8 → Nat → List Char → Except Failure (List Char)
  | [], _, acc => .ok acc.reverse
  | b :: rest, pos, acc =>
    if b < 0x80 then decodeFrom rest (pos + 1) (Char.ofNat b.toNat :: acc)
    else
      match leadShape b with
      | none => .error ⟨.invalidStart, pos, pos, b⟩
      | some (need, lo, hi) =>
        let (n, ended) := continuation rest need lo hi
        if n == need then
          decodeFrom (rest.drop need) (pos + 1 + need) (Char.ofNat (codePoint b (rest.take need)) :: acc)
        else if ended then .error ⟨.unexpectedEnd, pos, pos + n, b⟩
        else .error ⟨.invalidContinuation, pos, pos + n, b⟩
termination_by bytes => bytes.length
decreasing_by
  all_goals
    simp only [List.length_drop, List.length_cons]
    omega

/-- The text of UTF-8 bytes, or why they are not UTF-8. -/
def decode (bytes : ByteArray) : Except Failure String :=
  (decodeFrom bytes.toList 0 []).map String.ofList

/-- Two lowercase hex digits of a byte. -/
def hexByte (b : UInt8) : String :=
  let digit (k : Nat) : Char := if k < 10 then Char.ofNat (48 + k) else Char.ofNat (87 + k)
  String.ofList [digit (b.toNat / 16), digit (b.toNat % 16)]

/-- The message of a decoding failure. -/
def Failure.message (f : Failure) : String :=
  let reason := match f.reason with
    | .invalidStart => "invalid start byte"
    | .invalidContinuation => "invalid continuation byte"
    | .unexpectedEnd => "unexpected end of data"
  if f.first == f.last then
    "'utf-8' codec can't decode byte 0x" ++ hexByte f.byte ++ " in position " ++ toString f.first ++
      ": " ++ reason
  else
    "'utf-8' codec can't decode bytes in position " ++ toString f.first ++ "-" ++ toString f.last ++
      ": " ++ reason

end SchemaNotation.Utf8
