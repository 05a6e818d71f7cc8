/-! The SHA-256 digest.

The message is padded with a one bit, zeros, and its length in bits as a 64-bit big-endian
number, to a multiple of 64 bytes. Each 64-byte block extends to a schedule of 64 words and goes
through 64 rounds of compression into the eight-word state. The digest is the final state, written
big-endian as 64 lowercase hex digits. -/

namespace SchemaNotation.Sha256

/-- The round constants. -/
def roundConstants : Array UInt32 := #[
  0x428a2f98, 0x71374491, 0xb5c0fbcf, 0xe9b5dba5, 0x3956c25b, 0x59f111f1, 0x923f82a4, 0xab1c5ed5,
  0xd807aa98, 0x12835b01, 0x243185be, 0x550c7dc3, 0x72be5d74, 0x80deb1fe, 0x9bdc06a7, 0xc19bf174,
  0xe49b69c1, 0xefbe4786, 0x0fc19dc6, 0x240ca1cc, 0x2de92c6f, 0x4a7484aa, 0x5cb0a9dc, 0x76f988da,
  0x983e5152, 0xa831c66d, 0xb00327c8, 0xbf597fc7, 0xc6e00bf3, 0xd5a79147, 0x06ca6351, 0x14292967,
  0x27b70a85, 0x2e1b2138, 0x4d2c6dfc, 0x53380d13, 0x650a7354, 0x766a0abb, 0x81c2c92e, 0x92722c85,
  0xa2bfe8a1, 0xa81a664b, 0xc24b8b70, 0xc76c51a3, 0xd192e819, 0xd6990624, 0xf40e3585, 0x106aa070,
  0x19a4c116, 0x1e376c08, 0x2748774c, 0x34b0bcb5, 0x391c0cb3, 0x4ed8aa4a, 0x5b9cca4f, 0x682e6ff3,
  0x748f82ee, 0x78a5636f, 0x84c87814, 0x8cc70208, 0x90befffa, 0xa4506ceb, 0xbef9a3f7, 0xc67178f2]

/-- The initial state. -/
def initialState : Array UInt32 :=
  #[0x6a09e667, 0xbb67ae85, 0x3c6ef372, 0xa54ff53a, 0x510e527f, 0x9b05688c, 0x1f83d9ab, 0x5be0cd19]

/-- Rotation of a word to the right. -/
def rotr (x : UInt32) (n : UInt32) : UInt32 := (x >>> n) ||| (x <<< (32 - n))

/-- The word of four big-endian bytes. -/
def word (b : List UInt8) : UInt32 :=
  b.foldl (fun acc x => (acc <<< 8) ||| x.toUInt32) 0

/-- The message schedule of one block: its sixteen words extended to sixty-four. -/
def schedule (block : List UInt8) : Array UInt32 := Id.run do
  let mut w : Array UInt32 := #[]
  for i in [0:16] do
    w := w.push (word ((block.drop (4 * i)).take 4))
  for i in [16:64] do
    let x := w.getD (i - 15) 0
    let y := w.getD (i - 2) 0
    let s0 := rotr x 7 ^^^ rotr x 18 ^^^ (x >>> 3)
    let s1 := rotr y 17 ^^^ rotr y 19 ^^^ (y >>> 10)
    w := w.push (w.getD (i - 16) 0 + s0 + w.getD (i - 7) 0 + s1)
  return w

/-- The state after compressing one block into it. -/
def compress (state : Array UInt32) (block : List UInt8) : Array UInt32 := Id.run do
  let w := schedule block
  let mut v := state
  for i in [0:64] do
    let a := v.getD 0 0
    let e := v.getD 4 0
    let s1 := rotr e 6 ^^^ rotr e 11 ^^^ rotr e 25
    let ch := (e &&& v.getD 5 0) ^^^ ((~~~ e) &&& v.getD 6 0)
    let t1 := v.getD 7 0 + s1 + ch + roundConstants.getD i 0 + w.getD i 0
    let s0 := rotr a 2 ^^^ rotr a 13 ^^^ rotr a 22
    let maj := (a &&& v.getD 1 0) ^^^ (a &&& v.getD 2 0) ^^^ (v.getD 1 0 &&& v.getD 2 0)
    let t2 := s0 + maj
    v := #[t1 + t2, a, v.getD 1 0, v.getD 2 0, v.getD 3 0 + t1, e, v.getD 5 0, v.getD 6 0]
  return (state.zip v).map fun (x, y) => x + y

/-- The padded message: a one bit, zeros, and the length in bits. -/
def pad (msg : List UInt8) : List UInt8 :=
  let bits := 8 * msg.length
  let zeros := (119 - msg.length % 64) % 64
  let length : List UInt8 := (List.range 8).reverse.map fun k => (bits >>> (8 * k)).toUInt8
  msg ++ [0x80] ++ List.replicate zeros (0 : UInt8) ++ length

/-- The state after compressing the blocks of a padded message, at most `fuel` of them. -/
def compressAll : Nat → Array UInt32 → List UInt8 → Array UInt32
  | 0, state, _ => state
  | fuel + 1, state, bytes =>
    if bytes.isEmpty then state else compressAll fuel (compress state (bytes.take 64)) (bytes.drop 64)

/-- Two lowercase hex digits of a byte. -/
def hexByte (b : UInt8) : String :=
  let digit (k : Nat) : Char := if k < 10 then Char.ofNat (48 + k) else Char.ofNat (87 + k)
  String.ofList [digit (b.toNat / 16), digit (b.toNat % 16)]

/-- The digest of a message as 64 lowercase hex digits. -/
def hexDigest (msg : List UInt8) : String :=
  let padded := pad msg
  let state := compressAll (padded.length / 64 + 1) initialState padded
  String.join (state.toList.flatMap fun (x : UInt32) =>
    [(x >>> 24).toUInt8, (x >>> 16).toUInt8, (x >>> 8).toUInt8, x.toUInt8].map hexByte)

/-- The digest of a text's UTF-8 bytes. -/
def ofText (s : String) : String := hexDigest s.toUTF8.toList

end SchemaNotation.Sha256
