import SqlMigration.Text.Quoted

/-!
# UTF-8

Encoding text as UTF-8 bytes, and decoding bytes the way a strict incremental decoder does,
error reports included.

A decoder reads one character at a time. A lead byte of 0x80–0xC1 or 0xF5–0xFF is an *invalid
start byte*. After a valid lead byte every further byte of the character must be a continuation
byte (0x80–0xBF); the first one is narrower after 0xE0 (0xA0–0xBF, no overlong forms), 0xED
(0x80–0x9F, no surrogates), 0xF0 (0x90–0xBF) and 0xF4 (0x80–0x8F, nothing above U+10FFFF). A
byte that breaks this is an *invalid continuation byte*, and the error covers the bytes of the
character read before it. Bytes that end in the middle of a character are *unexpected end of
data* when the input is final, and are kept for the next call otherwise; so is a lead byte 0xED
followed by 0xA0–0xBF at the very end of a call that is not final.

`decodeChunks` feeds a file to such a decoder in chunks, as a buffered text reader does, and
answers the text decoded before the first error together with that error.
-/

namespace SqlMigration.Text.Utf8

/-! ## Encoding -/

/-- The UTF-8 bytes of one character. -/
def encodeChar (c : Char) : List UInt8 :=
  let n := c.toNat
  if n < 0x80 then [n.toUInt8]
  else if n < 0x800 then [(0xC0 + n / 0x40).toUInt8, (0x80 + n % 0x40).toUInt8]
  else if n < 0x10000 then
    [(0xE0 + n / 0x1000).toUInt8, (0x80 + n / 0x40 % 0x40).toUInt8, (0x80 + n % 0x40).toUInt8]
  else
    [(0xF0 + n / 0x40000).toUInt8, (0x80 + n / 0x1000 % 0x40).toUInt8,
      (0x80 + n / 0x40 % 0x40).toUInt8, (0x80 + n % 0x40).toUInt8]

def encodeList : List Char → List UInt8
  | [] => []
  | c :: cs => encodeChar c ++ encodeList cs

def encode (s : String) : List UInt8 := encodeList s.toList

/-! ## Decoding -/

/-- The ways a byte sequence fails to be UTF-8. -/
inductive Fault where
  | invalidStart
  | invalidContinuation
  | unexpectedEnd
  deriving DecidableEq, Repr

/-- The reason as a decoder states it. -/
def Fault.text : Fault → String
  | .invalidStart => "invalid start byte"
  | .invalidContinuation => "invalid continuation byte"
  | .unexpectedEnd => "unexpected end of data"

/-- A decoding error: the first byte of the offending range, the range's start and end
(exclusive) positions in the bytes of the call, and the fault. -/
structure DecodeError where
  byte : UInt8
  start : Nat
  stop : Nat
  fault : Fault
  deriving DecidableEq, Repr

/-- `'utf-8' codec can't decode byte 0xhh in position p: reason`, or, for a range of several
bytes, `bytes in position p-q`. -/
def DecodeError.message (e : DecodeError) : String :=
  "'utf-8' codec can't decode " ++
    (if e.stop = e.start + 1 then
      "byte 0x" ++ String.ofList (Text.hexDigits e.byte.toNat 2) ++ " in position " ++
        toString e.start
    else "bytes in position " ++ toString e.start ++ "-" ++ toString (e.stop - 1)) ++
    ": " ++ e.fault.text

/-- The number of continuation bytes a lead byte announces, or none for an invalid start. -/
def continuations (b : UInt8) : Option Nat :=
  if b < 0x80 then some 0
  else if b < 0xC2 then none
  else if b < 0xE0 then some 1
  else if b < 0xF0 then some 2
  else if b < 0xF5 then some 3
  else none

/-- The range the first continuation byte after a lead byte must lie in. -/
def firstRange (lead : UInt8) : UInt8 × UInt8 :=
  if lead = 0xE0 then (0xA0, 0xBF)
  else if lead = 0xED then (0x80, 0x9F)
  else if lead = 0xF0 then (0x90, 0xBF)
  else if lead = 0xF4 then (0x80, 0x8F)
  else (0x80, 0xBF)

/-- The payload bits of a lead byte announcing `k` continuation bytes. -/
def leadBits (lead : UInt8) (k : Nat) : Nat :=
  if k = 1 then lead.toNat % 0x20 else if k = 2 then lead.toNat % 0x10 else lead.toNat % 0x08

/-- A character begun but not finished: its lead byte, where it started, the code point bits
read so far, how many continuation bytes it has and how many are still owed. -/
structure Partial where
  lead : UInt8
  start : Nat
  bits : Nat
  read : Nat
  owed : Nat
  deriving DecidableEq, Repr

/-- What one call of the decoder gives: the characters decoded, then either an error or the
bytes of an unfinished character kept for the next call. -/
structure Decoded where
  chars : List Char
  error : Option DecodeError := none
  kept : List UInt8 := []
  deriving DecidableEq, Repr

/-- Decodes `bs`, starting at position `pos`, with `cur` the character in progress; `seen` are
the bytes of that character, most recent first. -/
def decodeFrom (final : Bool) (pos : Nat) (cur : Option Partial) (seen : List UInt8) :
    List UInt8 → Decoded
  | [] =>
    match cur with
    | none => ⟨[], none, []⟩
    | some p =>
      if final then ⟨[], some ⟨p.lead, p.start, pos, .unexpectedEnd⟩, []⟩
      else ⟨[], none, seen.reverse⟩
  | b :: rest =>
    match cur with
    | none =>
      match continuations b with
      | none => ⟨[], some ⟨b, pos, pos + 1, .invalidStart⟩, []⟩
      | some 0 =>
        let d := decodeFrom final (pos + 1) none [] rest
        { d with chars := Char.ofNat b.toNat :: d.chars }
      | some k => decodeFrom final (pos + 1) (some ⟨b, pos, leadBits b k, 0, k⟩) [b] rest
    | some p =>
      let (lo, hi) := if p.read = 0 then firstRange p.lead else (0x80, 0xBF)
      if lo ≤ b ∧ b ≤ hi then
        let bits := p.bits * 0x40 + b.toNat % 0x40
        if p.owed = 1 then
          let d := decodeFrom final (pos + 1) none [] rest
          { d with chars := Char.ofNat bits :: d.chars }
        else decodeFrom final (pos + 1) (some { p with bits, read := p.read + 1, owed := p.owed - 1 })
          (b :: seen) rest
      else if ¬ final ∧ rest.isEmpty ∧ p.lead = 0xED ∧ p.read = 0 ∧ 0xA0 ≤ b ∧ b ≤ 0xBF then
        ⟨[], none, [p.lead, b]⟩
      else ⟨[], some ⟨p.lead, p.start, pos, .invalidContinuation⟩, []⟩

/-- One call of the decoder on some bytes. -/
def decodeCall (final : Bool) (bs : List UInt8) : Decoded := decodeFrom final 0 none [] bs

/-- Decodes a whole text at once: its characters, or the first error. -/
def decode (bs : List UInt8) : Except DecodeError String :=
  let d := decodeCall true bs
  match d.error with
  | some e => .error e
  | none => .ok (String.ofList d.chars)

/-- Decodes bytes, writing U+FFFD for each offending range and going on after it. -/
def decodeLossy (bs : List UInt8) : List Char :=
  go bs.length bs
where
  go : Nat → List UInt8 → List Char
    | 0, _ => []
    | fuel + 1, bs =>
      let d := decodeCall true bs
      match d.error with
      | none => d.chars
      | some e => d.chars ++ '\uFFFD' :: go fuel (bs.drop (max e.stop 1))

/-- The bytes in chunks of `n` (the last may be shorter). -/
def chunksOf (n : Nat) (bs : List UInt8) : List (List UInt8) :=
  go bs.length bs
where
  go : Nat → List UInt8 → List (List UInt8)
    | 0, _ => []
    | fuel + 1, bs => if bs.isEmpty then [] else bs.take n :: go fuel (bs.drop (max n 1))

/-- A stream's decoded text and the error that stopped it, if one did. -/
structure Streamed where
  text : List Char
  error : Option DecodeError := none
  deriving DecidableEq, Repr

/-- Feeds the chunks to the decoder, each after the bytes the previous call kept, and ends
with a final call on what is kept last. -/
def feed (kept : List UInt8) : List (List UInt8) → Streamed
  | [] =>
    let d := decodeCall true kept
    ⟨d.chars, d.error⟩
  | c :: cs =>
    let d := decodeCall false (kept ++ c)
    match d.error with
    | some e => ⟨[], some e⟩
    | none =>
      let s := feed d.kept cs
      { s with text := d.chars ++ s.text }

/-- The size of the chunks a buffered text reader decodes. -/
def chunkSize : Nat := 8192

/-- Decodes a file as a buffered text reader does. -/
def decodeChunks (bs : List UInt8) : Streamed := feed [] (chunksOf chunkSize bs)

end SqlMigration.Text.Utf8
