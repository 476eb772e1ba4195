/-
Module: Marginalia.Text.Utf8
Purpose: The octet form of text. Writing comes in two strengths: `encode` gives every code point its
  octets, a lone surrogate three of them, and is the form in which offsets are counted; `encodeStrict`
  refuses surrogates and says where they stand. Reading is strict: `decode` accepts exactly the well-formed
  sequences (no overlong form, no encoded surrogate, nothing above the last code point) and otherwise
  reports the first faulty sequence, that is the lead octet together with the continuation octets that were
  still allowed after it. `decodeSkipping` drops faulty sequences instead of reporting them.
Main exports: Octets, CodePoint.width, CodePoint.encode, Text.encode, leadWidth, decode, DecodeFault,
  encodeStrict, EncodeFault, decodeSkipping
-/

import Marginalia.Text.Basic

namespace Marginalia

/-- A file's content or a text's octet form. -/
abbrev Octets := List UInt8

namespace CodePoint

/-- The number of octets that a code point takes. -/
def width (c : CodePoint) : Nat :=
  if c.val < 0x80 then 1
  else if c.val < 0x800 then 2
  else if c.val < 0x10000 then 3
  else 4

/-- A continuation octet holds six bits. -/
def continuation (n : Nat) : UInt8 := UInt8.ofNat (0x80 + n % 0x40)

/-- The octets of a code point; the lead octet says how many follow. -/
def encode (c : CodePoint) : Octets :=
  if c.val < 0x80 then [UInt8.ofNat c.val]
  else if c.val < 0x800 then [UInt8.ofNat (0xC0 + c.val / 0x40), continuation c.val]
  else if c.val < 0x10000 then
    [UInt8.ofNat (0xE0 + c.val / 0x1000), continuation (c.val / 0x40), continuation c.val]
  else
    [UInt8.ofNat (0xF0 + c.val / 0x40000), continuation (c.val / 0x1000),
      continuation (c.val / 0x40), continuation c.val]

end CodePoint

/-- The octet form of a text; lone surrogates take three octets each. -/
def Text.encode (t : Text) : Octets := t.flatMap CodePoint.encode

/-- No code point takes more than four octets. -/
theorem Text.length_encode_le (t : Text) : t.encode.length ≤ 4 * t.length := by
  induction t with
  | nil => exact Nat.le_refl 0
  | cons c rest ih =>
      have width_le : c.encode.length ≤ 4 := by
        unfold CodePoint.encode
        split
        · exact Nat.le_add_left 1 3
        split
        · exact Nat.le_add_left 2 2
        split
        · exact Nat.le_add_left 3 1
        · exact Nat.le_refl 4
      rw [encode] at ih
      rw [encode, List.flatMap_cons, List.length_append, List.length_cons]
      omega

namespace Utf8

/-- How many octets the sequence behind a lead octet has. An octet that leads no sequence counts alone, so
    that a walk over any octets advances. -/
def leadWidth (lead : Int) : Nat :=
  if lead < 0x80 then 1
  else if 0xC0 ≤ lead ∧ lead < 0xE0 then 2
  else if 0xE0 ≤ lead ∧ lead < 0xF0 then 3
  else if 0xF0 ≤ lead ∧ lead < 0xF8 then 4
  else 1

/-!
### Strict reading

The reader takes one octet at a time. Between two sequences it stands at a start; inside one it knows how
many octets are still due, which of them the next may be, and what the octets so far amount to.
-/

/-- Why a sequence is refused. -/
inductive DecodeReason where
  | invalidStart
  | invalidContinuation
  | unexpectedEnd
deriving DecidableEq, Repr

/-- The wording of a reason. -/
def DecodeReason.message : DecodeReason → Text
  | .invalidStart => "invalid start byte"
  | .invalidContinuation => "invalid continuation byte"
  | .unexpectedEnd => "unexpected end of data"

/-- The first faulty sequence of some octets: where it starts, its lead octet, how many of its octets are
    to blame, and why. -/
structure DecodeFault where
  start : Nat
  lead : UInt8
  count : Nat
  reason : DecodeReason
deriving DecidableEq, Repr

/-- A sequence under way. `seen` octets were taken from position `start` on and amount to `value`; `due`
    more are expected after the next one, which must lie between `low` and `high`. -/
structure Pending where
  start : Nat
  lead : UInt8
  seen : Nat
  due : Nat
  low : Nat
  high : Nat
  value : Nat
deriving DecidableEq, Repr

/-- What a first octet begins. -/
inductive Opening where
  | complete (c : CodePoint)
  | sequence (p : Pending)
  | refused
deriving DecidableEq

/-- The meaning of an octet at a start. The second octet of a sequence is narrowed where the full range
    would admit an overlong form, a surrogate or a number past the last code point. -/
def opening (position : Nat) (octet : UInt8) : Opening :=
  let n := octet.toNat
  let begin (due low high value : Nat) : Opening := .sequence ⟨position, octet, 1, due, low, high, value⟩
  if n < 0x80 then .complete (CodePoint.ofNat n)
  else if n < 0xC2 then .refused
  else if n < 0xE0 then begin 0 0x80 0xBF (n - 0xC0)
  else if n = 0xE0 then begin 1 0xA0 0xBF (n - 0xE0)
  else if n = 0xED then begin 1 0x80 0x9F (n - 0xE0)
  else if n < 0xF0 then begin 1 0x80 0xBF (n - 0xE0)
  else if n = 0xF0 then begin 2 0x90 0xBF (n - 0xF0)
  else if n < 0xF4 then begin 2 0x80 0xBF (n - 0xF0)
  else if n = 0xF4 then begin 2 0x80 0x8F (n - 0xF0)
  else .refused

/-- Whether an octet continues the sequence under way. -/
def Pending.admits (p : Pending) (octet : UInt8) : Bool :=
  p.low ≤ octet.toNat && octet.toNat ≤ p.high

/-- The value of a sequence after one more octet. -/
def Pending.extended (p : Pending) (octet : UInt8) : Nat := p.value * 0x40 + (octet.toNat - 0x80)

/-- The sequence under way after one more octet that is not its last. -/
def Pending.advance (p : Pending) (octet : UInt8) : Pending :=
  { p with seen := p.seen + 1, due := p.due - 1, low := 0x80, high := 0xBF, value := p.extended octet }

/-- The fault of a sequence that breaks off. -/
def Pending.fault (p : Pending) (reason : DecodeReason) : DecodeFault := ⟨p.start, p.lead, p.seen, reason⟩

/-- Read octets from a position on, with at most one sequence under way. -/
def decodeFrom (position : Nat) (pending : Option Pending) : Octets → Except DecodeFault Text
  | [] =>
    match pending with
    | none => .ok []
    | some p => .error (p.fault .unexpectedEnd)
  | octet :: rest =>
    match pending with
    | none =>
      match opening position octet with
      | .complete c => (decodeFrom (position + 1) none rest).map (c :: ·)
      | .sequence p => decodeFrom (position + 1) (some p) rest
      | .refused => .error ⟨position, octet, 1, .invalidStart⟩
    | some p =>
      if p.admits octet then
        if p.due = 0 then
          (decodeFrom (position + 1) none rest).map (CodePoint.ofNat (p.extended octet) :: ·)
        else decodeFrom (position + 1) (some (p.advance octet)) rest
      else .error (p.fault .invalidContinuation)

/-- The text of well-formed octets, or the first fault. -/
def decode (octets : Octets) : Except DecodeFault Text := decodeFrom 0 none octets

/-- Read octets and drop every sequence that is refused or breaks off; an octet that breaks a sequence is
    read again as a start. -/
def skipFrom (pending : Option Pending) : Octets → Text
  | [] => []
  | octet :: rest =>
    let restart : Text :=
      match opening 0 octet with
      | .complete c => c :: skipFrom none rest
      | .sequence p => skipFrom (some p) rest
      | .refused => skipFrom none rest
    match pending with
    | none => restart
    | some p =>
      if p.admits octet then
        if p.due = 0 then CodePoint.ofNat (p.extended octet) :: skipFrom none rest
        else skipFrom (some (p.advance octet)) rest
      else restart

/-- The text of the well-formed sequences among some octets. -/
def decodeSkipping (octets : Octets) : Text := skipFrom none octets

/-!
### Strict writing
-/

/-- The first run of lone surrogates in a text: where it starts, its first member and its length. -/
structure EncodeFault where
  start : Nat
  first : CodePoint
  count : Nat
deriving DecidableEq

/-- The octet form of a text without lone surrogates, or the first run of them. -/
def encodeStrict (t : Text) : Except EncodeFault Octets :=
  let clean := t.takeWhile fun c => !c.isSurrogate
  match t.dropWhile fun c => !c.isSurrogate with
  | [] => .ok t.encode
  | c :: rest => .error ⟨clean.length, c, 1 + (rest.takeWhile CodePoint.isSurrogate).length⟩

/-!
### Wording
-/

/-- Lower-case hexadecimal digits of a number, with zeros in front up to a width. -/
def hexadecimal (width n : Nat) : Text :=
  let digits := (Nat.toDigits 16 n).map CodePoint.ofChar
  List.replicate (width - digits.length) (CodePoint.ofChar '0') ++ digits

/-- The first and the last position of a faulty stretch. -/
def stretch (start count : Nat) : Text :=
  Text.ofNat start ++ Text.of "-" ++ Text.ofNat (start + count - 1)

/-- A single faulty octet is named; of several the positions are given. -/
def DecodeFault.message (f : DecodeFault) : Text :=
  let place :=
    if f.count ≤ 1 then
      Text.of "byte 0x" ++ hexadecimal 2 f.lead.toNat ++ Text.of " in position " ++ Text.ofNat f.start
    else Text.of "bytes in position " ++ stretch f.start f.count
  Text.of "'utf-8' codec can't decode " ++ place ++ Text.of ": " ++ f.reason.message

/-- A single surrogate is shown escaped; of several the positions are given. -/
def EncodeFault.message (f : EncodeFault) : Text :=
  let place :=
    if f.count ≤ 1 then
      Text.of "character '\\u" ++ hexadecimal 4 f.first.val ++ Text.of "' in position " ++ Text.ofNat f.start
    else Text.of "characters in position " ++ stretch f.start f.count
  Text.of "'utf-8' codec can't encode " ++ place ++ Text.of ": surrogates not allowed"

end Utf8

end Marginalia
