import OpeningHours.Text.CodeRange
import OpeningHours.Text.Quoted

/-
Text decoded from octets. A character takes one to four octets, the first of which tells how many
follow and within what bounds the second one lies, so that no character has two encodings and no
surrogate has any. Decoding refuses a file at the first octet that does not fit and says what was
wrong, where the bad sequence starts and how many of its octets had been read.
-/

namespace OpeningHours.Text.Utf8

inductive Reason where
  | invalidStart
  | invalidContinuation
  | unexpectedEnd
  deriving DecidableEq, Repr

/-- Why octets are no text: the first octet of the bad sequence, its position, and the number of
octets of the sequence that had been read. -/
structure Fault where
  octet : Nat
  position : Nat
  count : Nat
  reason : Reason
  deriving DecidableEq, Repr

namespace Fault

def reasonText : Reason → String
  | .invalidStart => "invalid start byte"
  | .invalidContinuation => "invalid continuation byte"
  | .unexpectedEnd => "unexpected end of data"

/-- What is said of a fault. -/
def message (fault : Fault) : String :=
  let place :=
    if fault.count = 1 then
      "byte 0x" ++ String.ofList (Quoted.hexadecimal 2 fault.octet) ++ " in position " ++
        Numeral.toText fault.position
    else
      "bytes in position " ++ Numeral.toText fault.position ++ "-" ++
        Numeral.toText (fault.position + fault.count - 1)
  "'utf-8' codec can't decode " ++ place ++ ": " ++ reasonText fault.reason

end Fault

/-- A character of which some octets are read: its first octet, how many are read, the code so far,
how many are still owed, and the bounds of the next one. -/
structure Pending where
  lead : Nat
  read : Nat
  code : Nat
  owed : Nat
  next : CodeRange

/-- The bounds of an octet that goes on with a character. -/
def continuation : CodeRange := ⟨0x80, 0xbf⟩

/-- What an octet from `0x80` on begins, if a character may begin with it. -/
def begin? (octet : Nat) : Option Pending :=
  if octet < 0xc2 then none
  else if octet < 0xe0 then some ⟨octet, 1, octet - 0xc0, 1, continuation⟩
  else if octet = 0xe0 then some ⟨octet, 1, octet - 0xe0, 2, ⟨0xa0, 0xbf⟩⟩
  else if octet = 0xed then some ⟨octet, 1, octet - 0xe0, 2, ⟨0x80, 0x9f⟩⟩
  else if octet < 0xf0 then some ⟨octet, 1, octet - 0xe0, 2, continuation⟩
  else if octet = 0xf0 then some ⟨octet, 1, octet - 0xf0, 3, ⟨0x90, 0xbf⟩⟩
  else if octet = 0xf4 then some ⟨octet, 1, octet - 0xf0, 3, ⟨0x80, 0x8f⟩⟩
  else if octet < 0xf4 then some ⟨octet, 1, octet - 0xf0, 3, continuation⟩
  else none

/-- The fault of a character that breaks off before the given position. -/
def Pending.fault (pending : Pending) (position : Nat) (reason : Reason) : Fault :=
  ⟨pending.lead, position - pending.read, pending.read, reason⟩

/-- The text of the octets from a position on, within a character or between two. -/
def decodeFrom (position : Nat) (pending : Option Pending) : List UInt8 → Except Fault (List Char)
  | [] =>
    match pending with
    | none => .ok []
    | some pending => .error (pending.fault position .unexpectedEnd)
  | octet :: rest =>
    match pending with
    | none =>
      if octet.toNat < 0x80 then
        (decodeFrom (position + 1) none rest).map (Char.ofNat octet.toNat :: ·)
      else
        match begin? octet.toNat with
        | some pending => decodeFrom (position + 1) (some pending) rest
        | none => .error ⟨octet.toNat, position, 1, .invalidStart⟩
    | some pending =>
      if pending.next.holds octet.toNat then
        let code := pending.code * 64 + (octet.toNat - 0x80)
        if pending.owed ≤ 1 then
          (decodeFrom (position + 1) none rest).map (Char.ofNat code :: ·)
        else
          decodeFrom (position + 1)
            (some ⟨pending.lead, pending.read + 1, code, pending.owed - 1, continuation⟩) rest
      else .error (pending.fault position .invalidContinuation)

/-- The text that octets encode. -/
def decode (octets : List UInt8) : Except Fault (List Char) :=
  decodeFrom 0 none octets

end OpeningHours.Text.Utf8
