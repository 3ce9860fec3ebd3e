import DocumentRules.Text.Quoted

/-!
Decoding bytes as text. The encoding is the strict one: no overlong forms, no
surrogates and nothing beyond the last code point. A refusal names the bytes at
fault and what is wrong with them. Line breaks of every usual kind become line feeds.
-/

set_option autoImplicit false

namespace DocumentRules.Text

inductive Utf8Problem where
  | startByte
  | continuationByte
  | endOfData
  deriving DecidableEq, Repr

/-- The first byte at fault, its position, and how many bytes are at fault. -/
structure Utf8Refusal where
  problem : Utf8Problem
  byte : Nat
  position : Nat
  count : Nat
  deriving DecidableEq, Repr

def Utf8Problem.message : Utf8Problem → String
  | .startByte => "invalid start byte"
  | .continuationByte => "invalid continuation byte"
  | .endOfData => "unexpected end of data"

def decimal (value : Nat) : String := String.ofList (Nat.toDigits 10 value)

def Utf8Refusal.message (refusal : Utf8Refusal) : String :=
  let place :=
    if refusal.count == 1 then
      "byte 0x" ++ String.ofList (hexDigits 2 refusal.byte) ++ " in position " ++
        decimal refusal.position
    else
      "bytes in position " ++ decimal refusal.position ++ "-" ++
        decimal (refusal.position + refusal.count - 1)
  "'utf-8' codec can't decode " ++ place ++ ": " ++ refusal.problem.message

/-- What a first byte announces: how many bytes follow it, the bits it contributes, and the
interval in which the byte after it must lie. -/
structure Utf8Lead where
  following : Nat
  bits : Nat
  low : Nat
  high : Nat

def lead? (byte : Nat) : Option Utf8Lead :=
  if byte < 128 then some ⟨0, byte, 0, 0⟩
  else if byte < 194 then none
  else if byte < 224 then some ⟨1, byte - 192, 128, 191⟩
  else if byte < 240 then
    some ⟨2, byte - 224, if byte == 224 then 160 else 128, if byte == 237 then 159 else 191⟩
  else if byte < 245 then
    some ⟨3, byte - 240, if byte == 240 then 144 else 128, if byte == 244 then 143 else 191⟩
  else none

structure Utf8Partial where
  start : Nat
  byte : Nat
  read : Nat
  missing : Nat
  bits : Nat
  low : Nat
  high : Nat

def Utf8Partial.refusal (part : Utf8Partial) (problem : Utf8Problem) : Utf8Refusal :=
  ⟨problem, part.byte, part.start, part.read⟩

/-- Decodes byte by byte. `position` counts the bytes read so far. -/
def decodeFrom : (position : Nat) → Option Utf8Partial → List UInt8 →
    Except Utf8Refusal (List Char)
  | _, none, [] => .ok []
  | _, some part, [] => .error (part.refusal .endOfData)
  | position, none, byte :: rest =>
      match lead? byte.toNat with
      | none => .error ⟨.startByte, byte.toNat, position, 1⟩
      | some lead =>
          if lead.following == 0 then
            (decodeFrom (position + 1) none rest).map (Char.ofNat lead.bits :: ·)
          else
            decodeFrom (position + 1)
              (some ⟨position, byte.toNat, 1, lead.following, lead.bits, lead.low, lead.high⟩) rest
  | position, some part, byte :: rest =>
      let value := byte.toNat
      if value < part.low || part.high < value then .error (part.refusal .continuationByte)
      else
        let bits := part.bits * 64 + (value - 128)
        if part.missing == 1 then
          (decodeFrom (position + 1) none rest).map (Char.ofNat bits :: ·)
        else
          decodeFrom (position + 1)
            (some { part with read := part.read + 1, missing := part.missing - 1, bits := bits,
                              low := 128, high := 191 }) rest

def decodeUtf8 (bytes : List UInt8) : Except Utf8Refusal (List Char) := decodeFrom 0 none bytes

/-- A carriage return, with a line feed after it or not, becomes a line feed. -/
def plainLineBreaks : List Char → List Char
  | [] => []
  | '\r' :: '\n' :: rest => '\n' :: plainLineBreaks rest
  | '\r' :: rest => '\n' :: plainLineBreaks rest
  | c :: rest => c :: plainLineBreaks rest

def fileText (bytes : List UInt8) : Except Utf8Refusal String :=
  (decodeUtf8 bytes).map fun chars => String.ofList (plainLineBreaks chars)

/-- In what comes from a stream the line breaks stay as they are. -/
def streamText (bytes : List UInt8) : Except Utf8Refusal String :=
  (decodeUtf8 bytes).map String.ofList

end DocumentRules.Text
