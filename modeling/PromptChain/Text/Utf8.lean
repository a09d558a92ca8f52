/-
**UTF-8.**

`decodeStep` takes one character, or one maximal part that is no character, off a sequence of bytes.
`decode` reads bytes strictly and reports the first bad part; `decodeLossy` puts a replacement character
for each of them.
-/

import PromptChain.Text.Quoted

namespace PromptChain.Text

abbrev Bytes := List UInt8

def encode (text : String) : Bytes := text.toList.flatMap String.utf8EncodeChar

inductive Utf8Issue where
  | invalidStart
  | invalidContinuation
  | unexpectedEnd
deriving DecidableEq

def Utf8Issue.message : Utf8Issue → String
  | invalidStart => "invalid start byte"
  | invalidContinuation => "invalid continuation byte"
  | unexpectedEnd => "unexpected end of data"

/-- How many bytes follow a first byte in a character; none if no character starts with it. -/
def followers? (first : Nat) : Option Nat :=
  if first < 0x80 then some 0
  else if first < 0xc2 then none
  else if first < 0xe0 then some 1
  else if first < 0xf0 then some 2
  else if first < 0xf5 then some 3
  else none

def mayFollow (first second : Nat) : Bool :=
  let low := if first = 0xe0 then 0xa0 else if first = 0xf0 then 0x90 else 0x80
  let high := if first = 0xed then 0x9f else if first = 0xf4 then 0x8f else 0xbf
  low ≤ second && second ≤ high

/-- Whether a byte may stand in the third or fourth place. -/
def isContinuation (byte : Nat) : Bool := 0x80 ≤ byte && byte ≤ 0xbf

/-- The code point that a first byte stands for, by itself. -/
def leadValue (first followers : Nat) : Nat :=
  match followers with
  | 0 => first
  | 1 => first % 32
  | 2 => first % 16
  | _ => first % 8

/-- Takes continuation bytes onto a value: the code point, or the issue and how many bytes were
taken. -/
def takeContinuations (value taken : Nat) : Nat → Bytes → Except (Utf8Issue × Nat) Nat
  | 0, _ => .ok value
  | _ + 1, [] => .error (.unexpectedEnd, taken)
  | count + 1, byte :: rest =>
    if isContinuation byte.toNat then
      takeContinuations (value * 64 + byte.toNat % 64) (taken + 1) count rest
    else .error (.invalidContinuation, taken)

/-- The code point at the start of bytes and its length; or the issue and the length of the bad part. -/
def decodeStep (first : UInt8) (rest : Bytes) : Except (Utf8Issue × Nat) (Nat × Nat) :=
  match followers? first.toNat with
  | none => .error (.invalidStart, 1)
  | some 0 => .ok (first.toNat, 1)
  | some (count + 1) =>
    match rest with
    | [] => .error (.unexpectedEnd, 1)
    | second :: rest =>
      if mayFollow first.toNat second.toNat then
        let value := leadValue first.toNat (count + 1) * 64 + second.toNat % 64
        match takeContinuations value 2 count rest with
        | .ok code => .ok (code, count + 2)
        | .error issue => .error issue
      else .error (.invalidContinuation, 1)

/-- The first bad part of bytes: where it is, its bytes, and what is wrong. -/
structure Utf8Error where
  position : Nat
  bytes : Bytes
  issue : Utf8Issue

def Utf8Error.message (error : Utf8Error) : String :=
  let place := match error.bytes with
    | [byte] =>
      "byte 0x" ++ String.ofList (hexDigits 2 byte.toNat) ++ " in position "
        ++ toString error.position
    | bytes =>
      "bytes in position " ++ toString error.position ++ "-"
        ++ toString (error.position + bytes.length - 1)
  "'utf-8' codec can't decode " ++ place ++ ": " ++ error.issue.message

/-- Reads bytes from a position on; each step takes at least one of `fuel` bytes. -/
def decodeFrom (position : Nat) : Nat → Bytes → Except Utf8Error (List Char)
  | 0, _ => .ok []
  | _ + 1, [] => .ok []
  | fuel + 1, first :: rest =>
    match decodeStep first rest with
    | .error (issue, length) => .error ⟨position, (first :: rest).take length, issue⟩
    | .ok (code, length) =>
      match decodeFrom (position + length) fuel ((first :: rest).drop length) with
      | .ok text => .ok (Char.ofNat code :: text)
      | .error error => .error error

def decode (bytes : Bytes) : Except Utf8Error String :=
  match decodeFrom 0 bytes.length bytes with
  | .ok text => .ok (String.ofList text)
  | .error error => .error error

def replacement : Char := '�'

/-- Reads bytes, with a replacement character for each bad part. -/
def decodeLossyFrom : Nat → Bytes → List Char
  | 0, _ => []
  | _ + 1, [] => []
  | fuel + 1, first :: rest =>
    match decodeStep first rest with
    | .error (_, length) => replacement :: decodeLossyFrom fuel ((first :: rest).drop length)
    | .ok (code, length) => Char.ofNat code :: decodeLossyFrom fuel ((first :: rest).drop length)

/-- The text that bytes write, with a replacement character for each bad part. -/
def decodeLossy (bytes : Bytes) : String := String.ofList (decodeLossyFrom bytes.length bytes)

end PromptChain.Text
