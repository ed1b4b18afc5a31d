/-!
# Source files as bytes

A source file is a sequence of bytes, and places in it are byte offsets. Text is taken from it as
UTF-8; bytes that are no part of a character are skipped.

* `decodeUtf8`: the characters in a sequence of bytes.
* `utf8Flaw?`: the first place where a sequence of bytes is not UTF-8.
* `Bytes.slice`, `Bytes.lineAt`, `Bytes.skipLineTail`: places in a file.
-/

namespace TypeTags

/-- Where a reader of UTF-8 is: between characters, or inside one that still needs some bytes, of
which the next must lie between two bounds. -/
inductive Utf8State where
  | between
  | inside (needed code low high : Nat)
  deriving DecidableEq, Repr

namespace Utf8State

/-- What the first byte of a character leads to; a byte that starts none is skipped. -/
def lead (b : Nat) : Option Char × Utf8State :=
  if b < 0x80 then (some (Char.ofNat b), between)
  else if b < 0xc2 then (none, between)
  else if b < 0xe0 then (none, inside 1 (b - 0xc0) 0x80 0xbf)
  else if b = 0xe0 then (none, inside 2 0 0xa0 0xbf)
  else if b = 0xed then (none, inside 2 0xd 0x80 0x9f)
  else if b < 0xf0 then (none, inside 2 (b - 0xe0) 0x80 0xbf)
  else if b = 0xf0 then (none, inside 3 0 0x90 0xbf)
  else if b < 0xf4 then (none, inside 3 (b - 0xf0) 0x80 0xbf)
  else if b = 0xf4 then (none, inside 3 4 0x80 0x8f)
  else (none, between)

/-- Read a byte: the character it completes, if any, and where it leads. A byte that cannot go on
with a character starts anew. -/
def step (b : Nat) : Utf8State → Option Char × Utf8State
  | between => lead b
  | inside needed code low high =>
    if low ≤ b ∧ b ≤ high then
      let code := code * 64 + (b - 0x80)
      if needed ≤ 1 then (some (Char.ofNat code), between)
      else (none, inside (needed - 1) code 0x80 0xbf)
    else lead b

end Utf8State

/-- The characters in bytes, from a state of the reader. -/
def decodeUtf8From (state : Utf8State) : List UInt8 → List Char
  | [] => []
  | b :: bytes =>
    let (char, state) := state.step b.toNat
    char.toList ++ decodeUtf8From state bytes

def decodeUtf8 (bytes : List UInt8) : List Char := decodeUtf8From .between bytes

/-- What is wrong with bytes that are not UTF-8. -/
inductive Utf8Problem where
  | invalidStart
  | invalidContinuation
  | unexpectedEnd
  deriving DecidableEq, Repr

def Utf8Problem.message : Utf8Problem → String
  | invalidStart => "invalid start byte"
  | invalidContinuation => "invalid continuation byte"
  | unexpectedEnd => "unexpected end of data"

/-- A problem with the bytes it is about: the first of them, its offset and their number. -/
structure Utf8Flaw where
  problem : Utf8Problem
  first : UInt8
  offset : Nat
  count : Nat
  deriving DecidableEq, Repr

/-- A byte as two digits in hexadecimal. -/
def hexByte (b : UInt8) : String :=
  let digits := Nat.toDigits 16 b.toNat
  String.ofList (List.replicate (2 - digits.length) '0' ++ digits)

def Utf8Flaw.message (flaw : Utf8Flaw) : String :=
  "'utf-8' codec can't decode "
    ++ (if flaw.count = 1 then
        "byte 0x" ++ hexByte flaw.first ++ " in position " ++ toString flaw.offset
      else
        "bytes in position " ++ toString flaw.offset ++ "-"
          ++ toString (flaw.offset + flaw.count - 1))
    ++ ": " ++ flaw.problem.message

/-- The first flaw in bytes, from a state of the reader. The bytes of the character that is being
read are given by the first of them, its offset and their number. -/
def utf8FlawFrom (state : Utf8State) (first : UInt8) (offset count : Nat) :
    List UInt8 → Option Utf8Flaw
  | [] => if state = .between then none else some ⟨.unexpectedEnd, first, offset, count⟩
  | b :: bytes =>
    let here := offset + count
    match state with
    | .between =>
      match Utf8State.lead b.toNat with
      | (some _, _) => utf8FlawFrom .between b (here + 1) 0 bytes
      | (none, .between) => some ⟨.invalidStart, b, here, 1⟩
      | (none, state) => utf8FlawFrom state b here 1 bytes
    | .inside _ _ low high =>
      if low ≤ b.toNat ∧ b.toNat ≤ high then
        match state.step b.toNat with
        | (some _, _) => utf8FlawFrom .between b (here + 1) 0 bytes
        | (none, state) => utf8FlawFrom state first offset (count + 1) bytes
      else some ⟨.invalidContinuation, first, offset, count⟩

/-- The first flaw in bytes that should be UTF-8. -/
def utf8Flaw? (bytes : List UInt8) : Option Utf8Flaw := utf8FlawFrom .between 0 0 0 bytes

abbrev Bytes : Type := List UInt8

/-- A stretch of a source file, from one offset up to another. -/
structure Stretch where
  start : Nat
  stop : Nat
  deriving DecidableEq, Repr

namespace Bytes

def lineFeed : UInt8 := 10

/-- The number sign, which starts a comment, as a byte. -/
def numberSign : UInt8 := 35

def isBlank (b : UInt8) : Bool := b == 32 || (9 ≤ b && b ≤ 13)

def slice (bytes : Bytes) (s : Stretch) : Bytes := (bytes.drop s.start).take (s.stop - s.start)

def text (bytes : Bytes) (s : Stretch) : String := String.ofList (decodeUtf8 (bytes.slice s))

/-- The number of the line that an offset is on, counted from 1. -/
def lineAt (bytes : Bytes) (offset : Nat) : Nat := (bytes.take offset).count lineFeed + 1

/-- Whether the rest of a line holds nothing but white space or a comment. -/
def isIdleTail (tail : Bytes) : Bool :=
  match tail.dropWhile isBlank with
  | [] => true
  | b :: _ => b == numberSign

/-- Move from an offset to the end of its line, if only white space or a comment is left on it. -/
def skipLineTail (bytes : Bytes) (offset : Nat) : Nat :=
  let tail := (bytes.drop offset).takeWhile (· != lineFeed)
  if isIdleTail tail then min bytes.length (offset + tail.length) else offset

end Bytes

end TypeTags
