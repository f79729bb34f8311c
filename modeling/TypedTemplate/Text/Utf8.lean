import TypedTemplate.Text.Basic

/-!
# Bytes as text

A text is stored as bytes in UTF-8: a character below 128 is one byte, any other a first
byte that says how many follow and bytes of six bits each. Bytes that are no such text are
read too: a character that breaks off, and a byte that begins none, become the
replacement character.
-/
namespace TypedTemplate.Utf8

def encodeChar (c : Char) : List Nat :=
  let n := c.toNat
  let low (n : Nat) : Nat := 0x80 + n % 64
  if n < 0x80 then [n]
  else if n < 0x800 then [0xC0 + n / 64, low n]
  else if n < 0x10000 then [0xE0 + n / 4096, low (n / 64), low n]
  else [0xF0 + n / 262144, low (n / 4096), low (n / 64), low n]

def encode (t : Text) : List Nat := t.flatMap encodeChar

def replacement : Char := '\uFFFD'

/-- A character of which some bytes are read: the number of bytes to come, the bounds of
the next one, and the value so far. -/
structure Begun where
  missing : Nat
  least : Nat
  greatest : Nat
  value : Nat
  deriving DecidableEq, Repr

/-- What the first byte of a character tells. The second byte of some is bounded further, so
that each character has only one form and none is a surrogate or beyond the last. -/
def begin (b : Nat) : Text × Option Begun :=
  if b < 0x80 then ([Char.ofNat b], none)
  else if b < 0xC2 then ([replacement], none)
  else if b < 0xE0 then ([], some ⟨1, 0x80, 0xBF, b - 0xC0⟩)
  else if b < 0xF0 then
    ([], some ⟨2, if b = 0xE0 then 0xA0 else 0x80, if b = 0xED then 0x9F else 0xBF, b - 0xE0⟩)
  else if b < 0xF5 then
    ([], some ⟨3, if b = 0xF0 then 0x90 else 0x80, if b = 0xF4 then 0x8F else 0xBF, b - 0xF0⟩)
  else ([replacement], none)

/-- What a further byte of a character tells, if it can follow. -/
def Begun.next? (s : Begun) (b : Nat) : Option (Text × Option Begun) :=
  if s.least ≤ b && b ≤ s.greatest then
    let value := 64 * s.value + b % 64
    if s.missing ≤ 1 then some ([Char.ofNat value], none)
    else some ([], some ⟨s.missing - 1, 0x80, 0xBF, value⟩)
  else none

/-- The text of bytes after those of a character that has begun. -/
def decodeFrom : Option Begun → List Nat → Text
  | none, [] => []
  | some _, [] => [replacement]
  | none, b :: rest =>
    let (t, s) := begin b
    t ++ decodeFrom s rest
  | some begun, b :: rest =>
    match begun.next? b with
    | some (t, s) => t ++ decodeFrom s rest
    | none =>
      let (t, s) := begin b
      replacement :: t ++ decodeFrom s rest

def decode (bytes : List Nat) : Text := decodeFrom none bytes

example : encode "é日😀" = [0xC3, 0xA9, 0xE6, 0x97, 0xA5, 0xF0, 0x9F, 0x98, 0x80] := by decide
example : decode [0x41, 0xC3, 0xA9, 0xE6, 0x97, 0xA5, 0xF0, 0x9F, 0x98, 0x80] = "Aé日😀" := by decide
example : decode [0xE6, 0x97, 0x41, 0xC0, 0xED, 0xA0] = "\uFFFDA\uFFFD\uFFFD\uFFFD" := by decide

end TypedTemplate.Utf8
