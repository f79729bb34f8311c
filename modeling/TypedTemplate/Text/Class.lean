import TypedTemplate.Text.ClassTable

/-!
# Character classes

Blanks, decimal digits, word characters and printable characters, in every
script. The ASCII part of each class is stated as a rule, so that texts in ASCII
never reach the tables. Trimming removes blanks at the ends of a text.
-/
namespace TypedTemplate

/-- White space of every script, the four information separators included. -/
def isBlank (c : Char) : Bool :=
  let n := c.toNat
  if n < 128 then (9 ≤ n && n ≤ 13) || (28 ≤ n && n ≤ 32)
  else n == 0x85 || n == 0xA0 || n == 0x1680 || (0x2000 ≤ n && n ≤ 0x200A)
    || n == 0x2028 || n == 0x2029 || n == 0x202F || n == 0x205F || n == 0x3000

def digitValue? (c : Char) : Option Nat :=
  let n := c.toNat
  if n < 128 then if 48 ≤ n ∧ n ≤ 57 then some (n - 48) else none
  else (ClassTable.zeros.find? fun z => z.first ≤ n && n ≤ z.first + 9).map (n - ·.first)

def isDecimal (c : Char) : Bool := (digitValue? c).isSome

/-- A decimal digit, or a digit such as a superscript that no decimal numeral holds. -/
def isAnyDigit (c : Char) : Bool :=
  isDecimal c || (128 ≤ c.toNat && inSpans ClassTable.looseDigitSpans c.toNat)

def isAsciiDigit (c : Char) : Bool := '0' ≤ c && c ≤ '9'

def isAsciiLetter (c : Char) : Bool := ('a' ≤ c && c ≤ 'z') || ('A' ≤ c && c ≤ 'Z')

/-- A letter or numeral of any script, or the underscore. -/
def isWordChar (c : Char) : Bool :=
  if c.toNat < 128 then isAsciiLetter c || isAsciiDigit c || c == '_'
  else inSpans ClassTable.wordSpans c.toNat

/-- A character that stands for itself in printed text. -/
def isPrintable (c : Char) : Bool :=
  if c.toNat < 128 then 32 ≤ c.toNat && c.toNat < 127
  else !inSpans ClassTable.hiddenSpans c.toNat

namespace Text

def trimLeft (t : Text) : Text := t.dropWhile isBlank

def trimRight (t : Text) : Text := (t.reverse.dropWhile isBlank).reverse

def trim (t : Text) : Text := trimRight (trimLeft t)

/-- Whether a text holds nothing but blanks. -/
def isBlank (t : Text) : Bool := t.all TypedTemplate.isBlank

end Text

theorem Text.dropWhile_trimLeft (t : Text) :
    (Text.trimLeft t).dropWhile TypedTemplate.isBlank = Text.trimLeft t := by
  induction t with
  | nil => rfl
  | cons c rest ih =>
    unfold Text.trimLeft at *
    by_cases h : TypedTemplate.isBlank c <;> simp_all

end TypedTemplate
