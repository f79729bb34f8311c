import TypedTemplate.Text.Class

/-!
# Quoted texts

The printed form of a text stands in single quotes, or in double quotes when the
text holds single quotes and no double ones. The quote in use, the backslash and
every character without a printed form are escaped.
-/
namespace TypedTemplate.Quoted

/-- A hexadecimal numeral of a fixed width, in small letters. -/
def hexDigits (width n : Nat) : Text :=
  let digits := Nat.toDigits 16 n
  List.replicate (width - digits.length) '0' ++ digits

def escapeChar (quote c : Char) : Text :=
  if c == quote || c == '\\' then ['\\', c]
  else if c == '\t' then "\\t"
  else if c == '\n' then "\\n"
  else if c == '\r' then "\\r"
  else if isPrintable c then [c]
  else if c.toNat < 0x100 then "\\x" ++ hexDigits 2 c.toNat
  else if c.toNat < 0x10000 then "\\u" ++ hexDigits 4 c.toNat
  else "\\U" ++ hexDigits 8 c.toNat

def quoteFor (t : Text) : Char :=
  if t.contains '\'' && !t.contains '"' then '"' else '\''

def encode (t : Text) : Text :=
  let quote := quoteFor t
  [quote] ++ t.flatMap (escapeChar quote) ++ [quote]

example : encode "it's" = "\"it's\"".toList := by decide
example : encode "a\x00\n" = "'a\\x00\\n'".toList := by decide

end TypedTemplate.Quoted
