import TypedTemplate.Markup.EntityTable
import TypedTemplate.Text.Keyed
import TypedTemplate.Text.Spans

/-!
# Character references

References such as `&amp;` and `&#x27;` stand for characters. Names that need no
semicolon are also found at the beginning of a longer word, the longest first.
Numbers that no document should use are replaced or dropped, as browsers do.
Escaping is the opposite: it writes the five characters that markup reserves.
-/
namespace TypedTemplate.Reference

/-- The names of reserved characters, by which escaping writes them. -/
def reserved : Keyed Text := [("amp", ['&']), ("lt", ['<']), ("gt", ['>']), ("quot", ['"'])]

/-- What the names stand for. The reserved characters come first, so that documents that
hold no other references never reach the table. -/
def named : Keyed Text :=
  reserved ++ (wordsOfLines EntityTable.namedLines).map fun word =>
    let (name, codes) := Text.cut '=' word
    (name, (Text.splitOn ',' (codes.getD [])).map fun code => Char.ofNat (hexNumber code))

def openNames : List Text := wordsOfLines EntityTable.openLines

def openNamed? (name : Text) : Option Text :=
  if openNames.contains name then Keyed.get? name named else none

/-- What the numbers from 128 to 159 stand for: the letters of an old Western
code page. -/
def westernCodes : List Nat := [
  0x20ac, 0x81, 0x201a, 0x192, 0x201e, 0x2026, 0x2020, 0x2021, 0x2c6, 0x2030, 0x160, 0x2039,
  0x152, 0x8d, 0x17d, 0x8f, 0x90, 0x2018, 0x2019, 0x201c, 0x201d, 0x2022, 0x2013, 0x2014,
  0x2dc, 0x2122, 0x161, 0x203a, 0x153, 0x9d, 0x17e, 0x178]

/-- A code point that no reference yields: most controls, and the code points that
are no characters. -/
def isRefused (n : Nat) : Bool :=
  (1 ≤ n && n ≤ 8) || n == 0xb || (0xe ≤ n && n ≤ 0x1f) || n == 0x7f
    || (0xfdd0 ≤ n && n ≤ 0xfdef) || n % 0x10000 == 0xfffe || n % 0x10000 == 0xffff

def ofNumber (n : Nat) : Text :=
  if n = 0 then ['\ufffd']
  else if 0x80 ≤ n ∧ n ≤ 0x9f then [Char.ofNat (westernCodes.getD (n - 0x80) n)]
  else if (0xd800 ≤ n ∧ n ≤ 0xdfff) ∨ 0x10ffff < n then ['\ufffd']
  else if isRefused n then []
  else [Char.ofNat n]

/-- A word without its last characters, as long as possible, that is an open name;
with the characters left over. The number is the length to try first. -/
def longestOpen? (word : Text) : Nat → Option (Text × Text)
  | 0 | 1 => none
  | n + 2 =>
    match openNamed? (word.take (n + 2)) with
    | some t => some (t, word.drop (n + 2))
    | none => longestOpen? word (n + 1)

/-- The text of a named reference, with or without a semicolon after the name. A word
that is no name stays as it is. -/
def ofName (name : Text) (closed : Bool) : Text :=
  let word := if closed then name ++ [';'] else name
  match if closed then Keyed.get? name named else openNamed? name with
  | some t => t
  | none =>
    match longestOpen? word (word.length - 1) with
    | some (t, rest) => t ++ rest
    | none => '&' :: word

/-- Drops a semicolon at the beginning and says whether there was one. -/
def takeSemicolon : Text → Bool × Text
  | ';' :: rest => (true, rest)
  | t => (false, t)

def isNameChar (c : Char) : Bool := !"\t\n\x0c <&#;".toList.contains c

/-- Reads a numeral in a given base and the semicolon after it. -/
def readNumber? (isDigit : Char → Bool) (base : Nat) (t : Text) : Option (Nat × Text) :=
  match t.takeWhile isDigit with
  | [] => none
  | digits =>
    let n := digits.foldl (fun n c => base * n + (hexValue? c).getD 0) 0
    some (n, (takeSemicolon (t.dropWhile isDigit)).2)

/-- The text of a reference and what follows it, given what comes after the
ampersand. -/
def read? (t : Text) : Option (Text × Text) :=
  let isDigit (c : Char) : Bool := '0' ≤ c && c ≤ '9'
  match t with
  | '#' :: 'x' :: rest | '#' :: 'X' :: rest =>
    (readNumber? (fun c => (hexValue? c).isSome) 16 rest).map fun (n, tail) => (ofNumber n, tail)
  | '#' :: rest => (readNumber? isDigit 10 rest).map fun (n, tail) => (ofNumber n, tail)
  | t =>
    match (t.takeWhile isNameChar).take 32 with
    | [] => none
    | name =>
      let (closed, tail) := takeSemicolon (t.drop name.length)
      some (ofName name closed, tail)

/-- Replaces the references of a text. The number bounds the steps. -/
def expandFrom : Nat → Text → Text
  | 0, t => t
  | _ + 1, [] => []
  | fuel + 1, c :: rest =>
    if c == '&' then
      match read? rest with
      | some (t, tail) => t ++ expandFrom fuel tail
      | none => '&' :: expandFrom fuel rest
    else c :: expandFrom fuel rest

/-- The text with every character reference replaced by what it stands for. -/
def expand (t : Text) : Text := if t.contains '&' then expandFrom t.length t else t

def escapeChar (c : Char) : Text :=
  if c == '&' then "&amp;"
  else if c == '<' then "&lt;"
  else if c == '>' then "&gt;"
  else if c == '"' then "&quot;"
  else if c == '\'' then "&#x27;"
  else [c]

def escape (t : Text) : Text := t.flatMap escapeChar

theorem escape_append (a b : Text) : escape (a ++ b) = escape a ++ escape b := by
  simp [escape]

theorem expand_of_not_mem {t : Text} (h : '&' ∉ t) : expand t = t := by
  simp [expand, h]

example : expand "&#38;&#x41;" = "&A".toList := by decide

end TypedTemplate.Reference
