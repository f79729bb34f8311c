import TypedTemplate.Markup.Reference
import TypedTemplate.Text.Case

/-!
# Markup tokens

Markup is read leniently, as a row of text, start tags and end tags; comments,
declarations and instructions are passed over. What only begins like markup is
text. The content of `script` and `style` is text up to the matching end tag. Only
a marked section with an unknown keyword cannot be read at all.
-/
namespace TypedTemplate

inductive Token where
  | text (t : Text)
  | start (name : Text) (attributes : List (Text × Option Text)) (selfClosing : Bool)
  | finish (name : Text)
  | malformed
  deriving DecidableEq, Repr

namespace Token

def isNameChar (c : Char) : Bool := !"\t\n\r\x0c />\x00".toList.contains c

/-- The last character of a text, or another one when the text is empty. -/
def lastOr (c : Char) (t : Text) : Char := t.getLastD c

/-- Passes over blanks and slashes, but not over a slash that closes the tag. With
the rest comes the character read last. -/
def dropSeparators (last : Char) : Text → Char × Text
  | [] => (last, [])
  | c :: rest =>
    if isBlank c || (c == '/' && rest.head? != some '>') then dropSeparators c rest
    else (last, c :: rest)

def bareValue (t : Text) : Text × Text :=
  let isBare (c : Char) : Bool := c != '>' && !isBlank c
  (t.takeWhile isBare, t.dropWhile isBare)

/-- An attribute value after the equals signs, with the character read last. A quote
that is never closed opens no value: the value is then empty if a blank stood
before the quote, and begins with an equals sign if there were several. -/
def readValue? (equals blanks t : Text) : Option (Text × Char × Text) :=
  match t with
  | [] => some ([], lastOr '=' blanks, [])
  | c :: rest =>
    if c == '"' || c == '\'' then
      match Text.cut c rest with
      | (value, some tail) => some (value, c, tail)
      | (_, none) =>
        match blanks.getLast? with
        | some b => some ([], '=', b :: t)
        | none =>
          if equals.length < 2 then none
          else
            let (value, tail) := bareValue ('=' :: t)
            some (value, lastOr '=' value, tail)
    else
      let (value, tail) := bareValue t
      some (value, lastOr '=' value, tail)

/-- The value of an attribute whose name has been read. -/
def readAssignment? (t : Text) : Option (Text × Char × Text) :=
  let t := Text.trimLeft t
  match t.takeWhile (· == '=') with
  | [] => none
  | equals =>
    let rest := t.dropWhile (· == '=')
    readValue? equals (rest.takeWhile isBlank) (Text.trimLeft rest)

/-- An attribute, the character read last, and what follows. An attribute can begin
only after a blank, a slash or a quote. -/
def readAttribute? (last : Char) (t : Text) : Option ((Text × Option Text) × Char × Text) :=
  let begins := last == '"' || last == '\'' || last == '/' || isBlank last
  match t with
  | [] => none
  | c :: rest =>
    if !begins || isBlank c || c == '/' || c == '>' then none
    else
      let isPart (c : Char) : Bool := !isBlank c && c != '/' && c != '=' && c != '>'
      let tail := rest.takeWhile isPart
      let name := Text.lower (c :: tail)
      match readAssignment? (rest.dropWhile isPart) with
      | some (value, last, more) =>
        let (last, more) := dropSeparators last more
        some ((name, some (Reference.expand value)), last, more)
      | none =>
        let (last, more) := dropSeparators (lastOr c tail) (rest.dropWhile isPart)
        some ((name, none), last, more)

/-- The attributes of a tag and what follows them. The number bounds them. -/
def readAttributes : Nat → Char → Text → List (Text × Option Text) × Text
  | 0, _, t => ([], t)
  | fuel + 1, last, t =>
    match readAttribute? last t with
    | none => ([], t)
    | some (first, last, more) =>
      let (others, rest) := readAttributes fuel last more
      (first :: others, rest)

/-- What begins like markup but is not completed is text: up to the next `>`, else up
to the next `<`, else one character. The argument comes after the `<`. -/
def incomplete (t : Text) : List Token × Text :=
  match Text.cut '>' t with
  | (before, some tail) => ([.text (Reference.expand ('<' :: before ++ ['>']))], tail)
  | (_, none) =>
    match Text.cut '<' t with
    | (before, some tail) => ([.text (Reference.expand ('<' :: before))], '<' :: tail)
    | (_, none) => ([.text ['<']], t)

/-- Passes over everything up to the next `>`. -/
def skipPast (t : Text) (afterBracket : Text) : List Token × Text :=
  match Text.cut '>' t with
  | (_, some tail) => ([], tail)
  | (_, none) => incomplete afterBracket

/-- What follows a name in small letters, when the case of ASCII letters is ignored. -/
def afterAscii? : Text → Text → Option Text
  | [], t => some t
  | _ :: _, [] => none
  | a :: as, c :: rest => if c.toLower == a then afterAscii? as rest else none

def afterFinish? (name t : Text) : Option Text := do
  let rest ← Text.after? "</" t
  let rest ← afterAscii? name (Text.trimLeft rest)
  Text.after? ">" (Text.trimLeft rest)

/-- The text up to the end tag of a given name, and what follows that tag. -/
def untilFinish? (name : Text) : Text → Option (Text × Text)
  | [] => none
  | c :: rest =>
    match afterFinish? name (c :: rest) with
    | some tail => some ([], tail)
    | none => (untilFinish? name rest).map fun (before, tail) => (c :: before, tail)

def plainTextNames : List Text := ["script", "style"]

/-- The tokens of a start tag that has been read completely. -/
def startTokens (name : Text) (attributes : List (Text × Option Text)) (selfClosing : Bool)
    (t : Text) : List Token × Text :=
  let start := Token.start name attributes selfClosing
  if !selfClosing && plainTextNames.contains name then
    match untilFinish? name t with
    | some ([], tail) => ([start, .finish name], tail)
    | some (content, tail) => ([start, .text content, .finish name], tail)
    | none => ([start], [])
  else ([start], t)

/-- A start tag; the argument begins with its name. -/
def readStart (t : Text) : List Token × Text :=
  let name := t.takeWhile isNameChar
  let (last, rest) := dropSeparators (lastOr '<' name) (t.dropWhile isNameChar)
  let (attributes, rest) := readAttributes t.length last rest
  match rest with
  | [] => incomplete t
  | '>' :: tail => startTokens (Text.lower name) attributes false tail
  | '/' :: '>' :: tail => startTokens (Text.lower name) attributes true tail
  | c :: _ =>
    if isAsciiLetter c || c == '=' || c == '/' then incomplete t
    else ([.text ('<' :: t.take (t.length - rest.length))], rest)

/-- A character of the name of an end tag that is written properly. -/
def isFinishNameChar (c : Char) : Bool :=
  isAsciiLetter c || isAsciiDigit c || "-.:_".toList.contains c

/-- The name of an end tag that holds nothing else, and what follows. -/
def readProperFinish? (t : Text) : Option (Text × Text) :=
  let t := Text.trimLeft t
  if t.head?.any isAsciiLetter then
    (Text.after? ">" (Text.trimLeft (t.dropWhile isFinishNameChar))).map fun tail =>
      (t.takeWhile isFinishNameChar, tail)
  else none

/-- An end tag; the argument comes after its slash. Whatever stands between the name
and the `>` is passed over. -/
def readFinish (t : Text) : List Token × Text :=
  match Text.cut '>' t with
  | (_, none) => incomplete ('/' :: t)
  | (_, some afterBracket) =>
    match readProperFinish? t with
    | some (name, tail) => ([.finish name.lower], tail)
    | none =>
      if t.head?.any isAsciiLetter then
        let name := t.takeWhile isNameChar
        ([.finish (Text.lower name)], ((Text.cut '>' (t.dropWhile isNameChar)).2).getD [])
      else ([], afterBracket)

/-- What follows the first place where some characters stand in order, with blanks
allowed before each but the first. -/
def afterSpaced? : Text → Text → Option Text
  | [], t => some t
  | a :: as, t =>
    match Text.trimLeft t with
    | c :: rest => if c == a then afterSpaced? as rest else none
    | [] => none

/-- What follows the first occurrence of `first` with spaced characters after it. -/
def searchSpaced? (first spaced : Text) : Text → Option Text
  | [] => none
  | c :: rest =>
    match (Text.after? first (c :: rest)).bind (afterSpaced? spaced) with
    | some tail => some tail
    | none => searchSpaced? first spaced rest

/-- A marked section; the argument comes after `<![`. -/
def readSection (t : Text) : List Token × Text :=
  let fallback := incomplete ("![" ++ t)
  let isNamePart (c : Char) : Bool :=
    isAsciiLetter c || isAsciiDigit c || "-_.".toList.contains c
  if t.isEmpty then fallback
  else if !t.head?.any isAsciiLetter then ([.malformed], [])
  else if (Text.trimLeft (t.dropWhile isNamePart)).isEmpty then fallback
  else
    let keyword := Text.lower (t.takeWhile isNamePart)
    let sections : List Text := ["temp", "cdata", "ignore", "include", "rcdata"]
    let conditions : List Text := ["if", "else", "endif"]
    if sections.contains keyword then
      match searchSpaced? "]" "]>" t with
      | some tail => ([], tail)
      | none => fallback
    else if conditions.contains keyword then
      match searchSpaced? "]" ">" t with
      | some tail => ([], tail)
      | none => fallback
    else ([.malformed], [])

/-- The tokens at a `<`, and what follows them. The argument comes after the `<`. -/
def readMarkup (t : Text) : List Token × Text :=
  match t with
  | '/' :: rest => readFinish rest
  | '!' :: '-' :: '-' :: rest =>
    match searchSpaced? "--" ">" rest with
    | some tail => ([], tail)
    | none => incomplete t
  | '!' :: '[' :: rest => readSection rest
  | '!' :: rest => skipPast rest t
  | '?' :: rest => skipPast rest t
  | c :: _ => if isAsciiLetter c then readStart t else ([.text ['<']], t)
  | [] => ([.text ['<']], [])

/-- The tokens of a text. The number bounds the steps. -/
def readFrom : Nat → Text → List Token
  | 0, _ => []
  | _ + 1, [] => []
  | fuel + 1, c :: rest =>
    if c == '<' then
      let (tokens, tail) := readMarkup rest
      tokens ++ readFrom fuel tail
    else
      let run := (c :: rest).takeWhile (· != '<')
      .text (Reference.expand run) :: readFrom fuel ((c :: rest).dropWhile (· != '<'))

def readAll (t : Text) : List Token := readFrom t.length t

example : readAll "<p class='a'>x</p>" =
    [.start "p" [("class", some "a")] false, .text "x", .finish "p"] := by decide
example : readAll "a < b" = [.text "a ", .text "<", .text " b"] := by decide

end Token
end TypedTemplate
