import TypedTemplate.Text.Class
import TypedTemplate.Text.Spans
import TypedTemplate.Text.Utf8

/-!
# Resource identifiers

An identifier of a resource has a scheme, an authority, a path, a query and a fragment, any
of which may be missing. An identifier without a scheme is read from a base: it takes from
it all that comes before its own first part, and the dots in its path are steps from the
place of the base.
-/
namespace TypedTemplate

structure Uri where
  scheme : Text
  authority : Text
  path : Text
  query : Text
  fragment : Text
  deriving DecidableEq, Repr

namespace Uri

/-- The schemes whose identifiers can be read from a base. -/
def relativeSchemes : List Text :=
  ["", "ftp", "http", "gopher", "nntp", "imap", "wais", "file", "https", "shttp", "mms",
    "prospero", "rtsp", "rtspu", "sftp", "svn", "svn+ssh", "ws", "wss"]

/-- Other schemes whose identifiers have an authority, be it an empty one. -/
def absoluteSchemes : List Text := ["telnet", "snews", "rsync", "nfs", "git", "git+ssh"]

def isSchemeChar (c : Char) : Bool :=
  isAsciiLetter c || isAsciiDigit c || c == '+' || c == '-' || c == '.'

/-- The scheme of an identifier, if it states one, and what follows it. -/
def takeScheme (t : Text) : Option Text × Text :=
  match Text.cut ':' t with
  | (scheme, some rest) =>
    if scheme.head?.any isAsciiLetter && scheme.all isSchemeChar then
      (some (scheme.map Char.toLower), rest)
    else (none, t)
  | (_, none) => (none, t)

/-- The authority of an identifier without scheme, and what follows it. -/
def takeAuthority : Text → Text × Text
  | '/' :: '/' :: rest =>
    let isEnd (c : Char) : Bool := c == '/' || c == '?' || c == '#'
    (rest.takeWhile (! isEnd ·), rest.dropWhile (! isEnd ·))
  | t => ([], t)

/-- Reads an identifier. One that states no scheme has the given one. Tabs and line breaks
are left out. -/
def read (scheme t : Text) : Uri :=
  let (stated, t) := takeScheme (t.filter fun c => c != '\t' && c != '\r' && c != '\n')
  let (authority, t) := takeAuthority t
  let (t, fragment) := Text.cut '#' t
  let (path, query) := Text.cut '?' t
  ⟨stated.getD scheme, authority, path, query.getD [], fragment.getD []⟩

def written (u : Uri) : Text :=
  let isPlaced := relativeSchemes.contains u.scheme || absoluteSchemes.contains u.scheme
  let isNamed := !u.authority.isEmpty
    || (!u.scheme.isEmpty && isPlaced && !"//".toList.isPrefixOf u.path)
  let place : Text :=
    if isNamed then
      "//" ++ u.authority ++ (if u.path.isEmpty || u.path.head? = some '/' then u.path
        else '/' :: u.path)
    else u.path
  (if u.scheme.isEmpty then [] else u.scheme ++ [':']) ++ place
    ++ (if u.query.isEmpty then [] else '?' :: u.query)
    ++ (if u.fragment.isEmpty then [] else '#' :: u.fragment)

/-- The steps of a path, without those that dots stand for: one dot stays where it is, two
go back. -/
def resolveSteps (steps : List Text) : List Text :=
  let kept := steps.foldl (fun kept (step : Text) =>
    if step = ".." then kept.drop 1 else if step = "." then kept else step :: kept) []
  let isOpen := steps.getLast?.any fun (step : Text) => step = "." || step = ".."
  (if isOpen then [] :: kept else kept).reverse

/-- A path read from another one. Empty steps in between are left out. -/
def joinPaths (base path : Text) : Text :=
  let steps :=
    if path.head? = some '/' then Text.splitOn '/' path
    else
      let place := Text.splitOn '/' base
      let place := if place.getLast? = some [] then place else place.dropLast
      match place ++ Text.splitOn '/' path with
      | [] => []
      | first :: rest => first :: rest.dropLast.filter (! ·.isEmpty) ++ rest.getLast?.toList
  match Text.join "/" (resolveSteps steps) with
  | [] => "/"
  | path => path

def join (base t : Text) : Text :=
  if base.isEmpty then t
  else if t.isEmpty then base
  else
    let b := read [] base
    let u := read b.scheme t
    if u.scheme != b.scheme || !relativeSchemes.contains u.scheme then t
    else if !u.authority.isEmpty then u.written
    else if u.path.isEmpty then
      written
        { u with
          authority := b.authority, path := b.path,
          query := if u.query.isEmpty then b.query else u.query }
    else written { u with authority := b.authority, path := joinPaths b.path u.path }

/-- The part of an identifier before the fragment, and the fragment. -/
def splitFragment (t : Text) : Text × Text :=
  if t.contains '#' then
    let u := read [] t
    (written { u with fragment := [] }, u.fragment)
  else (t, [])

/-- The bytes of what follows a percent sign: two digits name the first of them. Without
digits the percent sign stands for itself. -/
def bytesAfterPercent (t : Text) : List Nat :=
  match t with
  | a :: b :: rest =>
    match hexValue? a, hexValue? b with
    | some high, some low => (16 * high + low) :: Utf8.encode rest
    | _, _ => Utf8.encode ('%' :: t)
  | _ => Utf8.encode ('%' :: t)

/-- A part of an identifier with the characters for which percent signs and digits stand. -/
def decode (t : Text) : Text :=
  match Text.splitOn '%' t with
  | [] => []
  | first :: rest => Utf8.decode (Utf8.encode first ++ rest.flatMap bytesAfterPercent)

example : join "/b/c/d?q" "../g" = "/b/g" := by decide
example : join "/b/c/d?q" "?y" = "/b/c/d?y" := by decide
example : join "urn:a:b" "c" = "c" := by decide
example : decode "a%20b%C3%A9%zz" = "a bé%zz" := by decide

end Uri
end TypedTemplate
