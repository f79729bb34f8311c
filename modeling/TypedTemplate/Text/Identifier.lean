import TypedTemplate.Text.Class
import TypedTemplate.Text.IdentifierTable

/-!
# Identifiers

An identifier begins with a letter of any script or an underscore; digits and the marks
that letters carry stand after that. The rule for ASCII is stated apart from the tables.
-/
namespace TypedTemplate

def beginsIdentifier (c : Char) : Bool :=
  if c.toNat < 128 then isAsciiLetter c || c == '_'
  else
    (isWordChar c && !inSpans IdentifierTable.excludedSpans c.toNat)
      || inSpans IdentifierTable.addedSpans c.toNat

def continuesIdentifier (c : Char) : Bool :=
  if c.toNat < 128 then isAsciiLetter c || isAsciiDigit c || c == '_'
  else beginsIdentifier c || inSpans IdentifierTable.followingSpans c.toNat

/-- Whether a text is an identifier. -/
def Text.isIdentifier : Text → Bool
  | [] => false
  | c :: rest => beginsIdentifier c && rest.all continuesIdentifier

example : Text.isIdentifier "size_2" = true := by decide
example : Text.isIdentifier "2nd" = false := by decide

end TypedTemplate
