import TypedTemplate.Text.Class
import TypedTemplate.Text.Folding

/-!
# Patterns

The patterns that schemas hold against texts: characters and character classes, edges,
alternatives, repetitions, groups that can be referred to, and looks ahead and behind.
Characters are given by their code points. The width of a pattern bounds the lengths of
the texts that it matches.
-/
namespace TypedTemplate

/-- What the case of letters means to a part of a pattern. -/
inductive LetterCase where
  | kept
  | ignored
  | ignoredInAscii
  deriving DecidableEq, Repr

namespace LetterCase

/-- The form in which characters are compared with each other. -/
def lower : LetterCase → Nat → Nat
  | .kept, n => n
  | .ignored, n => Folding.lower n
  | .ignoredInAscii, n => Folding.asciiLower n

/-- Whether a character stands for another. -/
def areSame : LetterCase → Nat → Nat → Bool
  | .kept, a, b => a == b
  | .ignored, a, b => Folding.areVariants a b
  | .ignoredInAscii, a, b => Folding.asciiLower a == Folding.asciiLower b

def variants : LetterCase → Nat → List Nat
  | .kept, n => [n]
  | .ignored, n => Folding.variants n
  | .ignoredInAscii, n => [Folding.asciiLower n, Folding.asciiUpper n]

end LetterCase

/-- A class of characters inside a pattern. -/
inductive CharClass where
  | single (code : Nat)
  | range (first last : Nat)
  | digit (ascii negated : Bool)
  | word (ascii negated : Bool)
  | blank (ascii negated : Bool)
  deriving DecidableEq, Repr

namespace CharClass

/-- A word character, of ASCII or of any script. -/
def isWord (ascii : Bool) (c : Char) : Bool := isWordChar c && (!ascii || c.toNat < 128)

/-- White space, of ASCII or of any script. The information separators are no white space
of ASCII. -/
def isSpace (ascii : Bool) (c : Char) : Bool :=
  isBlank c && (!ascii || c.toNat == 32 || c.toNat ≤ 13)

def planeEnd : Nat := 0xFFFF

/-- Whether a character lies in a range. Where case is ignored, it is enough that one of its
variants does; behind the first plane these are only the small letter and its capital. -/
def inRange (letterCase : LetterCase) (first last n : Nat) : Bool :=
  let within (n : Nat) : Bool := first ≤ n && n ≤ last
  match letterCase with
  | .kept => within n
  | _ =>
    let small := letterCase.lower n
    (letterCase.variants n).any (fun v => within v && v ≤ planeEnd)
      || (planeEnd < last && (within small || within (Folding.upper small)))

/-- Whether a character belongs to a class that stands with others. Behind the first plane
a single character stands only for what has it as its small letter. -/
def holds (letterCase : LetterCase) : CharClass → Char → Bool
  | .single n, c =>
    if n ≤ planeEnd then letterCase.areSame n c.toNat else letterCase.lower c.toNat == n
  | .range first last, c => inRange letterCase first last c.toNat
  | .digit ascii negated, c => (isDecimal c && (!ascii || c.toNat < 128)) != negated
  | .word ascii negated, c => isWord ascii c != negated
  | .blank ascii negated, c => isSpace ascii c != negated

end CharClass

/-- A place between characters. -/
inductive Edge where
  /-- The beginning of the text, or of any line. -/
  | first (ofLines : Bool)
  /-- The end of the text, also before a line break at its end, or the end of any line. -/
  | last (ofLines : Bool)
  /-- The end of the text and nothing else. -/
  | textEnd
  /-- A place where a word begins or ends, or any other. -/
  | word (ascii negated : Bool)
  deriving DecidableEq, Repr

inductive Pattern where
  | empty
  | character (letterCase : LetterCase) (negated : Bool) (code : Nat)
  | oneOf (letterCase : LetterCase) (negated : Bool) (classes : List CharClass)
  /-- Any character, or any but a line break. -/
  | any (breaks : Bool)
  | edge (e : Edge)
  | sequence (first second : Pattern)
  | either (first second : Pattern)
  /-- A repetition; as many as can be are preferred, or as few. -/
  | repeated (p : Pattern) (least : Nat) (greatest : Option Nat) (few : Bool)
  /-- A repetition of the most preferred way to match, as often as can be. -/
  | possessive (p : Pattern) (least : Nat) (greatest : Option Nat)
  /-- Only the most preferred way to match. -/
  | settled (p : Pattern)
  | ahead (negated : Bool) (p : Pattern)
  /-- What stands before, a number of characters back. -/
  | behind (negated : Bool) (width : Nat) (p : Pattern)
  | group (number : Nat) (p : Pattern)
  /-- The text of a group once more. -/
  | reference (letterCase : LetterCase) (number : Nat)
  /-- One of two patterns, by whether a group has a text. -/
  | condition (number : Nat) (ifSet ifUnset : Pattern)
  deriving DecidableEq, Repr

/-- Bounds for the length of a text; no greatest length if there is none. -/
structure Width where
  least : Nat
  greatest : Option Nat
  deriving DecidableEq, Repr

namespace Width

def exactly (n : Nat) : Width := ⟨n, some n⟩

def add (a b : Width) : Width :=
  ⟨a.least + b.least, a.greatest.bind fun m => b.greatest.map (m + ·)⟩

def join (a b : Width) : Width :=
  ⟨min a.least b.least, a.greatest.bind fun m => b.greatest.map (max m)⟩

def times (w : Width) (least : Nat) (greatest : Option Nat) : Width where
  least := w.least * least
  greatest :=
    match w.greatest, greatest with
    | some 0, _ => some 0
    | _, some 0 => some 0
    | some m, some n => some (m * n)
    | _, _ => none

/-- The only length that the bounds allow, if there is one and it can be counted. -/
def single? (w : Width) : Option Nat :=
  if w.greatest = some w.least ∧ w.least ≤ 0xFFFFFFFF then some w.least else none

end Width

/-- Bounds for what a pattern matches, by those for its groups. -/
def Pattern.width (ofGroup : Nat → Width) : Pattern → Width
  | .empty | .edge _ | .ahead _ _ | .behind _ _ _ => .exactly 0
  | .character _ _ _ | .oneOf _ _ _ | .any _ => .exactly 1
  | .sequence a b => (a.width ofGroup).add (b.width ofGroup)
  | .either a b | .condition _ a b => (a.width ofGroup).join (b.width ofGroup)
  | .repeated p least greatest _ | .possessive p least greatest =>
    (p.width ofGroup).times least greatest
  | .settled p | .group _ p => p.width ofGroup
  | .reference _ number => ofGroup number

end TypedTemplate
