import TypedTemplate.Text.CaseTable

/-!
# Characters that differ in case only

Two characters differ in case only when they have the same small letter, or small letters
with one capital, such as the two forms of a small sigma. Characters are given by their
code points, and one with several small or capital letters counts by the first of them.
-/
namespace TypedTemplate.Folding

def byTable (runs : List CaseRun) (expansions : List (Nat × List Nat)) (n : Nat) : Nat :=
  match expansions.find? (·.1 == n) with
  | some (_, code :: _) => code
  | _ => (runs.findSome? (·.counterpart? n)).getD n

def asciiLower (n : Nat) : Nat := if 65 ≤ n && n ≤ 90 then n + 32 else n

def asciiUpper (n : Nat) : Nat := if 97 ≤ n && n ≤ 122 then n - 32 else n

def lower (n : Nat) : Nat :=
  if n < 128 then asciiLower n else byTable CaseTable.lowerRuns CaseTable.lowerExpansions n

def upper (n : Nat) : Nat :=
  if n < 128 then asciiUpper n else byTable CaseTable.upperRuns CaseTable.upperExpansions n

def withLower (n : Nat) : List Nat :=
  let itself := if lower n = n then [n] else []
  let ascii := if asciiUpper n = n then [] else [asciiUpper n]
  let single := CaseTable.lowerRuns.filterMap (·.source? n)
  let several := CaseTable.lowerExpansions.filterMap fun (code, codes) =>
    if codes.head? = some n then some code else none
  itself ++ ascii ++ single ++ several

def sharedCapitals : List (List Nat) :=
  (wordsOfLines [
    "69,131 73,17f b5,3bc 345,3b9,1fbe 390,1fd3 3b0,1fe3 3b2,3d0 3b5,3f5 3b8,3d1 3ba,3f0 3c0,3d6",
    "3c1,3f1 3c2,3c3 3c6,3d5 432,1c80 434,1c81 43e,1c82 441,1c83 442,1c84,1c85 44a,1c86 463,1c87",
    "1c88,a64b 1e61,1e9b fb05,fb06"]).map fun word => (Text.splitOn ',' word).map hexNumber

/-- The small letters that a character has when case is ignored. -/
def smallForms (n : Nat) : List Nat :=
  let small := lower n
  (sharedCapitals.find? (·.contains small)).getD [small]

/-- The characters from which one differs in case only, itself among them. -/
def variants (n : Nat) : List Nat := (smallForms n).flatMap withLower

/-- Whether two characters differ in case only. -/
def areVariants (a b : Nat) : Bool := (smallForms a).contains (lower b)

end TypedTemplate.Folding
