/-
ManifestDeps.Text.CaseMap — full upper and lower case of a text.

A character maps to one or several characters, independent of any
language. The one rule that looks at the context is the final sigma: a
capital sigma becomes `ς` when a cased character stands before it and
none after it, where case-ignorable characters in between do not count.
-/
import ManifestDeps.Text.CodeRange
import ManifestDeps.Text.CaseTable

namespace ManifestDeps.Text

/-- The image of a code point under the first run that holds it. -/
def CaseRun.image? (n : Nat) (r : CaseRun) : Option Nat :=
  if r.first ≤ n && n ≤ r.last && (n - r.first) % r.step == 0 then
    some (Int.toNat (n + r.distance))
  else none

/-- The image of a character: an expansion if it has one, else its simple
mapping, else the character itself. -/
def mapCase (runs : List CaseRun) (expansions : List (Nat × List Nat)) (c : Char) : List Char :=
  match expansions.lookup c.toNat with
  | some image => image.map Char.ofNat
  | none =>
    match runs.findSome? (CaseRun.image? c.toNat) with
    | some n => [Char.ofNat n]
    | none => [c]

/-- Upper case of a character. -/
def upperChar (c : Char) : List Char :=
  mapCase upperRuns upperExpansions c

/-- Lower case of a character outside of any context. -/
def lowerChar (c : Char) : List Char :=
  mapCase lowerRuns lowerExpansions c

/-- The character is looked through when the context of a sigma is judged. -/
def isCaseIgnorable (c : Char) : Bool :=
  inRanges ignorableRanges c.toNat

/-- The nearest character of `cs` that is not case-ignorable is cased. -/
def startsCased (cs : List Char) : Bool :=
  match cs.dropWhile isCaseIgnorable with
  | [] => false
  | c :: _ => inRanges casedRanges c.toNat

/-- Lower case of the characters `cs`, where `before` holds what stands
before them, nearest first. -/
def lowerFrom (before : List Char) : List Char → List Char
  | [] => []
  | c :: rest =>
    let image :=
      if c = 'Σ' then
        if startsCased before && !startsCased rest then ['ς'] else ['σ']
      else lowerChar c
    image ++ lowerFrom (c :: before) rest

/-- Upper case of a text. -/
def upper (s : String) : String :=
  String.ofList (s.toList.flatMap upperChar)

/-- Lower case of a text. -/
def lower (s : String) : String :=
  String.ofList (lowerFrom [] s.toList)

end ManifestDeps.Text
