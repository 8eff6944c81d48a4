/-
ManifestDeps.Text.Similarity — how much two words have in common, and the
words that come close to a misspelled one.

The common characters of two words are those of their longest common
block, together with those of the parts in front of the blocks and of the
parts behind them. Words come close when at least six tenths of their
characters are common.
-/
namespace ManifestDeps.Text

/-- The number of characters that two texts start with alike. -/
def commonStart : List Char → List Char → Nat
  | a :: as, b :: bs => if a = b then commonStart as bs + 1 else 0
  | _, _ => 0

/-- A block of two texts: where it starts in each, and its length. -/
structure Block where
  first : Nat
  second : Nat
  size : Nat
  deriving Repr, DecidableEq

/-- The longest common block of two texts, the earliest in the first text if
there are several, and then the earliest in the second. -/
def longestBlock (as bs : List Char) : Block :=
  let blocks := (List.range as.length).flatMap fun i =>
    (List.range bs.length).map fun j => ⟨i, j, commonStart (as.drop i) (bs.drop j)⟩
  blocks.foldl (fun best b => if best.size < b.size then b else best) ⟨0, 0, 0⟩

/-- The number of common characters; `rounds` bounds how often a text is
split. -/
def commonCount : Nat → List Char → List Char → Nat
  | 0, _, _ => 0
  | rounds + 1, as, bs =>
    let b := longestBlock as bs
    if b.size = 0 then 0
    else
      b.size + commonCount rounds (as.take b.first) (bs.take b.second) +
        commonCount rounds (as.drop (b.first + b.size)) (bs.drop (b.second + b.size))

/-- Two words come close. -/
def isClose (a b : String) : Bool :=
  let n := commonCount a.length a.toList b.toList
  6 * (a.length + b.length) ≤ 10 * (2 * n)

/-- The words that come close to a word, at most three, in order. -/
def closeWords (word : String) (candidates : List String) : List String :=
  let close := candidates.filter fun c => isClose c word
  (close.take 3).mergeSort fun a b => decide (a ≤ b)

end ManifestDeps.Text
