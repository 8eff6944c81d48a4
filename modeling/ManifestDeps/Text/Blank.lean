/-
ManifestDeps.Text.Blank — white space, and texts without the white space
around them.
-/
namespace ManifestDeps.Text

/-- White space of any script. -/
def isWhiteSpace (c : Char) : Bool :=
  let n := c.toNat
  (9 ≤ n && n ≤ 13) || n == 0x20 || n == 0x85 || n == 0xa0 || n == 0x1680 ||
    (0x2000 ≤ n && n ≤ 0x200a) || n == 0x2028 || n == 0x2029 || n == 0x202f || n == 0x205f ||
    n == 0x3000

/-- White space, or one of the controls that separate records. -/
def isBlank (c : Char) : Bool :=
  isWhiteSpace c || (0x1c ≤ c.toNat && c.toNat ≤ 0x1f)

/-- A text without what satisfies `p` at its end. -/
def trimEnd (p : Char → Bool) (cs : List Char) : List Char :=
  (cs.reverse.dropWhile p).reverse

/-- A text without what satisfies `p` at its ends. -/
def trim (p : Char → Bool) (cs : List Char) : List Char :=
  trimEnd p (cs.dropWhile p)

/-- The words of a text between blanks; `acc` is the current word, last
character first. -/
def blankSplit (acc : List Char) : List Char → List String
  | [] => if acc.isEmpty then [] else [String.ofList acc.reverse]
  | c :: rest =>
    if Text.isBlank c then
      if acc.isEmpty then blankSplit [] rest
      else String.ofList acc.reverse :: blankSplit [] rest
    else blankSplit (c :: acc) rest

end ManifestDeps.Text
