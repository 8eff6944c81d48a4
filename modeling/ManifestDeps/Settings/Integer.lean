/-
ManifestDeps.Settings.Integer — integers as people write them in settings.

An integer may be a number without a fraction, a switch (0 or 1), or a
text: blanks around it, a sign, digits with single underscores between
them, and a fraction of zeros.
-/
import ManifestDeps.Text.Blank
import ManifestDeps.Validation
import ManifestDeps.Yaml.Scalar

namespace ManifestDeps

/-- The digits of a text, with single underscores between them. -/
def groupedDigits? : List Char → Option (List Char)
  | [] => none
  | [c] => if Json.isDigit c then some [c] else none
  | c :: '_' :: rest =>
    if Json.isDigit c then (groupedDigits? rest).map (c :: ·) else none
  | c :: rest => if Json.isDigit c then (groupedDigits? rest).map (c :: ·) else none

/-- The part of a text before a fraction of zeros. -/
def dropZeroFraction (cs : List Char) : List Char :=
  let zeros := (cs.reverse.takeWhile (· == '0')).length
  match cs.reverse.drop zeros with
  | '.' :: rest => if 0 < zeros then rest.reverse else cs
  | _ => cs

/-- The integer that a text stands for. -/
def integerOfText (s : String) : Except ShapeFault Int :=
  let cs := Text.trim Text.isWhiteSpace s.toList
  if Json.maxDigits < cs.length then .error .tooLarge
  else
    let (negative, body) := Yaml.splitSign cs
    match groupedDigits? (dropZeroFraction body) with
    | some ds =>
      let n : Int := Json.digitsValue ds
      .ok (if negative then -n else n)
    | none => .error .notIntegerText

/-- The integer that a floating-point number is, within 64 bits. -/
def integerOfFloat (x : Decimal.Binary64) : Except ShapeFault Int :=
  match x with
  | .finite _ _ _ =>
    match x.toInt? with
    | some n => if n.natAbs < Nat.pow 2 63 then .ok n else .error .tooLarge
    | none => .error .hasFraction
  | _ => .error .notFinite

/-- The text that bytes stand for. -/
def textOfBytes? (bs : List UInt8) : Option String :=
  match Text.decodeUtf8 bs with
  | .ok cs => some (String.ofList cs)
  | .error _ => none

/-- The integer that a value of the settings stands for. -/
def integerOfValue : Yaml.Value → Except ShapeFault Int
  | .int n => .ok n
  | .bool b => .ok (if b then 1 else 0)
  | .float x => integerOfFloat x
  | .str s => integerOfText s
  | .bytes bs =>
    match textOfBytes? bs with
    | some s => integerOfText s
    | none => .error .notIntegerText
  | _ => .error .notInteger

end ManifestDeps
