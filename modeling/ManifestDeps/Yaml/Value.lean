/-
ManifestDeps.Yaml.Value — YAML values, and mappings of them.

Of two equal keys the later value counts at the place of the earlier;
numbers and switches are equal as keys when they are equal as numbers.
-/
import ManifestDeps.Yaml.Tag

namespace ManifestDeps.Yaml

open Decimal (Binary64)

/-- A YAML value. -/
inductive Value where
  | null
  | bool (b : Bool)
  | int (n : Int)
  | float (x : Binary64)
  | str (s : String)
  | bytes (bs : List UInt8)
  | date (t : Timestamp)
  | seq (items : List Value)
  | map (pairs : List (Value × Value))
  | set (items : List Value)
  /-- Pairs in order, which are no mapping. -/
  | pairs (items : List (Value × Value))
  /-- A collection that the value lies in itself. -/
  | enclosing
  deriving Inhabited

namespace Value

/-- Something is there: neither null, nor false, nor zero, nor empty. -/
def isSet : Value → Bool
  | .null => false
  | .bool b => b
  | .int n => n != 0
  | .float x => !x.isZero
  | .str s => s != ""
  | .bytes bs => !bs.isEmpty
  | .date _ => true
  | .seq items => !items.isEmpty
  | .map ps => !ps.isEmpty
  | .set items => !items.isEmpty
  | .pairs items => !items.isEmpty
  | .enclosing => true

/-- What a value is as a key of a mapping, if it can be one. -/
inductive Key where
  | null
  | number (n : Int)
  | fraction (x : Binary64)
  | str (s : String)
  | bytes (bs : List UInt8)
  | date (t : Timestamp)
  deriving DecidableEq

/-- The key that a value is; collections cannot be keys. -/
def key? : Value → Option Key
  | .null => some .null
  | .bool b => some (.number (if b then 1 else 0))
  | .int n => some (.number n)
  | .float x => match x.toInt? with
    | some n => some (.number n)
    | none => some (.fraction x)
  | .str s => some (.str s)
  | .bytes bs => some (.bytes bs)
  | .date t => some (.date t)
  | .seq _ | .map _ | .set _ | .pairs _ | .enclosing => none

/-- Bind a key to a value: in its place if an equal key is there. -/
def bind (ps : List (Value × Value)) (k : Value) (key : Key) (v : Value) : List (Value × Value) :=
  match ps with
  | [] => [(k, v)]
  | (l, w) :: rest =>
    if l.key? = some key then (l, v) :: rest else (l, w) :: bind rest k key v

/-- The value that a text is bound to in a mapping. -/
def lookup (ps : List (Value × Value)) (name : String) : Option Value :=
  (ps.find? fun p => p.1.key? == some (.str name)).map Prod.snd

end Value

end ManifestDeps.Yaml
