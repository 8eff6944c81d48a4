/-
ManifestDeps.Yaml.Load — the value of a YAML text.

A node becomes a value by its tag. Mappings take over the pairs of other
mappings under the merge key; a mapping that merges a collection it lies in
takes nothing over from there. A text holds one document at most, and none
is the value null.

Scalars are built where they are met, collections are filled later, in the
order in which they were met. So the first of several failures is the one
that stands least deep. `Node.fillAll` goes through the nodes of a document
in this order, and what it lets through is then put together.
-/
import ManifestDeps.Yaml.Node
import ManifestDeps.Yaml.Scalar

namespace ManifestDeps.Yaml

/-! ## Mappings -/

/-- The tag of a scalar node. -/
def Node.scalarTag? : Node → Option String
  | .scalar tag _ => some tag
  | _ => none

/-- The pairs of a mapping, with the pairs of others that stand under merge
keys in front. Of several mappings in a list the first counts most, so its
pairs come last. -/
def flatten : Nat → List (Node × Node) → Except LoadError (List (Node × Node))
  | 0, _ => .error .malformed
  | fuel + 1, ps => do
    let merged ← ps.foldlM (fun (acc : List (Node × Node)) p =>
      if p.1.scalarTag? == some Tag.merge then
        match p.2 with
        | .mapping _ qs => do .ok (acc ++ (← flatten fuel qs))
        | .sequence _ items => do
          let parts ← items.mapM fun item => match item with
            | .mapping _ qs => flatten fuel qs
            | .enclosing => .ok []
            | _ => .error LoadError.malformed
          .ok (acc ++ parts.reverse.flatten)
        | .enclosing => .ok acc
        | _ => .error .malformed
      else .ok acc) []
    .ok (merged ++ ps.filter fun p => p.1.scalarTag? != some Tag.merge)

/-- The scalar text of a node, where a mapping stands for its default. -/
def scalarText? : Nat → Node → Option String
  | 0, _ => none
  | fuel + 1, n =>
    match n with
    | .scalar _ text => some text
    | .mapping _ ps =>
      (ps.find? fun p => p.1.scalarTag? == some Tag.default).bind fun p => scalarText? fuel p.2
    | _ => none

/-- The tags of scalars. -/
def scalarTags : List String :=
  [Tag.null, Tag.bool, Tag.int, Tag.float, Tag.binary, Tag.str, Tag.timestamp]

/-- The value of a mapping that has the tag of a scalar. A date is looked for
in the pairs themselves. -/
def defaultValue (fuel : Nat) (tag : String) (ps : List (Node × Node)) : Except LoadError Value :=
  if scalarTags.contains tag then
    match scalarText? fuel (.mapping tag ps) with
    | some text => if tag = Tag.timestamp then .error .dateOfCollection else scalarValue tag text
    | none => .error .malformed
  else .error .malformed

/-! ## Values -/

mutual
/-- The value of a node, by recursion on a bound for its height. -/
def valueOf : Nat → Node → Except LoadError Value
  | 0, _ => .error .tooDeep
  | fuel + 1, n =>
    match n with
    | .enclosing => .ok .enclosing
    | .scalar tag text => scalarValue tag text
    | .sequence tag items =>
      if tag = Tag.seq then do .ok (.seq (← items.mapM (valueOf fuel)))
      else if tag = Tag.omap ∨ tag = Tag.pairs then do
        let ps ← items.mapM fun item => match item with
          | .mapping _ [(k, v)] => do .ok (← valueOf fuel k, ← valueOf fuel v)
          | _ => .error LoadError.malformed
        .ok (.pairs ps)
      else .error .malformed
    | .mapping tag ps =>
      if tag = Tag.map then do .ok (.map (← pairsOf fuel ps))
      else if tag = Tag.set then do .ok (.set ((← pairsOf fuel ps).map Prod.fst))
      else defaultValue (fuel + 1) tag ps

/-- The bindings of a mapping. -/
def pairsOf : Nat → List (Node × Node) → Except LoadError (List (Value × Value))
  | 0, _ => .error .tooDeep
  | fuel + 1, ps => do
    let ps ← flatten (fuel + 1) ps
    ps.foldlM (fun acc p => do
      let k ← match p.1 with
        | .scalar tag text => if tag = Tag.default then .ok (.str text) else scalarValue tag text
        | n => valueOf fuel n
      match k.key? with
      | none => .error .malformed
      | some key => do .ok (Value.bind acc k key (← valueOf fuel p.2))) []
end

/-! ## The order of failures -/

namespace Node

mutual
/-- The height of a node over its scalars. -/
def height : Node → Nat
  | .scalar _ _ => 0
  | .sequence _ items => itemsHeight items + 1
  | .mapping _ ps => pairsHeight ps + 1
  | .enclosing => 0

/-- The greatest height of some items. -/
def itemsHeight : List Node → Nat
  | [] => 0
  | n :: rest => max n.height (itemsHeight rest)

/-- The greatest height of some keys and values. -/
def pairsHeight : List (Node × Node) → Nat
  | [] => 0
  | (k, v) :: rest => max (max k.height v.height) (pairsHeight rest)
end

/-- The tags of collections. -/
def collectionTags : List String :=
  [Tag.seq, Tag.map, Tag.set, Tag.omap, Tag.pairs]

/-- What is left to be filled when a node has been met: the node itself if it
is a collection by its tag. -/
def meet (n : Node) : Except LoadError (List Node) :=
  match n with
  | .enclosing => .ok []
  | .scalar tag text =>
    if collectionTags.contains tag then .ok [n] else (scalarValue tag text).map fun _ => []
  | .sequence tag _ => if collectionTags.contains tag then .ok [n] else .error .malformed
  | .mapping tag ps =>
    if collectionTags.contains tag then .ok [n]
    else (defaultValue (n.height + 1) tag ps).map fun _ => []

/-- Meet a key, which may not be a collection. -/
def meetKey (n : Node) : Except LoadError (List Node) :=
  match n with
  | .enclosing => .error .malformed
  | .scalar tag _ => if tag = Tag.default then .ok [] else n.meet.bind refuse
  | n => n.meet.bind refuse
where
  refuse : List Node → Except LoadError (List Node)
    | [] => .ok []
    | _ :: _ => .error .malformed

/-- Meet what a collection holds. -/
def fill (n : Node) : Except LoadError (List Node) :=
  match n with
  | .sequence tag items =>
    if tag = Tag.seq then do
      let met ← items.mapM meet
      .ok met.flatten
    else if tag = Tag.omap ∨ tag = Tag.pairs then do
      let met ← items.mapM fun item => match item with
        | .mapping _ [(k, v)] => do .ok ((← k.meet) ++ (← v.meet))
        | _ => .error LoadError.malformed
      .ok met.flatten
    else .error .malformed
  | .mapping tag ps =>
    if tag = Tag.map ∨ tag = Tag.set then do
      let met ← (← flatten n.height ps).mapM fun p => do
        let _ ← p.1.meetKey
        p.2.meet
      .ok met.flatten
    else .error .malformed
  | _ => .error .malformed

/-- Fill collections in the order in which they were met, by recursion on a
bound for their height. -/
def fillAll : Nat → List Node → Except LoadError Unit
  | _, [] => .ok ()
  | 0, _ :: _ => .error .tooDeep
  | fuel + 1, ns => do
    let met ← ns.mapM fill
    fillAll fuel met.flatten

/-- The value of a document. -/
def value (n : Node) : Except LoadError Value := do
  fillAll (n.height + 1) (← n.meet)
  valueOf (2 * n.height + 2) n

end Node

/-- The value of a text, with nodes that nest up to a depth. -/
def load (s : String) (depth : Nat := maxDepth) : Except LoadError Value := do
  let ts ← tokenize s.toList
  match ← Node.ofTokens? ts depth with
  | none => .ok .null
  | some n => n.value

end ManifestDeps.Yaml
