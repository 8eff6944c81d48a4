/-
ManifestDeps.Yaml.Node — the nodes of a document.

A node is a scalar, a sequence or a mapping, with a tag. The tag is given,
or follows from the form of a plain scalar, or is that of texts, sequences
and mappings. An alias stands for a copy of the node with its anchor; the
node that an alias lies in itself has no copy yet, and `enclosing` stands
for it.
-/
import ManifestDeps.Yaml.Lexer
import ManifestDeps.Yaml.Tag

namespace ManifestDeps.Yaml

/-- A node of a document. -/
inductive Node where
  | scalar (tag : String) (text : String)
  | sequence (tag : String) (items : List Node)
  | mapping (tag : String) (pairs : List (Node × Node))
  | enclosing
  deriving Inhabited

/-- Greatest depth of nested nodes, where nothing else is said. -/
def maxDepth : Nat := 480

/-- What is known while a document is read: its tag handles, how deep nodes
may nest, the nodes that have an anchor, and how deep the current node
stands. -/
structure Scope where
  handles : List (String × String)
  limit : Nat
  anchors : List (String × Node) := []
  depth : Nat := 0

namespace Scope

/-- The tag handles of every document. -/
def defaultHandles : List (String × String) :=
  [("!", "!"), ("!!", Tag.core)]

/-- Give a node an anchor. -/
def bind (s : Scope) (anchor : Option String) (n : Node) : Scope :=
  match anchor with
  | none => s
  | some a => { s with anchors := (a, n) :: s.anchors.filter (·.1 != a) }

/-- One level deeper. -/
def enter (s : Scope) : Except LoadError Scope :=
  if s.limit ≤ s.depth then .error .tooDeep else .ok { s with depth := s.depth + 1 }

/-- The tag that a handle and suffix stand for. -/
def tag? (s : Scope) (handle : Option String) (suffix : String) : Option String :=
  match handle with
  | none => some suffix
  | some h => (s.handles.lookup h).map (· ++ suffix)

end Scope

/-- What stands in front of a node. -/
structure Properties where
  anchor : Option String := none
  tag : Option String := none

/-- Read the anchor and the tag in front of a node, in either order. -/
def readProperties (s : Scope) (ts : List Token) : Except LoadError (Properties × List Token) :=
  let tagOf (handle : Option String) (suffix : String) : Except LoadError (Option String) :=
    match s.tag? handle suffix with
    | some t => .ok (some t)
    | none => .error .malformed
  match ts with
  | .anchor a :: .tag h x :: rest => do .ok (⟨some a, ← tagOf h x⟩, rest)
  | .tag h x :: .anchor a :: rest => do .ok (⟨some a, ← tagOf h x⟩, rest)
  | .anchor a :: rest => .ok (⟨some a, none⟩, rest)
  | .tag h x :: rest => do .ok (⟨none, ← tagOf h x⟩, rest)
  | rest => .ok ({}, rest)

/-- The tag of a collection. -/
def collectionTag (given : Option String) (default : String) : String :=
  match given with
  | none => default
  | some t => if t = "!" then default else t

/-- The tag of a scalar. -/
def scalarTag (given : Option String) (text : String) (plain : Bool) : String :=
  match given with
  | none => if plain then Tag.ofPlain text else Tag.str
  | some t => if t = "!" then Tag.ofPlain text else t

/-- An empty node. -/
def emptyNode : Node :=
  .scalar (Tag.ofPlain "") ""

/-- A node that was read, with the scope and the tokens behind it. -/
abbrev NodeResult := Except LoadError (Node × Scope × List Token)

/-- A node with properties but without content. -/
def emptyWith (props : Properties) : Except LoadError Node :=
  if props.anchor.isSome || props.tag.isSome then .ok (.scalar (scalarTag props.tag "" true) "")
  else .error .malformed

/-- Where a node stands, which decides the block collections allowed. -/
inductive NodePlace where
  /-- Between brackets: no block collection. -/
  | flow
  /-- Outside of brackets. -/
  | block
  /-- As key or value of a block mapping, where a sequence need not be
  indented. -/
  | entry
  deriving DecidableEq

mutual
/-- Read a node. -/
def readNode (place : NodePlace) (s : Scope) : Nat → List Token → NodeResult
  | 0, _ => .error .malformed
  | fuel + 1, ts =>
    match ts with
    | .alias a :: rest =>
      match s.anchors.lookup a with
      | some n => .ok (n, s, rest)
      | none => .error .malformed
    | ts => do
      let (props, rest) ← readProperties s ts
      if props.anchor.any fun a => (s.anchors.lookup a).isSome then .error .malformed
      else
        let inner ← (s.bind props.anchor .enclosing).enter
        let close (n : Node) (s' : Scope) (rest : List Token) : NodeResult :=
          .ok (n, { s'.bind props.anchor n with depth := s.depth }, rest)
        let sequenceTag := collectionTag props.tag Tag.seq
        let mappingTag := collectionTag props.tag Tag.map
        match rest with
        | .blockEntry :: _ =>
          if place = .entry then do
            let (items, s', rest) ← readEntries false inner [] fuel rest
            close (.sequence sequenceTag items) s' rest
          else do close (← emptyWith props) inner rest
        | .scalar text plain :: rest =>
          close (.scalar (scalarTag props.tag text plain) text) inner rest
        | .flowSequenceStart :: rest => do
          let (items, s', rest) ← readFlowItems true inner [] fuel rest
          close (.sequence sequenceTag items) s' rest
        | .flowMappingStart :: rest => do
          let (pairs, s', rest) ← readFlowPairs true inner [] fuel rest
          close (.mapping mappingTag pairs) s' rest
        | .blockSequenceStart :: tail =>
          if place = .flow then do close (← emptyWith props) inner rest
          else do
            let (items, s', rest) ← readEntries true inner [] fuel tail
            close (.sequence sequenceTag items) s' rest
        | .blockMappingStart :: tail =>
          if place = .flow then do close (← emptyWith props) inner rest
          else do
            let (pairs, s', rest) ← readPairs inner [] fuel tail
            close (.mapping mappingTag pairs) s' rest
        | _ => do close (← emptyWith props) inner rest

/-- Read the entries of a block sequence, which a block end closes if it is
indented. -/
def readEntries (indented : Bool) (s : Scope) (acc : List Node) :
    Nat → List Token → Except LoadError (List Node × Scope × List Token)
  | 0, _ => .error .malformed
  | fuel + 1, ts =>
    match ts with
    | .blockEntry :: rest =>
      let isEmpty := match rest with
        | .blockEntry :: _ | .blockEnd :: _ => true
        | .key :: _ | .value :: _ => !indented
        | _ => false
      if isEmpty then readEntries indented s (emptyNode :: acc) fuel rest
      else do
        let (n, s, rest) ← readNode .block s fuel rest
        readEntries indented s (n :: acc) fuel rest
    | ts =>
      if indented then
        match ts with
        | .blockEnd :: rest => .ok (acc.reverse, s, rest)
        | _ => .error .malformed
      else .ok (acc.reverse, s, ts)

/-- Read the pairs of a block mapping. -/
def readPairs (s : Scope) (acc : List (Node × Node)) :
    Nat → List Token → Except LoadError (List (Node × Node) × Scope × List Token)
  | 0, _ => .error .malformed
  | fuel + 1, ts =>
    match ts with
    | .key :: rest => do
      let (k, s, rest) ← readEntryNode s fuel rest
      match rest with
      | .value :: rest =>
        let (v, s, rest) ← readEntryNode s fuel rest
        readPairs s ((k, v) :: acc) fuel rest
      | rest => readPairs s ((k, emptyNode) :: acc) fuel rest
    | .blockEnd :: rest => .ok (acc.reverse, s, rest)
    | _ => .error .malformed

/-- Read a key or value of a block mapping, which may be left out. -/
def readEntryNode (s : Scope) : Nat → List Token → NodeResult
  | 0, _ => .error .malformed
  | fuel + 1, ts =>
    match ts with
    | .key :: _ | .value :: _ | .blockEnd :: _ => .ok (emptyNode, s, ts)
    | ts => readNode .entry s fuel ts

/-- Read the items between brackets; a pair there is a mapping of its own. -/
def readFlowItems (first : Bool) (s : Scope) (acc : List Node) :
    Nat → List Token → Except LoadError (List Node × Scope × List Token)
  | 0, _ => .error .malformed
  | fuel + 1, ts =>
    match ts with
    | .flowSequenceEnd :: rest => .ok (acc.reverse, s, rest)
    | ts => do
      let ts ← if first then .ok ts else match ts with
        | .flowEntry :: rest => .ok rest
        | _ => .error .malformed
      match ts with
      | .flowSequenceEnd :: rest => .ok (acc.reverse, s, rest)
      | .key :: rest =>
        let inner ← s.enter
        let (k, inner, rest) ← readFlowNode inner fuel rest
        let (v, inner, rest) ← match rest with
          | .value :: rest => readFlowNode inner fuel rest
          | rest => .ok (emptyNode, inner, rest)
        readFlowItems false { inner with depth := s.depth }
          (.mapping Tag.map [(k, v)] :: acc) fuel rest
      | ts =>
        let (n, s, rest) ← readNode .flow s fuel ts
        readFlowItems false s (n :: acc) fuel rest

/-- Read the pairs between braces. -/
def readFlowPairs (first : Bool) (s : Scope) (acc : List (Node × Node)) :
    Nat → List Token → Except LoadError (List (Node × Node) × Scope × List Token)
  | 0, _ => .error .malformed
  | fuel + 1, ts =>
    match ts with
    | .flowMappingEnd :: rest => .ok (acc.reverse, s, rest)
    | ts => do
      let ts ← if first then .ok ts else match ts with
        | .flowEntry :: rest => .ok rest
        | _ => .error .malformed
      match ts with
      | .flowMappingEnd :: rest => .ok (acc.reverse, s, rest)
      | .key :: rest =>
        let (k, s, rest) ← readFlowNode s fuel rest
        match rest with
        | .value :: rest =>
          let (v, s, rest) ← readFlowNode s fuel rest
          readFlowPairs false s ((k, v) :: acc) fuel rest
        | rest => readFlowPairs false s ((k, emptyNode) :: acc) fuel rest
      | ts =>
        let (k, s, rest) ← readNode .flow s fuel ts
        readFlowPairs false s ((k, emptyNode) :: acc) fuel rest

/-- Read a key or value between brackets, which may be left out. -/
def readFlowNode (s : Scope) : Nat → List Token → NodeResult
  | 0, _ => .error .malformed
  | fuel + 1, ts =>
    match ts with
    | .value :: _ | .flowEntry :: _ | .flowSequenceEnd :: _ | .flowMappingEnd :: _ =>
      .ok (emptyNode, s, ts)
    | ts => readNode .flow s fuel ts
end

/-- The tag handles that the directives in front of a document set. -/
def directiveHandles (versioned : Bool) (acc : List (String × String)) :
    List Token → Except LoadError (List (String × String) × List Token)
  | .directive (.version major _) :: rest =>
    if versioned || major != 1 then .error .malformed else directiveHandles true acc rest
  | .directive (.tagHandle handle expansion) :: rest =>
    if (acc.lookup handle).isSome then .error .malformed
    else directiveHandles versioned ((handle, expansion) :: acc) rest
  | .directive .other :: rest => directiveHandles versioned acc rest
  | rest => .ok (acc ++ Scope.defaultHandles, rest)

/-- Read the content of a document, which may be empty. -/
def readContent (handles : List (String × String)) (limit : Nat) (ts : List Token) :
    Except LoadError (Node × List Token) :=
  match ts with
  | .directive _ :: _ | .documentStart :: _ | .documentEnd :: _ | .streamEnd :: _ =>
    .ok (emptyNode, ts)
  | ts => do
    let (n, _, rest) ← readNode .block { handles, limit } (4 * ts.length + 16) ts
    .ok (n, rest)

/-- The one document of a text, if it holds any. -/
def Node.ofTokens? (ts : List Token) (limit : Nat) : Except LoadError (Option Node) := do
  match ts with
  | [.streamEnd] => .ok none
  | ts =>
    let (n, rest) ← match ts with
      | .directive _ :: _ | .documentStart :: _ => do
        let (handles, rest) ← directiveHandles false [] ts
        match rest with
        | .documentStart :: rest => readContent handles limit rest
        | _ => .error .malformed
      | ts => do
        let (n, _, rest) ←
          readNode .block { handles := Scope.defaultHandles, limit } (4 * ts.length + 16) ts
        .ok (n, rest)
    let rest := rest.dropWhile (· == .documentEnd)
    if rest == [.streamEnd] then .ok (some n) else .error .malformed

end ManifestDeps.Yaml
