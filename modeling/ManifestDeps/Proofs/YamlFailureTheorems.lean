/-
ManifestDeps.Proofs.YamlFailureTheorems — where the reading of a YAML text
stops, and why.

A text becomes tokens, the tokens become a node, and the node becomes a
value. Each of the three may stop because the text is malformed, and each
has reasons of its own: an escape beyond the last code point, nodes nested
too deep, and scalars that stand for no value of their tag or a date that
should be read off a collection (`load_eq_error`). A malformed text is what a
caller expects; the others it has to expect, too.

## How the proof goes

`FailsOnly` says of a computation what its failures are. It goes through
`bind`, so that there is one lemma for each function, which its callers use
and grind finds by itself; a proof only says what is unfolded, and where the
induction is. The readers of nodes call each other, all with one fuel less,
and go by one induction on it (`readersFailOnly`). For values the reasons
depend on the node: `Node.HasScalar` is passed from the items and pairs of a
node to the node itself, also when pairs are merged. Filling collections goes
the other way, from a node to what it holds, so that a node is met with a
statement about its failures and one about the nodes that it leaves (`Meets`).
-/
import ManifestDeps.Yaml.Load

namespace ManifestDeps.Yaml

/-! ## §1 Computations and their failures -/

/-- All failures of a computation are of a kind. -/
def FailsOnly {α : Type} (P : LoadError → Prop) (x : Except LoadError α) : Prop :=
  ∀ e, x = .error e → P e

namespace FailsOnly

variable {α β : Type} {P Q : LoadError → Prop}

@[grind .] theorem ok (a : α) : FailsOnly P (.ok a) := by
  intro e h
  cases h

@[grind =] theorem error_iff (e : LoadError) :
    FailsOnly P (.error e : Except LoadError α) ↔ P e :=
  ⟨fun h => h e rfl, fun h _ he => Except.error.inj he ▸ h⟩

/-- A computation that succeeds goes on with its result. -/
theorem bind_of_ok {x : Except LoadError α} {f : α → Except LoadError β} (hx : FailsOnly P x)
    (hf : ∀ a, x = .ok a → FailsOnly P (f a)) : FailsOnly P (x >>= f) := by
  cases x with
  | ok a => exact hf a rfl
  | error e => exact (error_iff e).mpr (hx e rfl)

@[grind ←] theorem bind {x : Except LoadError α} {f : α → Except LoadError β}
    (hx : FailsOnly P x) (hf : ∀ a, FailsOnly P (f a)) : FailsOnly P (x >>= f) :=
  hx.bind_of_ok fun a _ => hf a

theorem ite {c : Prop} [Decidable c] {x y : Except LoadError α} (hx : FailsOnly P x)
    (hy : FailsOnly P y) : FailsOnly P (if c then x else y) := by
  split
  · exact hx
  · exact hy

theorem mono {x : Except LoadError α} (h : FailsOnly P x) (hPQ : ∀ e, P e → Q e) :
    FailsOnly Q x :=
  fun e he => hPQ e (h e he)

theorem mapM {f : α → Except LoadError β} {xs : List α} (h : ∀ x ∈ xs, FailsOnly P (f x)) :
    FailsOnly P (xs.mapM f) := by
  induction xs with
  | nil => exact .ok []
  | cons x rest ih =>
    rw [List.mapM_cons]
    exact (h x List.mem_cons_self).bind fun y =>
      (ih fun z hz => h z (List.mem_cons_of_mem x hz)).bind fun ys => .ok (y :: ys)

theorem foldlM {f : β → α → Except LoadError β} {xs : List α}
    (h : ∀ x ∈ xs, ∀ b, FailsOnly P (f b x)) (b : β) : FailsOnly P (xs.foldlM f b) := by
  induction xs generalizing b with
  | nil => exact .ok b
  | cons x rest ih =>
    rw [List.foldlM_cons]
    exact (h x List.mem_cons_self b).bind (ih fun z hz => h z (List.mem_cons_of_mem x hz))

end FailsOnly

/-- All results of a computation have a property. -/
def Yields {α : Type} (Q : α → Prop) (x : Except LoadError α) : Prop :=
  ∀ a, x = .ok a → Q a

namespace Yields

variable {α β : Type} {Q : α → Prop} {R : β → Prop}

theorem ok {a : α} (h : Q a) : Yields Q (.ok a) := by
  intro b hb
  cases hb
  exact h

theorem error (e : LoadError) : Yields Q (.error e) := by
  intro a h
  cases h

theorem bind {x : Except LoadError α} {f : α → Except LoadError β} (hx : Yields Q x)
    (hf : ∀ a, Q a → Yields R (f a)) : Yields R (x >>= f) := by
  cases x with
  | ok a => exact hf a (hx a rfl)
  | error e => exact .error e

theorem mono {x : Except LoadError α} {Q' : α → Prop} (h : Yields Q x) (hQ : ∀ a, Q a → Q' a) :
    Yields Q' x :=
  fun a ha => hQ a (h a ha)

theorem mapM {f : α → Except LoadError β} {xs : List α} (h : ∀ x ∈ xs, Yields R (f x)) :
    Yields (∀ y ∈ ·, R y) (xs.mapM f) := by
  induction xs with
  | nil => exact .ok (by simp)
  | cons x rest ih =>
    rw [List.mapM_cons]
    refine (h x List.mem_cons_self).bind fun y hy => ?_
    refine (ih fun z hz => h z (List.mem_cons_of_mem x hz)).bind fun ys hys => ?_
    exact .ok (List.forall_mem_cons.mpr ⟨hy, hys⟩)

theorem foldlM {f : β → α → Except LoadError β} {xs : List α}
    (h : ∀ x ∈ xs, ∀ b, R b → Yields R (f b x)) {b : β} (hb : R b) :
    Yields R (xs.foldlM f b) := by
  induction xs generalizing b with
  | nil => exact .ok hb
  | cons x rest ih =>
    rw [List.foldlM_cons]
    exact (h x List.mem_cons_self b hb).bind fun c hc =>
      ih (fun z hz => h z (List.mem_cons_of_mem x hz)) hc

end Yields

/-! ## §2 Tokens -/

/-- Failures while a text is cut into tokens. -/
@[grind] inductive LoadError.Lexical : LoadError → Prop where
  | malformed : Lexical .malformed
  | beyondUnicode : Lexical .beyondUnicode

open LoadError (Lexical)

section Tokens

variable (l : Lexer) (c : Cursor)

@[grind .] theorem Cursor.failsOnly_skipRestOfLine : FailsOnly Lexical c.skipRestOfLine := by
  grind [Cursor.skipRestOfLine]

@[grind .] theorem failsOnly_quotedBreaks (acc : List Char) (rounds : Nat) :
    FailsOnly Lexical (quotedBreaks acc rounds c) := by
  fun_induction quotedBreaks acc rounds c <;> grind

@[grind .] theorem failsOnly_readQuoted (double : Bool) (acc : List Char) (rounds : Nat) :
    FailsOnly Lexical (readQuoted double acc rounds c) := by
  fun_induction readQuoted double acc rounds c <;> grind

@[grind .] theorem failsOnly_indentationDigit? : FailsOnly Lexical (indentationDigit? c) := by
  grind [indentationDigit?]

@[grind .] theorem failsOnly_blockHead : FailsOnly Lexical (blockHead c) := by
  grind [blockHead]

@[grind .] theorem failsOnly_readBlock (fold : Bool) (indent : Int) :
    FailsOnly Lexical (readBlock fold indent c) := by
  grind [readBlock]

namespace Lexer

@[grind .] theorem failsOnly_dropStaleKeys : FailsOnly Lexical l.dropStaleKeys := by
  grind [dropStaleKeys]

@[grind .] theorem failsOnly_dropKey : FailsOnly Lexical l.dropKey := by
  grind [dropKey]

@[grind .] theorem failsOnly_saveKey : FailsOnly Lexical l.saveKey := by
  grind [saveKey]

@[grind .] theorem failsOnly_endOfStream : FailsOnly Lexical l.endOfStream := by
  grind [endOfStream]

@[grind .] theorem failsOnly_number : FailsOnly Lexical (number c) := by
  grind [number]

@[grind .] theorem failsOnly_tagHandle : FailsOnly Lexical (tagHandle c) := by
  grind [tagHandle]

@[grind .] theorem failsOnly_tagEscapes (acc : List UInt8) (rounds : Nat) :
    FailsOnly Lexical (tagEscapes acc rounds c) := by
  fun_induction tagEscapes acc rounds c <;> grind

@[grind .] theorem failsOnly_tagRest (acc : List Char) (rounds : Nat) :
    FailsOnly Lexical (tagRest acc rounds c) := by
  induction rounds generalizing acc c with grind [tagRest]

@[grind .] theorem failsOnly_tagSuffix : FailsOnly Lexical (tagSuffix c) := by
  grind [tagSuffix]

@[grind .] theorem failsOnly_directive : FailsOnly Lexical l.directive := by
  grind [directive]

@[grind .] theorem failsOnly_documentMarker (t : Token) :
    FailsOnly Lexical (l.documentMarker t) := by
  grind [documentMarker]

@[grind .] theorem failsOnly_openBracket (t : Token) : FailsOnly Lexical (l.openBracket t) := by
  grind [openBracket]

@[grind .] theorem failsOnly_closeBracket (t : Token) : FailsOnly Lexical (l.closeBracket t) := by
  grind [closeBracket]

@[grind .] theorem failsOnly_flowEntry : FailsOnly Lexical l.flowEntry := by
  grind [flowEntry]

@[grind .] theorem failsOnly_blockEntry : FailsOnly Lexical l.blockEntry := by
  grind [blockEntry]

@[grind .] theorem failsOnly_key : FailsOnly Lexical l.key := by
  grind [key]

@[grind .] theorem failsOnly_value : FailsOnly Lexical l.value := by
  grind [value]

@[grind .] theorem failsOnly_named (token : String → Token) :
    FailsOnly Lexical (l.named token) := by
  unfold named
  refine l.failsOnly_saveKey.bind fun l' => ?_
  dsimp only
  split
  · exact (FailsOnly.error_iff _).mpr .malformed
  split
  · exact .ok _
  · exact (FailsOnly.error_iff _).mpr .malformed

@[grind .] theorem failsOnly_tag : FailsOnly Lexical l.tag := by
  grind [tag]

@[grind .] theorem failsOnly_blockScalar (fold : Bool) :
    FailsOnly Lexical (l.blockScalar fold) := by
  grind [blockScalar]

@[grind .] theorem failsOnly_quotedScalar (double : Bool) :
    FailsOnly Lexical (l.quotedScalar double) := by
  grind [quotedScalar]

@[grind .] theorem failsOnly_plainScalar : FailsOnly Lexical l.plainScalar := by
  grind [plainScalar]

/-- One step takes one of twenty ways, each of them with its own lemma. -/
@[grind .] theorem failsOnly_step : FailsOnly Lexical l.step := by
  unfold step
  refine l.skipToToken.failsOnly_dropStaleKeys.bind fun l' => ?_
  dsimp only
  generalize l'.unwind l'.cur.column = l''
  repeat' apply FailsOnly.ite
  all_goals grind

theorem failsOnly_run (rounds : Nat) : FailsOnly Lexical (run rounds l) := by
  induction rounds generalizing l with grind [run]

end Lexer

/-- **Cutting into tokens** fails as malformed or at an escape. -/
theorem failsOnly_tokenize (cs : List Char) : FailsOnly Lexical (tokenize cs) := by
  unfold tokenize
  split
  · exact Lexer.failsOnly_run _ _
  · exact (FailsOnly.error_iff _).mpr .malformed

end Tokens

/-! ## §3 Nodes -/

/-- Failures while nodes are put together. -/
@[grind] inductive LoadError.Structural : LoadError → Prop where
  | malformed : Structural .malformed
  | tooDeep : Structural .tooDeep

open LoadError (Structural)

@[grind .] theorem Scope.failsOnly_enter (s : Scope) : FailsOnly Structural s.enter := by
  grind [Scope.enter]

@[grind .] theorem failsOnly_readProperties (s : Scope) (ts : List Token) :
    FailsOnly Structural (readProperties s ts) := by
  unfold readProperties
  dsimp only
  split
  · exact FailsOnly.bind (by grind) fun t => .ok _
  · exact FailsOnly.bind (by grind) fun t => .ok _
  · exact .ok _
  · exact FailsOnly.bind (by grind) fun t => .ok _
  · exact .ok _

@[grind .] theorem failsOnly_emptyWith (props : Properties) :
    FailsOnly Structural (emptyWith props) := by
  grind [emptyWith]

/-- What all readers with some fuel have in common. -/
structure ReadersFailOnly (fuel : Nat) : Prop where
  node (place : NodePlace) (s : Scope) (ts : List Token) :
    FailsOnly Structural (readNode place s fuel ts)
  entries (indented : Bool) (s : Scope) (acc : List Node) (ts : List Token) :
    FailsOnly Structural (readEntries indented s acc fuel ts)
  pairs (s : Scope) (acc : List (Node × Node)) (ts : List Token) :
    FailsOnly Structural (readPairs s acc fuel ts)
  entryNode (s : Scope) (ts : List Token) : FailsOnly Structural (readEntryNode s fuel ts)
  flowItems (first : Bool) (s : Scope) (acc : List Node) (ts : List Token) :
    FailsOnly Structural (readFlowItems first s acc fuel ts)
  flowPairs (first : Bool) (s : Scope) (acc : List (Node × Node)) (ts : List Token) :
    FailsOnly Structural (readFlowPairs first s acc fuel ts)
  flowNode (s : Scope) (ts : List Token) : FailsOnly Structural (readFlowNode s fuel ts)

theorem readersFailOnly (fuel : Nat) : ReadersFailOnly fuel := by
  induction fuel with
  | zero => constructor <;> intros <;> grind [readNode, readEntries, readPairs, readEntryNode,
      readFlowItems, readFlowPairs, readFlowNode]
  | succ fuel ih =>
    obtain ⟨node, entries, pairs, entryNode, flowItems, flowPairs, flowNode⟩ := ih
    constructor
    case node =>
      intros
      unfold readNode
      split
      · split <;> grind
      · refine (failsOnly_readProperties _ _).bind fun r => .ite (by grind) ?_
        refine (Scope.failsOnly_enter _).bind fun inner => ?_
        dsimp only
        split <;> grind
    case entries =>
      intros
      unfold readEntries
      split <;> grind
    case pairs =>
      intros
      unfold readPairs
      split <;> grind
    case entryNode =>
      intros
      unfold readEntryNode
      split <;> grind
    case flowItems =>
      intros
      unfold readFlowItems
      split
      · exact .ok _
      split
      · refine (FailsOnly.ok _).bind fun ts' => ?_
        dsimp only
        split <;> grind
      split
      · refine (FailsOnly.ok _).bind fun ts' => ?_
        dsimp only
        split <;> grind
      · exact (FailsOnly.error_iff _).mpr .malformed
    case flowPairs =>
      intros
      unfold readFlowPairs
      split
      · exact .ok _
      split
      · refine (FailsOnly.ok _).bind fun ts' => ?_
        dsimp only
        split <;> grind
      split
      · refine (FailsOnly.ok _).bind fun ts' => ?_
        dsimp only
        split <;> grind
      · exact (FailsOnly.error_iff _).mpr .malformed
    case flowNode =>
      intros
      unfold readFlowNode
      split <;> grind

@[grind .] theorem failsOnly_directiveHandles (versioned : Bool) (acc : List (String × String))
    (ts : List Token) : FailsOnly Structural (directiveHandles versioned acc ts) := by
  fun_induction directiveHandles versioned acc ts <;> grind

@[grind .] theorem failsOnly_readNode (place : NodePlace) (s : Scope) (fuel : Nat)
    (ts : List Token) : FailsOnly Structural (readNode place s fuel ts) :=
  (readersFailOnly fuel).node place s ts

@[grind .] theorem failsOnly_readContent (handles : List (String × String)) (limit : Nat)
    (ts : List Token) : FailsOnly Structural (readContent handles limit ts) := by
  unfold readContent
  split <;> grind

/-- **Putting nodes together** fails as malformed or too deep. -/
theorem Node.failsOnly_ofTokens? (ts : List Token) (limit : Nat) :
    FailsOnly Structural (Node.ofTokens? ts limit) := by
  unfold Node.ofTokens?
  split
  · exact .ok none
  · split <;> grind

/-! ## §4 Values -/

/-- A scalar in a node, with the tag that its text is read by. -/
inductive Node.HasScalar : Node → String → String → Prop where
  | scalar (tag text : String) : HasScalar (.scalar tag text) tag text
  /-- The default of a mapping that has the tag of a scalar. -/
  | default {tag text : String} {ps : List (Node × Node)} {fuel : Nat} :
      scalarText? fuel (.mapping tag ps) = some text → HasScalar (.mapping tag ps) tag text
  | item {tag tag' text : String} {items : List Node} {n : Node} :
      n ∈ items → HasScalar n tag' text → HasScalar (.sequence tag items) tag' text
  | key {tag tag' text : String} {ps : List (Node × Node)} {p : Node × Node} :
      p ∈ ps → HasScalar p.1 tag' text → HasScalar (.mapping tag ps) tag' text
  | value {tag tag' text : String} {ps : List (Node × Node)} {p : Node × Node} :
      p ∈ ps → HasScalar p.2 tag' text → HasScalar (.mapping tag ps) tag' text

/-- A scalar in pairs. -/
def PairsHaveScalar (ps : List (Node × Node)) (tag text : String) : Prop :=
  ∃ p ∈ ps, p.1.HasScalar tag text ∨ p.2.HasScalar tag text

/-- All scalars in pairs are of a kind. -/
def PairsWithin (HasScalar : String → String → Prop) (ps : List (Node × Node)) : Prop :=
  ∀ tag text, PairsHaveScalar ps tag text → HasScalar tag text

theorem PairsHaveScalar.mapping {ps : List (Node × Node)} {tag text : String}
    (h : PairsHaveScalar ps tag text) (tag' : String) :
    (Node.mapping tag' ps).HasScalar tag text := by
  obtain ⟨p, hp, hkey | hvalue⟩ := h
  · exact .key hp hkey
  · exact .value hp hvalue

namespace PairsWithin

variable {A B : String → String → Prop} {ps qs : List (Node × Node)}

theorem mono (h : PairsWithin A ps) (hAB : ∀ tag text, A tag text → B tag text) :
    PairsWithin B ps :=
  fun tag text hs => hAB tag text (h tag text hs)

theorem of_subset (h : qs ⊆ ps) : PairsWithin (PairsHaveScalar ps) qs :=
  fun _ _ ⟨p, hp, hs⟩ => ⟨p, h hp, hs⟩

theorem append (hp : PairsWithin A ps) (hq : PairsWithin A qs) : PairsWithin A (ps ++ qs) := by
  rintro tag text ⟨p, hmem, hs⟩
  rcases List.mem_append.mp hmem with hmem | hmem
  · exact hp tag text ⟨p, hmem, hs⟩
  · exact hq tag text ⟨p, hmem, hs⟩

theorem flatten {parts : List (List (Node × Node))} (h : ∀ ps ∈ parts, PairsWithin A ps) :
    PairsWithin A parts.flatten := by
  rintro tag text ⟨p, hmem, hs⟩
  obtain ⟨ps, hps, hmem⟩ := List.mem_flatten.mp hmem
  exact h ps hps tag text ⟨p, hmem, hs⟩

end PairsWithin

/-- **Merging brings in no scalar** that was not there: what stands under a
merge key is part of the pairs. -/
theorem yields_flatten (fuel : Nat) (ps : List (Node × Node)) :
    Yields (PairsWithin (PairsHaveScalar ps)) (flatten fuel ps) := by
  induction fuel generalizing ps with
  | zero => exact .error _
  | succ fuel ih =>
    unfold flatten
    refine Yields.bind (Q := PairsWithin (PairsHaveScalar ps)) (.foldlM ?_ (.of_subset (by simp)))
      fun merged hmerged => .ok (hmerged.append (.of_subset List.filter_sublist.subset))
    intro p hp acc hacc
    have hvalue : ∀ tag text, p.2.HasScalar tag text → PairsHaveScalar ps tag text :=
      fun _ _ h => ⟨p, hp, .inr h⟩
    split
    · split
      · rename_i tag qs hvalue_eq
        rw [hvalue_eq] at hvalue
        refine (ih qs).bind fun rs hrs => .ok (hacc.append (hrs.mono fun tag text h => ?_))
        exact hvalue tag text (h.mapping _)
      · rename_i tag items hvalue_eq
        rw [hvalue_eq] at hvalue
        refine (Yields.mapM fun item hitem => ?_).bind fun parts hparts =>
          .ok (hacc.append (.flatten fun rs hrs => hparts rs (List.mem_reverse.mp hrs)))
        split
        · rename_i qs
          exact (ih qs).mono fun rs hrs => hrs.mono fun tag text h =>
            hvalue tag text (.item hitem (h.mapping _))
        · exact .ok (.of_subset (by simp))
        · exact .error _
      · exact .ok hacc
      · exact .error _
    · exact .ok hacc

theorem failsOnly_flatten (fuel : Nat) (ps : List (Node × Node)) :
    FailsOnly (· = .malformed) (flatten fuel ps) := by
  induction fuel generalizing ps with
  | zero => exact (FailsOnly.error_iff _).mpr rfl
  | succ fuel ih =>
    unfold flatten
    refine FailsOnly.bind (.foldlM (fun p _ acc => ?_) _) fun merged => .ok _
    split
    · split
      · exact (ih _).bind fun rs => .ok _
      · refine FailsOnly.bind (.mapM fun item _ => ?_) fun parts => .ok _
        split
        · exact ih _
        · exact .ok _
        · exact (FailsOnly.error_iff _).mpr rfl
      · exact .ok _
      · exact (FailsOnly.error_iff _).mpr rfl
    · exact .ok _

/-- Failures to build a value from some scalars: a scalar stands for no value
of its tag, or else what they are part of does not. -/
inductive Unbuildable (HasScalar : String → String → Prop) : LoadError → Prop where
  | malformed : Unbuildable HasScalar .malformed
  | tooDeep : Unbuildable HasScalar .tooDeep
  | dateOfCollection : Unbuildable HasScalar .dateOfCollection
  | scalar {tag text : String} {e : LoadError} : HasScalar tag text →
      scalarValue tag text = .error e → Unbuildable HasScalar e

namespace Unbuildable

variable {A B : String → String → Prop} {α : Type} {x : Except LoadError α}

theorem error_malformed : FailsOnly (Unbuildable A) (.error .malformed : Except LoadError α) :=
  (FailsOnly.error_iff _).mpr .malformed

theorem error_tooDeep : FailsOnly (Unbuildable A) (.error .tooDeep : Except LoadError α) :=
  (FailsOnly.error_iff _).mpr .tooDeep

theorem scalarValue {tag text : String} (h : A tag text) :
    FailsOnly (Unbuildable A) (Yaml.scalarValue tag text) :=
  fun _ he => .scalar h he

theorem mono (h : FailsOnly (Unbuildable A) x) (hAB : ∀ tag text, A tag text → B tag text) :
    FailsOnly (Unbuildable B) x :=
  FailsOnly.mono h fun _ he => match he with
    | .malformed => .malformed
    | .tooDeep => .tooDeep
    | .dateOfCollection => .dateOfCollection
    | .scalar hs he => .scalar (hAB _ _ hs) he

/-- Binding a key fails where it is none, or its value fails. -/
theorem bindKey (acc : List (Value × Value)) (k : Value) {v : Except LoadError Value}
    (hv : FailsOnly (Unbuildable A) v) :
    FailsOnly (Unbuildable A)
      (match k.key? with
        | none => .error .malformed
        | some key => do .ok (Value.bind acc k key (← v))) := by
  cases k.key? with
  | none => exact error_malformed
  | some key => exact hv.bind fun _ => .ok _

theorem defaultValue (fuel : Nat) (tag : String) (ps : List (Node × Node)) :
    FailsOnly (Unbuildable (Node.mapping tag ps).HasScalar) (Yaml.defaultValue fuel tag ps) := by
  unfold Yaml.defaultValue
  split
  · split
    · rename_i htext
      exact .ite ((FailsOnly.error_iff _).mpr .dateOfCollection) (scalarValue (.default htext))
    · exact error_malformed
  · exact error_malformed

end Unbuildable

/-- What building values and bindings with some fuel has in common. -/
structure BuildersFailOnly (fuel : Nat) : Prop where
  value (n : Node) : FailsOnly (Unbuildable n.HasScalar) (valueOf fuel n)
  pairs (ps : List (Node × Node)) : FailsOnly (Unbuildable (PairsHaveScalar ps)) (pairsOf fuel ps)

theorem buildersFailOnly (fuel : Nat) : BuildersFailOnly fuel := by
  induction fuel with
  | zero => exact ⟨fun _ => Unbuildable.error_tooDeep, fun _ => Unbuildable.error_tooDeep⟩
  | succ fuel ih =>
    constructor
    case value =>
      intro n
      unfold valueOf
      split
      · exact .ok _
      · exact Unbuildable.scalarValue (.scalar _ _)
      · rename_i tag items
        split
        · refine FailsOnly.bind (.mapM fun item hitem => ?_) fun vs => .ok _
          exact Unbuildable.mono (ih.value item) fun _ _ => .item hitem
        split
        · refine FailsOnly.bind (.mapM fun item hitem => ?_) fun vs => .ok _
          split
          · rename_i k v
            refine (Unbuildable.mono (ih.value k) fun _ _ h => ?_).bind fun _ =>
              (Unbuildable.mono (ih.value v) fun _ _ h => ?_).bind fun _ => .ok _
            · exact .item hitem (.key List.mem_cons_self h)
            · exact .item hitem (.value List.mem_cons_self h)
          · exact Unbuildable.error_malformed
        · exact Unbuildable.error_malformed
      · rename_i tag ps
        have hpairs := Unbuildable.mono (ih.pairs ps) fun _ _ h => h.mapping tag
        split
        · exact hpairs.bind fun _ => .ok _
        split
        · exact hpairs.bind fun _ => .ok _
        · exact Unbuildable.defaultValue _ tag ps
    case pairs =>
      intro ps
      unfold pairsOf
      refine FailsOnly.bind_of_ok ((failsOnly_flatten _ ps).mono fun e he => he ▸ .malformed)
        fun qs hqs => .foldlM (fun q hq acc => ?_) _
      have hkey : ∀ tag text, q.1.HasScalar tag text → PairsHaveScalar ps tag text :=
        fun tag text h => yields_flatten _ ps qs hqs tag text ⟨q, hq, .inl h⟩
      have hvalue : ∀ tag text, q.2.HasScalar tag text → PairsHaveScalar ps tag text :=
        fun tag text h => yields_flatten _ ps qs hqs tag text ⟨q, hq, .inr h⟩
      have hbind (k : Value) := Unbuildable.bindKey acc k (Unbuildable.mono (ih.value q.2) hvalue)
      split
      · rename_i tag text hscalar
        rw [hscalar] at hkey
        split
        · exact (FailsOnly.ok _).bind hbind
        · exact (Unbuildable.scalarValue (hkey _ _ (.scalar _ _))).bind hbind
      · exact (Unbuildable.mono (ih.value q.1) hkey).bind hbind

/-! ## §5 The order of failures -/

/-- All scalars in some nodes are of a kind. -/
def NodesWithin (A : String → String → Prop) (ns : List Node) : Prop :=
  ∀ n ∈ ns, ∀ tag text, n.HasScalar tag text → A tag text

namespace NodesWithin

variable {A B : String → String → Prop} {ns ms : List Node}

theorem nil : NodesWithin A [] :=
  fun _ h => absurd h List.not_mem_nil

theorem singleton (n : Node) : NodesWithin n.HasScalar [n] := by
  intro m hm
  rw [List.mem_singleton.mp hm]
  exact fun _ _ h => h

theorem mono (h : NodesWithin A ns) (hAB : ∀ tag text, A tag text → B tag text) :
    NodesWithin B ns :=
  fun n hn tag text hs => hAB tag text (h n hn tag text hs)

theorem append (hn : NodesWithin A ns) (hm : NodesWithin A ms) : NodesWithin A (ns ++ ms) :=
  fun n h => (List.mem_append.mp h).elim (hn n) (hm n)

theorem flatten {parts : List (List Node)} (h : ∀ ns ∈ parts, NodesWithin A ns) :
    NodesWithin A parts.flatten := by
  intro n hn
  obtain ⟨ns, hns, hn⟩ := List.mem_flatten.mp hn
  exact h ns hns n hn

end NodesWithin

/-- A computation of nodes fails at some scalars, or as what they are part of,
and gives nodes with no others. -/
structure Meets (A : String → String → Prop) (x : Except LoadError (List Node)) : Prop where
  fails : FailsOnly (Unbuildable A) x
  yields : Yields (NodesWithin A) x

namespace Meets

variable {A B : String → String → Prop} {α : Type} {x : Except LoadError (List Node)}

theorem mono (h : Meets A x) (hAB : ∀ tag text, A tag text → B tag text) : Meets B x :=
  ⟨Unbuildable.mono h.fails hAB, h.yields.mono fun _ hns => hns.mono hAB⟩

theorem ok {ns : List Node} (h : NodesWithin A ns) : Meets A (.ok ns) :=
  ⟨.ok _, .ok h⟩

theorem malformed : Meets A (.error .malformed) :=
  ⟨Unbuildable.error_malformed, .error _⟩

/-- What is built has nothing left to be filled. -/
theorem built {x : Except LoadError α} (h : FailsOnly (Unbuildable A) x) :
    Meets A (x.map fun _ => []) := by
  cases x with
  | ok a => exact .ok .nil
  | error e => exact ⟨(FailsOnly.error_iff e).mpr (h e rfl), .error e⟩

theorem bind {x : Except LoadError α} {f : α → Except LoadError (List Node)}
    (hx : FailsOnly (Unbuildable A) x) (hf : ∀ a, x = .ok a → Meets A (f a)) :
    Meets A (x >>= f) := by
  cases x with
  | ok a => exact hf a rfl
  | error e => exact ⟨(FailsOnly.error_iff e).mpr (hx e rfl), .error e⟩

theorem flatten_mapM {f : α → Except LoadError (List Node)} {xs : List α}
    (h : ∀ x ∈ xs, Meets A (f x)) : Meets A (xs.mapM f >>= fun parts => .ok parts.flatten) :=
  ⟨FailsOnly.bind (.mapM fun x hx => (h x hx).fails) fun _ => .ok _,
    (Yields.mapM fun x hx => (h x hx).yields).bind fun _ hparts => .ok (.flatten hparts)⟩

end Meets

namespace Node

theorem meets_meet (n : Node) : Meets n.HasScalar n.meet := by
  unfold meet
  split
  · exact .ok .nil
  · split
    · exact .ok (.singleton _)
    · exact .built (Unbuildable.scalarValue (.scalar _ _))
  · split
    · exact .ok (.singleton _)
    · exact .malformed
  · split
    · exact .ok (.singleton _)
    · exact .built (Unbuildable.defaultValue _ _ _)

theorem failsOnly_meetKey (n : Node) : FailsOnly (Unbuildable n.HasScalar) n.meetKey := by
  have hmeet (m : Node) : FailsOnly (Unbuildable m.HasScalar) (m.meet.bind meetKey.refuse) := by
    refine m.meets_meet.fails.bind fun ns => ?_
    cases ns with
    | nil => exact .ok _
    | cons _ _ => exact Unbuildable.error_malformed
  unfold meetKey
  split
  · exact Unbuildable.error_malformed
  · exact .ite (.ok _) (hmeet _)
  · exact hmeet _

theorem meets_fill (n : Node) : Meets n.HasScalar n.fill := by
  unfold fill
  split
  · rename_i tag items
    split
    · exact .flatten_mapM fun item hitem => item.meets_meet.mono fun _ _ => .item hitem
    split
    · refine .flatten_mapM fun item hitem => ?_
      split
      · rename_i k v
        have hk : Meets (sequence tag items).HasScalar k.meet :=
          k.meets_meet.mono fun _ _ h => .item hitem (.key List.mem_cons_self h)
        have hv : Meets (sequence tag items).HasScalar v.meet :=
          v.meets_meet.mono fun _ _ h => .item hitem (.value List.mem_cons_self h)
        exact .bind hk.fails fun ns hns => .bind hv.fails fun ms hms =>
          .ok ((hk.yields ns hns).append (hv.yields ms hms))
      · exact .malformed
    · exact .malformed
  · rename_i tag ps
    split
    · refine .bind ((failsOnly_flatten _ ps).mono fun e he => he ▸ .malformed) fun qs hqs => ?_
      have hwithin := yields_flatten _ ps qs hqs
      refine .flatten_mapM fun q hq => .bind (Unbuildable.mono q.1.failsOnly_meetKey ?_)
        fun _ _ => q.2.meets_meet.mono ?_
      · exact fun tag' text h => (hwithin tag' text ⟨q, hq, .inl h⟩).mapping tag
      · exact fun tag' text h => (hwithin tag' text ⟨q, hq, .inr h⟩).mapping tag
    · exact .malformed
  · exact .malformed

theorem failsOnly_fillAll {A : String → String → Prop} {fuel : Nat} {ns : List Node}
    (h : NodesWithin A ns) : FailsOnly (Unbuildable A) (fillAll fuel ns) := by
  induction fuel generalizing ns with
  | zero =>
    cases ns with
    | nil => exact .ok _
    | cons n rest => exact Unbuildable.error_tooDeep
  | succ fuel ih =>
    cases ns with
    | nil => exact .ok _
    | cons n rest =>
      have hfill (m : Node) (hm : m ∈ n :: rest) := m.meets_fill.mono (h m hm)
      exact FailsOnly.bind_of_ok (.mapM fun m hm => (hfill m hm).fails) fun parts hparts =>
        ih (.flatten (Yields.mapM (fun m hm => (hfill m hm).yields) parts hparts))

/-- **Building the value of a document** fails at a scalar in it, or as what
the scalars are part of. -/
theorem failsOnly_value (n : Node) : FailsOnly (Unbuildable n.HasScalar) n.value :=
  FailsOnly.bind_of_ok n.meets_meet.fails fun ns hns =>
    (failsOnly_fillAll (n.meets_meet.yields ns hns)).bind fun _ => (buildersFailOnly _).value n

end Node

/-! ## §6 Texts -/

/-- The node of the document that a text holds, with nodes that nest up to a
depth. -/
def HoldsNode (depth : Nat) (s : String) (n : Node) : Prop :=
  ∃ ts, tokenize s.toList = .ok ts ∧ Node.ofTokens? ts depth = .ok (some n)

/-- **Where the reading of a text stops.** -/
theorem load_eq_error {s : String} {depth : Nat} {e : LoadError} (h : load s depth = .error e) :
    e = .malformed ∨ e = .tooDeep ∨ e = .dateOfCollection ∨
      (e = .beyondUnicode ∧ tokenize s.toList = .error e) ∨
      ∃ n, HoldsNode depth s n ∧
        ∃ tag text, n.HasScalar tag text ∧ scalarValue tag text = .error e := by
  cases htokens : tokenize s.toList with
  | error e' =>
    have he : e' = e := by simpa [load, htokens, bind, Except.bind] using h
    subst he
    cases failsOnly_tokenize _ _ htokens with
    | malformed => exact .inl rfl
    | beyondUnicode => exact .inr (.inr (.inr (.inl ⟨rfl, rfl⟩)))
  | ok ts =>
    cases hnode : Node.ofTokens? ts depth with
    | error e' =>
      have he : e' = e := by simpa [load, htokens, hnode, bind, Except.bind] using h
      subst he
      cases Node.failsOnly_ofTokens? _ _ _ hnode with
      | malformed => exact .inl rfl
      | tooDeep => exact .inr (.inl rfl)
    | ok n? =>
      cases n? with
      | none => simp [load, htokens, hnode, bind, Except.bind] at h
      | some n =>
        have hvalue : n.value = .error e := by
          simpa [load, htokens, hnode, bind, Except.bind] using h
        cases n.failsOnly_value e hvalue with
        | malformed => exact .inl rfl
        | tooDeep => exact .inr (.inl rfl)
        | dateOfCollection => exact .inr (.inr (.inl rfl))
        | scalar hs he =>
          exact .inr (.inr (.inr (.inr ⟨n, ⟨ts, htokens, hnode⟩, _, _, hs, he⟩)))

end ManifestDeps.Yaml
