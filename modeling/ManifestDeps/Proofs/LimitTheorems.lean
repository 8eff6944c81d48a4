/-
ManifestDeps.Proofs.LimitTheorems — when the JSON reader stops at one of
its limits.

A limit shows in the text itself (`LimitError.ShownIn`): more digits in a
row than an integer may have, or more opening brackets than there are
levels. `Reads` says what a reader may do on a text: it goes forward, or
stops at a fault, or stops at a limit that the text shows. The rule for
sequences is `Reads.bind`; the loops over items and members keep the
property of the reader of one value, by induction on the rounds, and
`readValue` has it by induction on the depth, where each level spends one
opening bracket.

So a text that shows no limit is read, or has a fault
(`shownIn_of_readChars`). And the depth of a reader matters only where it stops
for it: all that is not too deep for one reader is the same for the deeper ones
(`readChars_eq_of_le`).
-/
import Mathlib.Data.List.TakeDrop
import Mathlib.Data.List.TakeWhile
import ManifestDeps.Json.Reader

namespace ManifestDeps.Json

/-! ## §1 Limits that a text shows -/

/-- The character opens an array or an object. -/
def isOpening (c : Char) : Bool :=
  c == '[' || c == '\x7b'

/-- What a text holds where the reader stops at a limit with this many
levels left. -/
def LimitError.ShownIn (levels : Nat) (cs : List Char) : LimitError → Prop
  | digits n => maxDigits < n ∧ ∃ ds, ds <:+: cs ∧ ds.length = n ∧ ∀ d ∈ ds, isDigit d = true
  | depth _ => levels < cs.countP isOpening

/-- A limit that an end of the text shows. -/
theorem LimitError.ShownIn.mono {levels : Nat} {cs ds : List Char} {e : LimitError}
    (h : e.ShownIn levels cs) (hs : cs <:+ ds) : e.ShownIn levels ds := by
  cases e with
  | digits n =>
    obtain ⟨hn, run, hrun, hlength, hdigits⟩ := h
    exact ⟨hn, run, hrun.trans hs.isInfix, hlength, hdigits⟩
  | depth inObject => exact Nat.lt_of_lt_of_le h (hs.sublist.countP_le)

/-- One level further out there is one more opening bracket. -/
theorem LimitError.ShownIn.outward {levels : Nat} {cs : List Char} {e : LimitError} {c : Char}
    (h : e.ShownIn levels cs) (hc : isOpening c = true) : e.ShownIn (levels + 1) (c :: cs) := by
  cases e with
  | digits n => exact h.mono (List.suffix_cons c cs)
  | depth inObject =>
    show levels + 1 < (c :: cs).countP isOpening
    rw [List.countP_cons_of_pos hc]
    exact Nat.succ_lt_succ h

/-- What a reader may do on a text. -/
inductive Reads {α : Type} (levels : Nat) (cs : List Char) : Except Stop (Read α) → Prop where
  /-- It goes forward. -/
  | forward {a : α} {next : Cursor} : next.rest <:+ cs → Reads levels cs (.ok (a, next))
  | fault {f : SyntaxFault} {position : Nat} : Reads levels cs (.error (.fault f position))
  /-- It stops at a limit that the text shows. -/
  | limit {e : LimitError} : e.ShownIn levels cs → Reads levels cs (.error (.limit e))

section

variable {α β : Type} {levels : Nat} {cs ds : List Char} {x : Except Stop (Read α)}

theorem Reads.mono (h : Reads levels cs x) (hs : cs <:+ ds) : Reads levels ds x := by
  cases h with
  | forward hnext => exact .forward (hnext.trans hs)
  | fault => exact .fault
  | limit he => exact .limit (he.mono hs)

/-- The inside of an array or object, one level deeper. -/
theorem Reads.outward {c : Char} (h : Reads levels cs x) (hc : isOpening c = true) :
    Reads (levels + 1) (c :: cs) x := by
  cases h with
  | forward hnext => exact .forward (hnext.trans (List.suffix_cons c cs))
  | fault => exact .fault
  | limit he => exact .limit (he.outward hc)

/-- One thing after the other. -/
theorem Reads.bind {f : Read α → Except Stop (Read β)} (hx : Reads levels cs x)
    (hf : ∀ a next, next.rest <:+ cs → Reads levels cs (f (a, next))) :
    Reads levels cs (x >>= f) := by
  cases hx with
  | forward hnext => exact hf _ _ hnext
  | fault => exact .fault
  | limit he => exact .limit he

end

/-! ## §2 Going forward -/

theorem skipBlanks_suffix (pos : Nat) (cs : List Char) : (skipBlanks pos cs).rest <:+ cs := by
  fun_induction skipBlanks pos cs with
  | case1 pos c rest hc ih => exact ih.trans (List.suffix_cons c rest)
  | case2 pos c rest hc => exact List.suffix_refl _
  | case3 pos => exact List.suffix_refl _

/-- Advancing goes behind the first character. -/
theorem advance_suffix {cur : Cursor} {c : Char} {cs : List Char} (h : cur.rest = c :: cs) :
    cur.advance.rest <:+ cs := by
  rw [Cursor.advance, h]
  exact skipBlanks_suffix _ _

theorem reads_readString (levels start pos : Nat) (acc : List Nat) (cs : List Char) :
    Reads levels cs (readString start pos acc cs) := by
  fun_induction readString start pos acc cs with
  | case2 pos acc rest => exact .forward (List.suffix_cons _ _)
  | case3 pos acc a b c d rest n _ _ ih => exact ih.mono ⟨['\\', 'u', a, b, c, d], rfl⟩
  | case7 pos acc e rest _ _ c _ ih => exact ih.mono ⟨['\\', e], rfl⟩
  | case10 pos acc c rest _ _ _ _ _ _ ih => exact ih.mono (List.suffix_cons c rest)
  | _ => exact .fault

/-- A text behind its opening quote. -/
theorem reads_quoted (levels : Nat) {cur : Cursor} {rest : List Char}
    (h : cur.rest = '"' :: rest) :
    Reads levels cur.rest (readString cur.pos (cur.pos + 1) [] rest) := by
  rw [h]
  exact (reads_readString levels cur.pos (cur.pos + 1) [] rest).mono (List.suffix_cons '"' rest)

/-! ## §3 Numbers and words -/

theorem takeInteger_append (cs : List Char) : (takeInteger cs).1 ++ (takeInteger cs).2 = cs := by
  unfold takeInteger
  split
  · rfl
  · rw [List.span_eq_takeWhile_dropWhile, List.takeWhile_append_dropWhile]

theorem isDigit_of_mem_takeInteger {cs : List Char} {d : Char} (h : d ∈ (takeInteger cs).1) :
    isDigit d = true := by
  unfold takeInteger at h
  split at h
  · rw [List.mem_singleton.mp h]
    decide
  · rw [List.span_eq_takeWhile_dropWhile] at h
    exact List.all_eq_true.mp List.all_takeWhile d h

theorem span_suffix {cs ds rest : List Char} (h : cs.span isDigit = (ds, rest)) :
    rest <:+ cs := by
  rw [List.span_eq_takeWhile_dropWhile] at h
  cases h
  exact List.dropWhile_suffix _

theorem takeFraction_suffix (cs : List Char) : (takeFraction cs).2 <:+ cs := by
  unfold takeFraction
  split
  · rename_i rest
    split
    · exact List.suffix_refl _
    · exact (span_suffix rfl).trans (List.suffix_cons _ _)
  · exact List.suffix_refl _

theorem takeExponent_suffix (cs : List Char) : (takeExponent cs).2 <:+ cs := by
  unfold takeExponent
  split
  · rename_i e rest
    split
    · -- behind the letter there is a sign, perhaps, and then the digits
      dsimp only
      split
      · exact List.suffix_refl _
      · rename_i hspan
        refine (span_suffix hspan).trans (List.IsSuffix.trans ?_ (List.suffix_cons e rest))
        split
        · exact List.suffix_cons _ _
        · exact List.suffix_cons _ _
        · exact List.suffix_refl _
    · exact List.suffix_refl _
  · exact List.suffix_refl _

/-- Only an integer literal with too many digits is a limit. -/
theorem reads_readNumber (levels : Nat) (cur : Cursor) :
    Reads levels cur.rest (readNumber cur) := by
  unfold readNumber
  simp only
  split
  · exact .fault
  · rename_i ints afterInt _ hints
    obtain ⟨cs, hsign, hcs⟩ :
        ∃ cs, cs <:+ cur.rest ∧ takeInteger cs = (ints, afterInt) := by
      refine ⟨_, ?_, hints⟩
      split
      · rename_i hrest
        exact hrest ▸ List.suffix_cons _ _
      · exact List.suffix_refl _
    have happend : ints ++ afterInt = cs := by simpa [hcs] using takeInteger_append cs
    have hrest : (takeExponent (takeFraction afterInt).2).2 <:+ cur.rest := by
      refine (takeExponent_suffix _).trans ((takeFraction_suffix _).trans ?_)
      exact List.IsSuffix.trans ⟨ints, happend⟩ hsign
    split
    · split
      · rename_i hmax
        refine .limit ⟨hmax, ints, ?_, rfl, fun d hd => ?_⟩
        · have hprefix : ints <+: cs := ⟨afterInt, happend⟩
          exact hprefix.isInfix.trans hsign.isInfix
        · have hmem : d ∈ (takeInteger cs).1 := by simpa [hcs] using hd
          exact isDigit_of_mem_takeInteger hmem
      · exact .forward hrest
    · exact .forward hrest

/-! ## §4 Arrays and objects -/

section Loops

variable {levels : Nat} {item : Cursor → Except Stop (Read Value)}

theorem reads_readItems (hitem : ∀ cur, Reads levels cur.rest (item cur)) (acc : List Value)
    (rounds : Nat) (cur : Cursor) : Reads levels cur.rest (readItems item acc rounds cur) := by
  induction rounds generalizing acc cur with
  | zero => exact .fault
  | succ rounds ih =>
    rw [readItems]
    refine (hitem cur).bind fun v next hnext => ?_
    have hblanks := (skipBlanks_suffix next.pos next.rest).trans hnext
    dsimp only
    split
    · rename_i rest hrest
      exact .forward ((List.suffix_cons ']' rest).trans (hrest ▸ hblanks))
    · rename_i rest hrest
      refine (ih (v :: acc) _).mono ((advance_suffix hrest).trans ?_)
      exact (List.suffix_cons ',' rest).trans (hrest ▸ hblanks)
    · exact .fault

theorem reads_readMembers (hitem : ∀ cur, Reads levels cur.rest (item cur))
    (acc : List (String × Value)) (rounds : Nat) (cur : Cursor) :
    Reads levels cur.rest (readMembers item acc rounds cur) := by
  induction rounds generalizing acc cur with
  | zero => exact .fault
  | succ rounds ih =>
    rw [readMembers]
    split
    · rename_i rest hquote
      refine (reads_quoted levels hquote).bind fun name next hnext => ?_
      have hblanks := (skipBlanks_suffix next.pos next.rest).trans hnext
      dsimp only
      split
      · rename_i behind hcolon
        have hadvance := (advance_suffix hcolon).trans
          ((List.suffix_cons ':' behind).trans (hcolon ▸ hblanks))
        refine ((hitem _).mono hadvance).bind fun v after hafter => ?_
        have hblanks' := (skipBlanks_suffix after.pos after.rest).trans hafter
        dsimp only
        split
        · rename_i rest hrest
          exact .forward ((List.suffix_cons _ rest).trans (hrest ▸ hblanks'))
        · rename_i rest hrest
          refine (ih (setMember acc name v) _).mono ((advance_suffix hrest).trans ?_)
          exact (List.suffix_cons ',' rest).trans (hrest ▸ hblanks')
        · exact .fault
      · exact .fault
    · exact .fault

end Loops

/-! ## §5 Values and texts -/

/-- An array or object that stands too deep begins with an opening
bracket. -/
theorem reads_tooDeep {α : Type} {cs : List Char} {c : Char} {inObject : Bool}
    (hc : isOpening c = true) :
    Reads (α := α) 0 (c :: cs) (.error (.limit (.depth inObject))) := by
  refine .limit ?_
  show 0 < (c :: cs).countP isOpening
  rw [List.countP_cons_of_pos hc]
  exact Nat.succ_pos _

/-- A step of the reader, over what it does one level deeper. -/
theorem reads_readValue_step {levels : Nat}
    (hdeeper : ∀ n, levels = n + 1 → ∀ cur, Reads n cur.rest (readValue n cur)) (cur : Cursor) :
    Reads levels cur.rest (readValue levels cur) := by
  unfold readValue
  split
  · -- a text
    rename_i rest hquote
    exact (reads_quoted levels hquote).bind fun s next hnext => .forward hnext
  · -- an array
    rename_i rest hopen
    have hadvance := advance_suffix hopen
    rw [hopen]
    split
    · exact reads_tooDeep (by decide)
    · rename_i n
      dsimp only
      split
      · rename_i behind hclose
        have hbehind := (List.suffix_cons ']' behind).trans (hclose ▸ hadvance)
        exact .forward (hbehind.trans (List.suffix_cons '[' rest))
      · have hitems := reads_readItems (hdeeper n rfl) [] (cur.advance.rest.length + 1) cur.advance
        exact (hitems.mono hadvance).outward (by decide)
  · -- an object
    rename_i rest hopen
    have hadvance := advance_suffix hopen
    rw [hopen]
    split
    · exact reads_tooDeep (by decide)
    · rename_i n
      dsimp only
      split
      · rename_i behind hclose
        have hbehind := (List.suffix_cons _ behind).trans (hclose ▸ hadvance)
        exact .forward (hbehind.trans (List.suffix_cons _ rest))
      · have hmembers :=
          reads_readMembers (hdeeper n rfl) [] (cur.advance.rest.length + 1) cur.advance
        exact (hmembers.mono hadvance).outward (by decide)
  · -- a word or a number
    split
    · exact .forward (List.drop_suffix _ _)
    · exact reads_readNumber levels cur

/-- **The reader of a value** goes forward, or stops at a fault, or stops at
a limit that the text shows. -/
theorem reads_readValue (levels : Nat) (cur : Cursor) :
    Reads levels cur.rest (readValue levels cur) := by
  induction levels generalizing cur with
  | zero => exact reads_readValue_step (fun n hn => absurd hn (by simp)) cur
  | succ levels ih =>
    refine reads_readValue_step (fun n hn => ?_) cur
    cases hn
    exact ih

/-- **A limit shows in the text.** Where reading a text stops at a limit,
the text has more digits in a row than an integer may have, or more opening
brackets than there are levels. -/
theorem shownIn_of_readChars {cs : List Char} {depth : Nat} {e : LimitError}
    (h : readChars cs depth = .error (.limit e)) : e.ShownIn depth cs := by
  have hread := reads_readValue depth (skipBlanks 0 cs)
  unfold readChars at h
  simp only at h
  split at h
  · rename_i stop hstop
    rw [hstop] at hread
    cases hread with
    | fault => cases h
    | limit he =>
      cases h
      exact he.mono (skipBlanks_suffix 0 cs)
  · split at h
    · cases h
    · cases h

/-! ## §6 Integers that are too long -/

theorem readWord?_of_isDigit {d : Char} (hd : isDigit d = true) (rest : List Char) :
    readWord? (d :: rest) = none := by
  unfold readWord?
  split <;> simp_all [isDigit]

/-- A value that begins with a digit is a number. -/
theorem readValue_of_isDigit {d : Char} (hd : isDigit d = true) (levels pos : Nat)
    (rest : List Char) :
    readValue levels ⟨pos, d :: rest⟩ = readNumber ⟨pos, d :: rest⟩ := by
  unfold readValue
  split
  · simp_all [isDigit]
  · simp_all [isDigit]
  · simp_all [isDigit]
  · rw [readWord?_of_isDigit hd]

theorem takeInteger_of_isDigit {ds : List Char} (hd : ∀ d ∈ ds, isDigit d = true)
    (hzero : ds.head? ≠ some '0') : takeInteger ds = (ds, []) := by
  unfold takeInteger
  split
  · exact absurd rfl hzero
  · rw [List.span_eq_takeWhile_dropWhile, List.takeWhile_eq_self_iff.mpr hd,
      List.dropWhile_eq_nil_iff.mpr hd]

/-- **An integer with too many digits** stops the reader at its limit. -/
theorem readChars_of_isDigit {ds : List Char} (hd : ∀ d ∈ ds, isDigit d = true)
    (hzero : ds.head? ≠ some '0') (hmax : maxDigits < ds.length) :
    readChars ds = .error (.limit (.digits ds.length)) := by
  cases ds with
  | nil => cases hmax
  | cons d rest =>
    have hfirst : isDigit d = true := hd d List.mem_cons_self
    have hstart : skipBlanks 0 (d :: rest) = ⟨0, d :: rest⟩ := by
      have hblank : isBlank d = false := by
        simp only [isBlank, Bool.or_eq_false_iff, beq_eq_false_iff_ne]
        refine ⟨⟨⟨?_, ?_⟩, ?_⟩, ?_⟩ <;> rintro rfl <;> cases hfirst
      rw [skipBlanks, hblank, if_neg Bool.false_ne_true]
    have hnumber : readNumber ⟨0, d :: rest⟩ =
        .error (.limit (.digits (d :: rest).length)) := by
      have hsign : d ≠ '-' := by
        rintro rfl
        cases hfirst
      have hinteger : takeInteger (d :: rest) = (d :: rest, []) := takeInteger_of_isDigit hd hzero
      simpa [readNumber, hsign, hinteger, takeFraction, takeExponent] using hmax
    rw [readChars, hstart, readValue_of_isDigit hfirst, hnumber]
    rfl

theorem readChars_replicate_one {n : Nat} (h : maxDigits < n) :
    readChars (List.replicate n '1') = .error (.limit (.digits n)) := by
  have hdigits : ∀ d ∈ List.replicate n '1', isDigit d = true := by
    intro d hd
    rw [List.eq_of_mem_replicate hd]
    decide
  have hfirst : (List.replicate n '1').head? ≠ some '0' := by
    cases n <;> simp [List.replicate_succ]
  simpa using readChars_of_isDigit hdigits hfirst (by simpa using h)

/-! ## §7 Deeper readers -/

/-- What a reader does that goes deeper: the same, but where the other stops for
its depth. -/
def Deepens {α : Type} (x y : Except Stop (Read α)) : Prop :=
  (∃ inObject, x = .error (.limit (.depth inObject))) ∨ y = x

section

variable {α β : Type} {x y : Except Stop (Read α)}

theorem Deepens.refl (x : Except Stop (Read α)) : Deepens x x := .inr rfl

theorem Deepens.bind {f g : Read α → Except Stop (Read β)} (h : Deepens x y)
    (hf : ∀ a, Deepens (f a) (g a)) : Deepens (x >>= f) (y >>= g) := by
  rcases h with ⟨inObject, rfl⟩ | rfl
  · exact .inl ⟨inObject, rfl⟩
  · cases y with
    | error e => exact .refl _
    | ok a => exact hf a

variable {item item' : Cursor → Except Stop (Read Value)}

theorem deepens_readItems (h : ∀ cur, Deepens (item cur) (item' cur)) (acc : List Value)
    (rounds : Nat) (cur : Cursor) :
    Deepens (readItems item acc rounds cur) (readItems item' acc rounds cur) := by
  induction rounds generalizing acc cur with
  | zero => exact .refl _
  | succ rounds ih =>
    rw [readItems, readItems]
    refine (h cur).bind fun ⟨v, next⟩ => ?_
    dsimp only
    split
    · exact .refl _
    · exact ih _ _
    · exact .refl _

theorem deepens_readMembers (h : ∀ cur, Deepens (item cur) (item' cur))
    (acc : List (String × Value)) (rounds : Nat) (cur : Cursor) :
    Deepens (readMembers item acc rounds cur) (readMembers item' acc rounds cur) := by
  induction rounds generalizing acc cur with
  | zero => exact .refl _
  | succ rounds ih =>
    rw [readMembers, readMembers]
    split
    · refine (Deepens.refl _).bind fun ⟨name, next⟩ => ?_
      dsimp only
      split
      · refine (h _).bind fun ⟨v, after⟩ => ?_
        dsimp only
        split
        · exact .refl _
        · exact ih _ _
        · exact .refl _
      · exact .refl _
    · exact .refl _

end

/-- One level more, over one level more inside. -/
theorem deepens_readValue_step {depth : Nat}
    (hinside : ∀ d, depth = d + 1 → ∀ cur, Deepens (readValue d cur) (readValue (d + 1) cur))
    (cur : Cursor) : Deepens (readValue depth cur) (readValue (depth + 1) cur) := by
  rw [readValue.eq_def (depth + 1) cur, readValue.eq_def depth cur]
  dsimp only
  split
  · exact .refl _
  · cases depth with
    | zero => exact .inl ⟨false, rfl⟩
    | succ d =>
      dsimp only
      split
      · exact .refl _
      · exact deepens_readItems (hinside d rfl) _ _ _
  · cases depth with
    | zero => exact .inl ⟨true, rfl⟩
    | succ d =>
      dsimp only
      split
      · exact .refl _
      · exact deepens_readMembers (hinside d rfl) _ _ _
  · exact .refl _

theorem deepens_readValue (depth : Nat) (cur : Cursor) :
    Deepens (readValue depth cur) (readValue (depth + 1) cur) := by
  induction depth generalizing cur with
  | zero => exact deepens_readValue_step (fun d hd => absurd hd (by simp)) cur
  | succ depth ih =>
    refine deepens_readValue_step (fun d hd => ?_) cur
    cases hd
    exact ih

/-- A reader that goes one level deeper. -/
theorem readChars_succ {cs : List Char} {depth : Nat}
    (h : ∀ inObject, readChars cs depth ≠ .error (.limit (.depth inObject))) :
    readChars cs (depth + 1) = readChars cs depth := by
  rcases deepens_readValue depth (skipBlanks 0 cs) with ⟨inObject, hdepth⟩ | hsame
  · refine absurd ?_ (h inObject)
    rw [readChars, hdepth]
    rfl
  · rw [readChars, hsame]
    rfl

/-- **Only the depth of a text needs a deep reader.** What does not stop a
reader for its depth is read the same by all deeper readers. -/
theorem readChars_eq_of_le {cs : List Char} {depth depth' : Nat} (hle : depth ≤ depth')
    (h : ∀ inObject, readChars cs depth ≠ .error (.limit (.depth inObject))) :
    readChars cs depth' = readChars cs depth := by
  induction hle with
  | refl => rfl
  | step _ ih => rw [readChars_succ (by rwa [ih]), ih]

/-- So is each text with no more opening brackets than there are levels. -/
theorem readChars_eq_of_countP_le {cs : List Char} {depth depth' : Nat} (hle : depth ≤ depth')
    (hcs : cs.countP isOpening ≤ depth) : readChars cs depth' = readChars cs depth := by
  refine readChars_eq_of_le hle fun inObject hread => ?_
  have hshown : depth < cs.countP isOpening := shownIn_of_readChars hread
  exact absurd hshown (Nat.not_lt.mpr hcs)

end ManifestDeps.Json
