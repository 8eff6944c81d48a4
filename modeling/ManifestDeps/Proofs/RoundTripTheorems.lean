/-
ManifestDeps.Proofs.RoundTripTheorems — a report that was printed as JSON
reads back as it was.

The reader is followed over the text of the printer, from the characters of
a string up to a whole report. A character has several written forms and the
printer uses three kinds of them; `Spells` lists these, and says nothing of
which one is chosen. However a character is spelled, the reader goes on with
its 16-bit units (`Spells.exists_readString`), and joining the units gives
the character back, also one beyond U+FFFF, which takes two
(`joinPairs_codeUnits`).

## How the proof goes

`ReadsBack` says of a reader of values that it takes a value from its
written form at a level and leaves the rest. The loops over items and
members have a lemma each, by induction on what is left to read, with the
reader of one value as an argument. `Value.Textual.readsBack` ties the knot,
by induction on the value.

Two conditions are necessary. Of two members of one name the reader keeps
one, so that the names in an object must be distinct; and it nests at most
`maxDepth` deep, which a report, with five levels, does not exceed.
-/
import ManifestDeps.Proofs.DependencyTheorems
import ManifestDeps.Proofs.EncodingTheorems
import ManifestDeps.Proofs.ReaderTheorems
import ManifestDeps.Report.Print

namespace ManifestDeps.Text

/-! ## §1 The digits of a unit -/

theorem hexDigits_one {n : Nat} (h : n < 16) : hexDigits 1 n = [n.digitChar] := by
  simp [hexDigits, Nat.toDigits_of_lt_base h]

/-- The last digit, behind those of what is left. -/
theorem hexDigits_add_one {width n : Nat} (hw : 0 < width) :
    hexDigits (width + 1) n = hexDigits width (n / 16) ++ [(n % 16).digitChar] := by
  by_cases h : n < 16
  · have hzero : n / 16 = 0 := by omega
    obtain ⟨w, rfl⟩ : ∃ w, width = w + 1 := ⟨width - 1, by omega⟩
    simp [hexDigits, Nat.toDigits_of_lt_base h, hzero, Nat.mod_eq_of_lt h, List.replicate_succ']
  · rw [hexDigits, Nat.toDigits_of_base_le (by decide) (by omega)]
    simp [hexDigits]

/-- The four digits of a 16-bit unit. -/
theorem hexDigits_four {n : Nat} (h : n < 65536) :
    hexDigits 4 n = [(n / 4096).digitChar, (n / 256 % 16).digitChar, (n / 16 % 16).digitChar,
      (n % 16).digitChar] := by
  rw [hexDigits_add_one (by decide), hexDigits_add_one (by decide), hexDigits_add_one (by decide),
    hexDigits_one (by omega)]
  simp only [Nat.div_div_eq_div_mul, List.cons_append, List.nil_append]

end ManifestDeps.Text

namespace ManifestDeps.Json

open ManifestDeps.Text

/-! ## §2 Characters and strings -/

theorem hexValue?_digitChar : ∀ d < 16, hexValue? d.digitChar = some d := by decide

theorem hex4?_digitChar {n : Nat} (h : n < 65536) :
    hex4? (n / 4096).digitChar (n / 256 % 16).digitChar (n / 16 % 16).digitChar
      (n % 16).digitChar = some n := by
  have hn : ((n / 4096 * 16 + n / 256 % 16) * 16 + n / 16 % 16) * 16 + n % 16 = n := by omega
  simp only [hex4?, hexValue?_digitChar _ (show n / 4096 < 16 by omega),
    hexValue?_digitChar _ (Nat.mod_lt _ (show 16 > 0 by decide)), hn]

/-- An escaped unit is read as that unit, if the text does not end there. -/
theorem readString_unitEscape {n : Nat} (h : n < 65536) (start pos : Nat) (acc : List Nat)
    {tail : List Char} (htail : tail ≠ []) :
    readString start pos acc (unitEscape n ++ tail) =
      readString start (pos + 6) (n :: acc) tail := by
  have hempty : tail.isEmpty = false := by simpa using htail
  rw [unitEscape, hexDigits_four h]
  simp only [List.cons_append, List.nil_append]
  rw [readString, hex4?_digitChar h, hempty]

/-- A letter behind a backslash is read as the character it stands for. -/
theorem readString_unescape {e c : Char} (h : unescape? e = some c) (start pos : Nat)
    (acc : List Nat) (tail : List Char) :
    readString start pos acc ('\\' :: e :: tail) =
      readString start (pos + 2) (c.toNat :: acc) tail := by
  unfold unescape? at h
  split at h <;> cases h <;> rfl

theorem readString_plain {c : Char} (hquote : c ≠ '"') (hslash : c ≠ '\\')
    (hplain : 0x20 ≤ c.toNat) (start pos : Nat) (acc : List Nat) (tail : List Char) :
    readString start pos acc (c :: tail) = readString start (pos + 1) (c.toNat :: acc) tail := by
  rw [readString, if_neg (by omega)]
  · exact hquote
  · exact fun _ _ _ _ _ h _ => hslash h
  · exact fun _ h _ => hslash h
  · exact fun h _ => hslash h
  · exact fun _ _ h _ => hslash h

/-- The ways to write a character inside a string. -/
inductive Spells (c : Char) : List Char → Prop where
  /-- A letter behind a backslash. -/
  | letter {e : Char} : unescape? e = some c → Spells c ['\\', e]
  /-- The character itself. -/
  | plain : c ≠ '"' → c ≠ '\\' → 0x20 ≤ c.toNat → c.toNat < 0x10000 → Spells c [c]
  /-- An escape for each of its units. -/
  | units : Spells c ((codeUnits c).flatMap unitEscape)

/-- The written form of a character is one of them. -/
theorem spells_escapedChar (c : Char) : Spells c (escapedChar c) := by
  unfold escapedChar
  iterate 7
    split
    · subst c
      exact .letter rfl
  split
  · rename_i hquote hslash _ _ _ _ _ hplain
    exact .plain hquote hslash hplain.1 (by omega)
  have hunits : Spells c ((codeUnits c).flatMap unitEscape) := .units
  split
  · rename_i hlt
    rwa [codeUnits_of_lt hlt, List.flatMap_singleton] at hunits
  · rename_i hlt
    rwa [codeUnits, if_neg hlt, List.flatMap_cons, List.flatMap_singleton] at hunits

/-- Escaped units are read one after the other. -/
theorem exists_readString_unitEscapes {units : List Nat} (h : ∀ n ∈ units, n < 65536)
    (start pos : Nat) (acc : List Nat) {tail : List Char} (htail : tail ≠ []) :
    ∃ next, readString start pos acc (units.flatMap unitEscape ++ tail) =
      readString start next (units.reverse ++ acc) tail := by
  induction units generalizing pos acc with
  | nil => exact ⟨pos, rfl⟩
  | cons n rest ih =>
    obtain ⟨hn, hrest⟩ := List.forall_mem_cons.mp h
    obtain ⟨next, hnext⟩ := ih hrest (pos + 6) (n :: acc)
    refine ⟨next, ?_⟩
    rw [List.flatMap_cons, List.append_assoc, readString_unitEscape hn _ _ _ (by simp [htail]),
      hnext]
    simp

/-- **A character is read as its units**, however it is written. -/
theorem Spells.exists_readString {c : Char} {text : List Char} (h : Spells c text)
    (start pos : Nat) (acc : List Nat) {tail : List Char} (htail : tail ≠ []) :
    ∃ next, readString start pos acc (text ++ tail) =
      readString start next ((codeUnits c).reverse ++ acc) tail := by
  cases h with
  | @letter e he =>
    have hlt : c.toNat < 0x10000 := by
      unfold unescape? at he
      split at he <;> cases he <;> decide
    rw [codeUnits_of_lt hlt]
    exact ⟨pos + 2, readString_unescape he start pos acc tail⟩
  | plain hquote hslash hplain hlt =>
    rw [codeUnits_of_lt hlt]
    exact ⟨pos + 1, readString_plain hquote hslash hplain start pos acc tail⟩
  | units => exact exists_readString_unitEscapes (codeUnits_lt c) start pos acc htail

theorem exists_readString_escapedChars (cs : List Char) (start pos : Nat) (acc : List Nat)
    (rest : List Char) :
    ∃ next, readString start pos acc (cs.flatMap escapedChar ++ '"' :: rest) =
      readString start next ((cs.flatMap codeUnits).reverse ++ acc) ('"' :: rest) := by
  induction cs generalizing pos acc with
  | nil => exact ⟨pos, rfl⟩
  | cons c cs ih =>
    have hne : cs.flatMap escapedChar ++ '"' :: rest ≠ [] := by simp
    obtain ⟨behind, hc⟩ := (spells_escapedChar c).exists_readString start pos acc hne
    obtain ⟨next, hrest⟩ := ih behind ((codeUnits c).reverse ++ acc)
    refine ⟨next, ?_⟩
    rw [List.flatMap_cons, List.append_assoc, hc, hrest]
    simp

/-- **A string is read as it is written**, whatever follows. -/
theorem exists_readString_stringChars (s : String) (start pos : Nat) (rest : List Char) :
    ∃ next, readString start pos [] (s.toList.flatMap escapedChar ++ '"' :: rest) =
      .ok (s, ⟨next, rest⟩) := by
  obtain ⟨behind, h⟩ := exists_readString_escapedChars s.toList start pos [] rest
  refine ⟨behind + 1, ?_⟩
  rw [h, readString, List.append_nil, List.reverse_reverse, joinPairs_codeUnits,
    String.ofList_toList]

/-! ## §3 Blanks -/

theorem skipBlanks_lineBreak (level pos : Nat) (cs : List Char) :
    skipBlanks pos (lineBreak level ++ cs) = skipBlanks (pos + (2 * level + 1)) cs := by
  have hspaces (n pos : Nat) :
      skipBlanks pos (List.replicate n ' ' ++ cs) = skipBlanks (pos + n) cs := by
    induction n generalizing pos with
    | zero => rfl
    | succ n ih =>
      rw [List.replicate_succ, List.cons_append, skipBlanks, if_pos (by decide), ih]
      congr 1
      omega
  rw [lineBreak, List.cons_append, skipBlanks, if_pos (by decide), hspaces]
  congr 1
  omega

theorem skipBlanks_cons {c : Char} (h : isBlank c = false) (pos : Nat) (cs : List Char) :
    skipBlanks pos (c :: cs) = ⟨pos, c :: cs⟩ := by
  rw [skipBlanks, h, if_neg Bool.false_ne_true]

/-- The text begins a string, an array or an object. -/
def BeginsValue (cs : List Char) : Prop :=
  ∃ c rest, cs = c :: rest ∧ (c = '"' ∨ c = '[' ∨ c = '\x7b')

theorem beginsValue_stringChars (s : String) : BeginsValue (stringChars s) :=
  ⟨'"', _, rfl, .inl rfl⟩

theorem BeginsValue.append {cs : List Char} (h : BeginsValue cs) (rest : List Char) :
    BeginsValue (cs ++ rest) := by
  obtain ⟨c, tail, rfl, hc⟩ := h
  exact ⟨c, tail ++ rest, rfl, hc⟩

/-- No blank stands in front of a value. -/
theorem BeginsValue.skipBlanks {cs : List Char} (h : BeginsValue cs) (pos : Nat) :
    skipBlanks pos cs = ⟨pos, cs⟩ := by
  obtain ⟨c, tail, rfl, hc⟩ := h
  refine skipBlanks_cons ?_ _ _
  rcases hc with rfl | rfl | rfl <;> decide

/-- Behind a bracket or a comma, the next value stands on a new line. -/
theorem BeginsValue.advance {cs : List Char} (h : BeginsValue cs) (c : Char) (level pos : Nat) :
    Cursor.advance ⟨pos, c :: (lineBreak level ++ cs)⟩ = ⟨pos + 1 + (2 * level + 1), cs⟩ := by
  rw [Cursor.advance, List.drop_succ_cons, List.drop_zero, skipBlanks_lineBreak, h.skipBlanks]

/-! ## §4 Values -/

/-- A value of texts, arrays and objects, nested so deep at most, whose
objects have distinct names. -/
inductive Value.Textual : Nat → Value → Prop where
  | str {depth : Nat} (s : String) : Textual depth (.str s)
  | arr {depth : Nat} {items : List Value} : (∀ v ∈ items, Textual depth v) →
      Textual (depth + 1) (.arr items)
  | obj {depth : Nat} {members : List (String × Value)} : Table.DistinctNames members →
      (∀ m ∈ members, Textual depth m.2) → Textual (depth + 1) (.obj members)

theorem Value.Textual.beginsValue {depth : Nat} {v : Value} (h : v.Textual depth)
    (level : Nat) : BeginsValue (printAt level v) := by
  cases h with
  | str s => exact ⟨'"', _, by rw [printAt, stringChars, List.cons_append], .inl rfl⟩
  | @arr _ items _ =>
    cases items with
    | nil => exact ⟨'[', _, by rw [printAt], .inr (.inl rfl)⟩
    | cons v rest => exact ⟨'[', _, by rw [printAt]; rfl, .inr (.inl rfl)⟩
  | @obj _ members _ _ =>
    cases members with
    | nil => exact ⟨_, _, by rw [printAt], .inr (.inr rfl)⟩
    | cons m rest =>
      obtain ⟨name, v⟩ := m
      exact ⟨_, _, by rw [printAt]; rfl, .inr (.inr rfl)⟩

/-- A reader takes a value from its written form at a level and nothing else,
wherever it stands and whatever follows. -/
def ReadsBack (item : Cursor → Except Stop (Read Value)) (level : Nat) (v : Value) : Prop :=
  BeginsValue (printAt level v) ∧
    ∀ pos rest, ∃ next, item ⟨pos, printAt level v ++ rest⟩ = .ok (v, ⟨next, rest⟩)

section Loops

variable {item : Cursor → Except Stop (Read Value)} {level outer : Nat}

theorem exists_readItems {v : Value} {items : List Value} (hv : ReadsBack item level v)
    (hitems : ∀ w ∈ items, ReadsBack item level w) (acc : List Value) {rounds : Nat}
    (hrounds : items.length < rounds) (pos : Nat) (rest : List Char) :
    ∃ next, readItems item acc rounds
        ⟨pos, printAt level v ++ (printItems level items ++ (lineBreak outer ++ ']' :: rest))⟩ =
      .ok (.arr (acc.reverse ++ v :: items), ⟨next, rest⟩) := by
  -- a round reads `v`, and finds the bracket or the next item behind it
  induction items generalizing v acc rounds pos with
  | nil =>
    obtain ⟨rounds, rfl⟩ : ∃ r, rounds = r + 1 := ⟨rounds - 1, by omega⟩
    obtain ⟨behind, hread⟩ := hv.2 pos (printItems level [] ++ (lineBreak outer ++ ']' :: rest))
    rw [readItems, hread]
    simp only [bind, Except.bind, printItems, List.nil_append, skipBlanks_lineBreak,
      skipBlanks_cons (show isBlank ']' = false by decide)]
    exact ⟨_, by rw [List.reverse_cons]⟩
  | cons w items ih =>
    obtain ⟨rounds, rfl⟩ : ∃ r, rounds = r + 1 := ⟨rounds - 1, by omega⟩
    obtain ⟨hw, hitems⟩ := List.forall_mem_cons.mp hitems
    obtain ⟨behind, hread⟩ :=
      hv.2 pos (printItems level (w :: items) ++ (lineBreak outer ++ ']' :: rest))
    rw [readItems, hread]
    simp only [bind, Except.bind, printItems, List.cons_append, List.append_assoc,
      skipBlanks_cons (show isBlank ',' = false by decide), (hw.1.append _).advance]
    obtain ⟨next, hnext⟩ := ih hw hitems (v :: acc) (Nat.lt_of_succ_lt_succ hrounds) _
    exact ⟨next, by rw [hnext]; simp⟩

/-- One round reads one member, and goes on behind it. -/
theorem exists_readMembers_round (name : String) {v : Value} (hv : ReadsBack item level v)
    (acc : List (String × Value)) (rounds pos : Nat) (rest : List Char) :
    ∃ behind, readMembers item acc (rounds + 1)
        ⟨pos, stringChars name ++ ':' :: ' ' :: (printAt level v ++ rest)⟩ =
      match (skipBlanks behind rest).rest with
      | '\x7d' :: after =>
        .ok (.obj (setMember acc name v), ⟨(skipBlanks behind rest).pos + 1, after⟩)
      | ',' :: _ =>
        readMembers item (setMember acc name v) rounds (skipBlanks behind rest).advance
      | _ => stopAt .expectedComma (skipBlanks behind rest).pos := by
  obtain ⟨colon, hname⟩ := exists_readString_stringChars name pos (pos + 1)
    (':' :: ' ' :: (printAt level v ++ rest))
  obtain ⟨behind, hread⟩ := hv.2 (colon + 1 + 1) rest
  refine ⟨behind, ?_⟩
  rw [stringChars, List.append_assoc, List.cons_append, readMembers]
  simp only [List.cons_append, List.nil_append, hname, bind, Except.bind,
    skipBlanks_cons (show isBlank ':' = false by decide), Cursor.advance, List.drop_succ_cons,
    List.drop_zero]
  rewrite [skipBlanks, if_pos (by decide), (hv.1.append rest).skipBlanks, hread]
  rfl

theorem exists_readMembers {name : String} {v : Value} {members : List (String × Value)}
    (hv : ReadsBack item level v) (hmembers : ∀ m ∈ members, ReadsBack item level m.2)
    {acc : List (String × Value)} (hnames : Table.DistinctNames (acc ++ (name, v) :: members))
    {rounds : Nat} (hrounds : members.length < rounds) (pos : Nat) (rest : List Char) :
    ∃ next, readMembers item acc rounds
        ⟨pos, stringChars name ++ ':' :: ' ' :: (printAt level v ++
          (printMembers level members ++ (lineBreak outer ++ '\x7d' :: rest)))⟩ =
      .ok (.obj (acc ++ (name, v) :: members), ⟨next, rest⟩) := by
  -- every name is new when its turn comes, so that its member is set at the end
  induction members generalizing name v acc rounds pos with
  | nil =>
    have hnew : name ∉ acc.map Prod.fst := hnames.notMem_of_append
    obtain ⟨rounds, rfl⟩ : ∃ r, rounds = r + 1 := ⟨rounds - 1, by omega⟩
    obtain ⟨behind, hround⟩ := exists_readMembers_round name hv acc rounds pos
      (printMembers level [] ++ (lineBreak outer ++ '\x7d' :: rest))
    rw [hround]
    simp only [printMembers, List.nil_append, skipBlanks_lineBreak,
      skipBlanks_cons (show isBlank '\x7d' = false by decide)]
    rw [setMember_of_notMem hnew]
    exact ⟨_, rfl⟩
  | cons m members ih =>
    have hnew : name ∉ acc.map Prod.fst := hnames.notMem_of_append
    obtain ⟨rounds, rfl⟩ : ∃ r, rounds = r + 1 := ⟨rounds - 1, by omega⟩
    obtain ⟨hm, hmembers⟩ := List.forall_mem_cons.mp hmembers
    obtain ⟨behind, hround⟩ := exists_readMembers_round name hv acc rounds pos
      (printMembers level (m :: members) ++ (lineBreak outer ++ '\x7d' :: rest))
    have hnames' : Table.DistinctNames ((acc ++ [(name, v)]) ++ m :: members) := by
      rwa [List.append_assoc, List.singleton_append]
    rw [hround]
    simp only [printMembers, List.cons_append, List.nil_append, List.append_assoc,
      skipBlanks_cons (show isBlank ',' = false by decide),
      ((beginsValue_stringChars m.1).append _).advance]
    rw [setMember_of_notMem hnew]
    obtain ⟨next, hnext⟩ := ih hm hmembers hnames' (Nat.lt_of_succ_lt_succ hrounds) _
    exact ⟨next, by rw [hnext]; simp⟩

end Loops

theorem length_le_printItems (level : Nat) (items : List Value) :
    items.length ≤ (printItems level items).length := by
  induction items with
  | nil => exact Nat.zero_le _
  | cons v rest ih =>
    simp only [printItems, List.length_cons, List.cons_append, List.length_append]
    omega

theorem length_le_printMembers (level : Nat) (members : List (String × Value)) :
    members.length ≤ (printMembers level members).length := by
  induction members with
  | nil => exact Nat.zero_le _
  | cons m rest ih =>
    simp only [printMembers, List.length_cons, List.cons_append, List.length_append]
    omega

/-- Behind an opening bracket and a line break, the items are read. -/
theorem exists_readValue_items {cs : List Char} (h : BeginsValue cs) (depth level pos : Nat) :
    ∃ inner, readValue (depth + 1) ⟨pos, '[' :: (lineBreak level ++ cs)⟩ =
      readItems (readValue depth) [] (cs.length + 1) ⟨inner, cs⟩ := by
  refine ⟨pos + 1 + (2 * level + 1), ?_⟩
  rw [readValue.eq_def]
  simp only [h.advance]
  obtain ⟨c, rest, rfl, rfl | rfl | rfl⟩ := h <;> rfl

/-- Behind an opening brace and a line break, the members are read. -/
theorem exists_readValue_members {cs : List Char} (h : BeginsValue cs) (depth level pos : Nat) :
    ∃ inner, readValue (depth + 1) ⟨pos, '\x7b' :: (lineBreak level ++ cs)⟩ =
      readMembers (readValue depth) [] (cs.length + 1) ⟨inner, cs⟩ := by
  refine ⟨pos + 1 + (2 * level + 1), ?_⟩
  rw [readValue.eq_def]
  simp only [h.advance]
  obtain ⟨c, rest, rfl, rfl | rfl | rfl⟩ := h <;> rfl

/-- **A value is read from its written form**, wherever it stands and
whatever follows. -/
theorem Value.Textual.readsBack {depth : Nat} {v : Value} (h : v.Textual depth) (level : Nat) :
    ReadsBack (readValue depth) level v := by
  refine ⟨h.beginsValue level, fun pos rest => ?_⟩
  induction h generalizing level pos rest with
  | @str depth s =>
    obtain ⟨next, hread⟩ := exists_readString_stringChars s pos (pos + 1) rest
    refine ⟨next, ?_⟩
    rw [printAt, stringChars, readValue.eq_def]
    simp only [List.cons_append, List.append_assoc, List.nil_append, hread]
    rfl
  | @arr depth items hitems ih =>
    cases items with
    | nil => exact ⟨_, by rw [printAt, readValue.eq_def]; rfl⟩
    | cons v items =>
      have hreads : ∀ w ∈ v :: items, ReadsBack (readValue depth) (level + 1) w := fun w hw =>
        ⟨(hitems w hw).beginsValue (level + 1), ih w hw (level + 1)⟩
      obtain ⟨hv, hitems⟩ := List.forall_mem_cons.mp hreads
      -- there are as many rounds as characters, and no item is without one
      have hlength := length_le_printItems (level + 1) items
      obtain ⟨inner, hinner⟩ := exists_readValue_items (hv.1.append
        (printItems (level + 1) items ++ (lineBreak level ++ ']' :: rest))) depth (level + 1) pos
      rw [printAt]
      simp only [List.cons_append, List.append_assoc, List.nil_append, hinner]
      exact exists_readItems hv hitems [] (by simp; omega) inner rest
  | @obj depth members hnames hmembers ih =>
    cases members with
    | nil => exact ⟨_, by rw [printAt, readValue.eq_def]; rfl⟩
    | cons m members =>
      obtain ⟨name, v⟩ := m
      have hreads : ∀ e ∈ (name, v) :: members, ReadsBack (readValue depth) (level + 1) e.2 :=
        fun e he => ⟨(hmembers e he).beginsValue (level + 1), ih e he (level + 1)⟩
      obtain ⟨hm, hmembers⟩ := List.forall_mem_cons.mp hreads
      have hlength := length_le_printMembers (level + 1) members
      obtain ⟨inner, hinner⟩ := exists_readValue_members ((beginsValue_stringChars name).append
        (':' :: ' ' :: (printAt (level + 1) v ++ (printMembers (level + 1) members ++
          (lineBreak level ++ '\x7d' :: rest))))) depth (level + 1) pos
      rw [printAt]
      simp only [List.cons_append, List.append_assoc, List.nil_append] at hinner ⊢
      rw [hinner]
      exact exists_readMembers hm hmembers hnames (by simp; omega) inner rest

/-- **A printed value reads back**, with a line feed behind it. -/
theorem read_print {v : Value} {depth : Nat} (h : v.Textual depth) :
    read (print v ++ "\n") depth = .ok v := by
  have hchars : (print v ++ "\n").toList = printAt 0 v ++ ['\n'] := by
    rw [String.toList_append, print, String.toList_ofList]
    rfl
  have hbegins := (h.beginsValue 0).append ['\n']
  have hread : readChars (printAt 0 v ++ ['\n']) depth = .ok v := by
    obtain ⟨next, hvalue⟩ := (h.readsBack 0).2 0 ['\n']
    rw [readChars, hbegins.skipBlanks]
    simp only [hvalue]
    rfl
  rw [read, hchars]
  split
  · -- a byte order mark begins no value
    rename_i rest hmark
    obtain ⟨c, tail, hc, rfl | rfl | rfl⟩ := hbegins <;> rw [hmark] at hc <;> cases hc
  · exact hread

end ManifestDeps.Json

namespace ManifestDeps

open Json (Value)
open Json.Value (Textual)

/-! ## §5 Reports -/

/-- An object of texts under distinct names. -/
theorem textual_texts {α : Type} {entries : Table α} (h : Table.DistinctNames entries)
    (text : α → String) (depth : Nat) :
    Textual (depth + 1) (.obj (entries.map fun e => (e.1, .str (text e.2)))) := by
  refine .obj (h.map _) fun m hm => ?_
  obtain ⟨e, -, rfl⟩ := List.mem_map.mp hm
  exact .str _

theorem Diagnostic.textual_toJson {d : Diagnostic} (h : Table.DistinctNames d.context)
    (depth : Nat) : Textual (depth + 2) d.toJson := by
  refine .obj (by simp [Table.DistinctNames]) ?_
  simp only [List.forall_mem_cons, List.not_mem_nil, false_imp_iff, implies_true, and_true]
  exact ⟨.str _, .str _, .str _, textual_texts h Detail.text depth⟩

theorem ReportEntry.textual_toJson {e : ReportEntry}
    (hdependencies : Table.DistinctNames e.dependencies)
    (hdiagnostics : ∀ d ∈ e.diagnostics, Table.DistinctNames d.context) (depth : Nat) :
    Textual (depth + 4) e.toJson := by
  refine .obj (by simp [Table.DistinctNames]) ?_
  simp only [List.forall_mem_cons, List.not_mem_nil, false_imp_iff, implies_true, and_true]
  refine ⟨textual_texts hdependencies Strength.name (depth + 2), .arr fun v hv => ?_⟩
  obtain ⟨d, hd, rfl⟩ := List.mem_map.mp hv
  exact Diagnostic.textual_toJson (hdiagnostics d hd) depth

/-- The modules of a set are listed under distinct names. -/
theorem DependencySet.distinctNames_sorted (d : DependencySet) : Table.DistinctNames d.sorted :=
  Table.DistinctNames.of_perm d.sorted_perm.symm d.keys_nodup

theorem Report.textual_toJson {results : List (String × DependencySet)} {ds : List Diagnostic}
    (hresults : Table.DistinctNames results) (hds : ∀ d ∈ ds, Table.DistinctNames d.context)
    (depth : Nat) : Textual (depth + 5) (Report.ofResults results ds).toJson := by
  refine .obj ?_ fun m hm => ?_
  · exact (hresults.map fun r => (⟨r.2.sorted, reportedFor r.1 ds⟩ : ReportEntry)).map
      fun e => e.2.toJson
  · simp only [Report.members, Report.ofResults, List.map_map, List.mem_map] at hm
    obtain ⟨r, -, rfl⟩ := hm
    exact ReportEntry.textual_toJson r.2.distinctNames_sorted
      (fun d hd => hds d (List.mem_of_mem_filter hd)) depth

/-- **A printed report reads back as it was.** Results name each component
once and a context each detail; then the text printed as JSON holds just the
report: the components in the order of the results, for each its modules in
the order of their paths, and its warnings and errors in the order in which
they were made. -/
theorem printed_report_reads_back {results : List (String × DependencySet)}
    {ds : List Diagnostic} (hresults : (results.map Prod.fst).Nodup)
    (hds : ∀ d ∈ ds, (d.context.map Prod.fst).Nodup) :
    ((Report.ofResults results ds).print .json).error = none ∧
      (Content.text ((Report.ofResults results ds).print .json).text).readJson =
        .ok (Report.ofResults results ds).toJson ∧
      (Report.ofResults results ds).toJson = .obj (results.map fun r => (r.1, .obj [
        ("dependencies", .obj (r.2.sorted.map fun m => (m.1, .str m.2.name))),
        ("diagnostics", .arr ((reportedFor r.1 ds).map Diagnostic.toJson))])) := by
  have htextual : Textual Json.maxDepth (Report.ofResults results ds).toJson :=
    Report.textual_toJson hresults hds 995
  refine ⟨rfl, ?_, ?_⟩
  · rw [Report.print, Content.readJson, Json.read_print htextual]
    rfl
  · rw [Report.toJson, Report.members, Report.ofResults, List.map_map]
    rfl

/-- A component and a module with a quote, a backslash, control characters and
a character that takes two units. -/
theorem escaped_report_reads_back :
    let component := "a\"b\\c"
    let module := "n\n\x01é😀"
    let results := [(component, DependencySet.empty.add module false)]
    let ds : List Diagnostic := [⟨.warn, .rootViewNameMissing, [("component", .str component)]⟩]
    (results.map Prod.fst).Nodup ∧ (∀ d ∈ ds, (d.context.map Prod.fst).Nodup) ∧
      (Content.text ((Report.ofResults results ds).print .json).text).readJson =
        .ok (.obj [(component, .obj [
          ("dependencies", .obj [(module, .str "required")]),
          ("diagnostics", .arr [.obj [
            ("severity", .str "warn"),
            ("code", .str "root_view_name_missing"),
            ("message", .str "Root view is configured without a viewName"),
            ("context", .obj [("component", .str component)])]])])]) := by
  intro component module results ds
  have hresults : (results.map Prod.fst).Nodup := List.nodup_singleton _
  have hds : ∀ d ∈ ds, (d.context.map Prod.fst).Nodup := by simp [ds]
  obtain ⟨-, hread, hreport⟩ := printed_report_reads_back hresults hds
  refine ⟨hresults, hds, ?_⟩
  rw [hread, hreport]
  decide +kernel

end ManifestDeps
