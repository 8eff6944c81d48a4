/-
ManifestDeps.Proofs.ReaderTheorems — the values that the JSON reader makes.

A JSON text may repeat a name inside an object. The reader keeps the later
value, so that the names of every object it makes are distinct, at every
depth (`Content.readJson_distinctNames`).

No integer is read with more than `maxDigits` digits, so that what was read
can also be written (`Content.readJson_isShowable`).

## How the proof goes

Both are instances of one lemma: a property that a value has when its parts
have it (`Value.Inherits`) holds of all that is read. The loops over items
and members take the reader of one value as an argument, and so do the lemmas
about them: what `item` yields is all right, hence so is what the loop
yields, by induction on the rounds. `readValue` ties the knot by induction on
the depth.
-/
import Mathlib.Data.List.Induction
import ManifestDeps.Manifest.Reader
import ManifestDeps.Proofs.LimitTheorems
import ManifestDeps.Proofs.TableTheorems

namespace ManifestDeps.Json

/-! ## §1 Values with distinct names -/

/-- The names of every object in a value are distinct. -/
inductive Value.DistinctNames : Value → Prop where
  | null : DistinctNames .null
  | bool (b : Bool) : DistinctNames (.bool b)
  | int (n : Int) : DistinctNames (.int n)
  | float (x : Decimal.Binary64) : DistinctNames (.float x)
  | str (s : String) : DistinctNames (.str s)
  | arr {items : List Value} : (∀ v ∈ items, DistinctNames v) → DistinctNames (.arr items)
  | obj {members : List (String × Value)} : Table.DistinctNames members →
      (∀ m ∈ members, DistinctNames m.2) → DistinctNames (.obj members)

/-- Setting a member introduces its name and no other. -/
theorem mem_names_setMember {members : List (String × Value)} {name k : String} {v : Value} :
    k ∈ (setMember members name v).map Prod.fst ↔ k ∈ members.map Prod.fst ∨ k = name := by
  induction members with
  | nil => simp [setMember]
  | cons m rest ih =>
    obtain ⟨l, w⟩ := m
    by_cases hl : l = name
    · rw [setMember, if_pos hl, List.map_cons, List.map_cons, List.mem_cons, ← hl,
        or_right_comm, or_self]
    · rw [setMember, if_neg hl, List.map_cons, List.map_cons, List.mem_cons, List.mem_cons, ih,
        or_assoc]

/-- A member of a new name is set behind all others. -/
theorem setMember_of_notMem {members : List (String × Value)} {name : String} {v : Value}
    (h : name ∉ members.map Prod.fst) : setMember members name v = members ++ [(name, v)] := by
  induction members with
  | nil => rfl
  | cons m rest ih =>
    rw [List.map_cons, List.mem_cons, not_or] at h
    rw [setMember, if_neg fun hm => h.1 hm.symm, ih h.2, List.cons_append]

/-- Setting a member keeps the names distinct. -/
theorem distinctNames_setMember {members : List (String × Value)} {name : String} {v : Value}
    (h : Table.DistinctNames members) : Table.DistinctNames (setMember members name v) := by
  induction members with
  | nil => simp [setMember, Table.DistinctNames]
  | cons m rest ih =>
    obtain ⟨l, w⟩ := m
    by_cases hl : l = name
    · rw [setMember, if_pos hl]
      exact h
    · have hrest := ih h.of_cons
      rw [setMember, if_neg hl]
      simp only [Table.DistinctNames, List.map_cons, List.nodup_cons]
      refine ⟨fun hmem => ?_, hrest⟩
      rcases mem_names_setMember.mp hmem with hmem | he
      · exact h.head_notMem hmem
      · exact hl he

example : setMember [("a", .int 1), ("b", .int 2)] "a" (.int 3) =
    [("a", .int 3), ("b", .int 2)] := by decide

/-- The members after setting one are that one or were there. -/
theorem mem_setMember {members : List (String × Value)} {name : String} {v : Value}
    {m : String × Value} (h : m ∈ setMember members name v) : m ∈ members ∨ m.2 = v := by
  induction members with
  | nil => exact .inr (by rw [List.mem_singleton.mp h])
  | cons e rest ih =>
    obtain ⟨l, w⟩ := e
    by_cases hl : l = name
    · rw [setMember, if_pos hl] at h
      rcases List.mem_cons.mp h with rfl | h
      · exact .inr rfl
      · exact .inl (List.mem_cons_of_mem _ h)
    · rw [setMember, if_neg hl] at h
      rcases List.mem_cons.mp h with rfl | h
      · exact .inl List.mem_cons_self
      · exact (ih h).imp_left (List.mem_cons_of_mem _)

/-! ## §2 What the reader may be relied on for -/

/-- A property that a value has when its parts have it. Integers are known to
have few enough digits, and objects to have distinct names. -/
structure Value.Inherits (P : Value → Prop) : Prop where
  null : P .null
  bool (b : Bool) : P (.bool b)
  int {n : Int} : n.natAbs < leastUnwritable → P (.int n)
  float (x : Decimal.Binary64) : P (.float x)
  str (s : String) : P (.str s)
  arr {items : List Value} : (∀ v ∈ items, P v) → P (.arr items)
  obj {members : List (String × Value)} : Table.DistinctNames members →
    (∀ m ∈ members, P m.2) → P (.obj members)

theorem Value.inherits_distinctNames : Value.Inherits DistinctNames where
  null := .null
  bool := .bool
  int _ := .int _
  float := .float
  str := .str
  arr := .arr
  obj := .obj

/-- A reader gives only values with a property. -/
def Yields (P : Value → Prop) (item : Cursor → Except Stop (Read Value)) : Prop :=
  ∀ ⦃cur v next⦄, item cur = .ok (v, next) → P v

/-- Members with distinct names, whose values have a property. -/
def MembersHave (P : Value → Prop) (acc : List (String × Value)) : Prop :=
  Table.DistinctNames acc ∧ ∀ m ∈ acc, P m.2

/-- The members read so far, with distinct names at every depth. -/
abbrev MembersDistinct : List (String × Value) → Prop :=
  MembersHave Value.DistinctNames

section Loops

variable {P : Value → Prop} {item : Cursor → Except Stop (Read Value)}

theorem MembersHave.nil : MembersHave P [] :=
  ⟨List.nodup_nil, by simp⟩

theorem MembersHave.setMember {acc : List (String × Value)} (h : MembersHave P acc)
    {name : String} {v : Value} (hv : P v) : MembersHave P (setMember acc name v) := by
  refine ⟨distinctNames_setMember h.1, fun m hm => ?_⟩
  rcases mem_setMember hm with hm | hm
  · exact h.2 m hm
  · rw [hm]
    exact hv

theorem yields_readItems (hP : Value.Inherits P) (hitem : Yields P item) {acc : List Value}
    {rounds : Nat} {cur next : Cursor} {v : Value} (hacc : ∀ u ∈ acc, P u)
    (h : readItems item acc rounds cur = .ok (v, next)) : P v := by
  induction rounds generalizing acc cur with
  | zero => cases h
  | succ rounds ih =>
    rw [readItems] at h
    cases hread : item cur with
    | error stop => rw [hread] at h; cases h
    | ok r =>
      obtain ⟨u, after⟩ := r
      have hacc' : ∀ x ∈ u :: acc, P x := List.forall_mem_cons.mpr ⟨hitem hread, hacc⟩
      rw [hread] at h
      simp only [bind, Except.bind] at h
      split at h
      · cases h
        exact hP.arr fun x hx => hacc' x (List.mem_reverse.mp hx)
      · exact ih hacc' h
      · cases h

theorem yields_readMembers (hP : Value.Inherits P) (hitem : Yields P item)
    {acc : List (String × Value)} {rounds : Nat} {cur next : Cursor} {v : Value}
    (hacc : MembersHave P acc) (h : readMembers item acc rounds cur = .ok (v, next)) : P v := by
  induction rounds generalizing acc cur with
  | zero => cases h
  | succ rounds ih =>
    rw [readMembers] at h
    split at h
    · rename_i rest _
      cases hname : readString cur.pos (cur.pos + 1) [] rest with
      | error stop => rw [hname] at h; cases h
      | ok r =>
        obtain ⟨name, behind⟩ := r
        rw [hname] at h
        simp only [bind, Except.bind] at h
        -- behind the name: the colon, then the value, then the comma or the brace
        split at h
        · split at h
          · cases h
          · rename_i r hread
            obtain ⟨u, after⟩ := r
            have hacc' : MembersHave P (setMember acc name u) := hacc.setMember (hitem hread)
            simp only at h
            split at h
            · cases h
              exact hP.obj hacc'.1 hacc'.2
            · exact ih hacc' h
            · cases h
        · cases h
    · cases h

end Loops

/-! ## §3 The reader -/

/-- A word stands for null, a truth value or a number. -/
theorem eq_of_readWord? {cs : List Char} {v : Value} {n : Nat}
    (h : readWord? cs = some (v, n)) : v = .null ∨ (∃ b, v = .bool b) ∨ ∃ x, v = .float x := by
  unfold readWord? at h
  split at h <;> cases h <;> simp

/-- Digits stand for a number with no more digits than there are. -/
theorem digitsValue_lt {ds : List Char} (h : ∀ d ∈ ds, isDigit d = true) :
    digitsValue ds < Nat.pow 10 ds.length := by
  induction ds using List.reverseRecOn with
  | nil => decide
  | append_singleton rest d ih =>
    have hrest := ih fun x hx => h x (List.mem_append_left _ hx)
    have hd : d.toNat - 48 < 10 := by
      have hdigit := h d (List.mem_append_right _ List.mem_cons_self)
      simp only [isDigit, Bool.and_eq_true, decide_eq_true_eq] at hdigit
      have hle : d.toNat ≤ 57 := hdigit.2
      omega
    have hpow : Nat.pow 10 (rest.length + 1) = Nat.pow 10 rest.length * 10 := rfl
    simp only [digitsValue] at hrest ⊢
    rw [List.foldl_append, List.foldl_cons, List.foldl_nil, List.length_append,
      List.length_singleton, hpow]
    omega

theorem digitsValue_lt_leastUnwritable {ds : List Char} (h : ∀ d ∈ ds, isDigit d = true)
    (hmax : ds.length ≤ maxDigits) : digitsValue ds < leastUnwritable := by
  unfold leastUnwritable
  -- the power is not to be evaluated
  generalize maxDigits = k at hmax ⊢
  exact (digitsValue_lt h).trans_le (Nat.pow_le_pow_right (by decide) hmax)

section Reader

variable {P : Value → Prop} (hP : Value.Inherits P)

include hP

theorem yields_readNumber : Yields P readNumber := by
  intro cur v next h
  unfold readNumber at h
  simp only at h
  split at h
  · cases h
  · rename_i ints afterInt _ hints
    split at h
    · split at h
      · cases h
      · rename_i hmax
        cases h
        -- what is read for an integer are digits, and not too many of them
        have hdigits : ∀ d ∈ ints, isDigit d = true := fun d hd =>
          isDigit_of_mem_takeInteger (by rw [hints]; exact hd)
        have hlt := digitsValue_lt_leastUnwritable hdigits (Nat.le_of_not_lt hmax)
        refine hP.int ?_
        split <;> omega
    · cases h
      exact hP.float _

/-- A step of the reader, over what it does one level deeper. -/
theorem yields_readValue_step {depth : Nat}
    (hdeeper : ∀ d, depth = d + 1 → Yields P (readValue d)) : Yields P (readValue depth) := by
  intro cur v next h
  unfold readValue at h
  split at h
  · -- a text
    rename_i rest _
    cases hread : readString cur.pos (cur.pos + 1) [] rest with
    | error stop => rw [hread] at h; cases h
    | ok r =>
      rw [hread] at h
      cases h
      exact hP.str _
  · -- an array
    split at h
    · cases h
    · simp only at h
      split at h
      · cases h
        exact hP.arr (by simp)
      · exact yields_readItems hP (hdeeper _ rfl) (by simp) h
  · -- an object
    split at h
    · cases h
    · simp only at h
      split at h
      · cases h
        exact hP.obj List.nodup_nil (by simp)
      · exact yields_readMembers hP (hdeeper _ rfl) .nil h
  · -- a word or a number
    split at h
    · rename_i hword
      cases h
      rcases eq_of_readWord? hword with rfl | ⟨b, rfl⟩ | ⟨x, rfl⟩
      · exact hP.null
      · exact hP.bool b
      · exact hP.float x
    · exact yields_readNumber hP h

/-- **The reader gives values with each property that parts hand on**, at
every depth. -/
theorem yields_readValue (depth : Nat) : Yields P (readValue depth) := by
  induction depth with
  | zero => exact yields_readValue_step hP fun d hd => nomatch hd
  | succ depth ih =>
    refine yields_readValue_step hP fun d hd => ?_
    cases hd
    exact ih

theorem of_readChars {cs : List Char} {depth : Nat} {v : Value}
    (h : readChars cs depth = .ok v) : P v := by
  unfold readChars at h
  simp only at h
  split at h
  · cases h
  · rename_i hread
    split at h
    · cases h
      exact yields_readValue hP depth hread
    · cases h

theorem of_read {s : String} {depth : Nat} {v : Value} (h : read s depth = .ok v) : P v := by
  unfold read at h
  split at h
  · cases h
  · exact of_readChars hP h

end Reader

/-- **The integers that are read have few enough digits to be written.** -/
theorem Value.inherits_isShowable : Value.Inherits fun v => v.isShowable = true where
  null := rfl
  bool _ := rfl
  int h := by rwa [isShowable, decide_eq_true_eq]
  float _ := rfl
  str _ := rfl
  arr h := by rwa [isShowable, areShowable_eq_all, List.all_eq_true]
  obj _ h := by rwa [isShowable, membersShowable_eq_all, List.all_eq_true]

end ManifestDeps.Json

namespace ManifestDeps

open Json (ReadError Value)

theorem Content.eq_ok_of_toFault {r : Except ReadError Value} {v : Value}
    (h : Content.readJson.toFault r = .ok v) : r = .ok v := by
  unfold Content.readJson.toFault at h
  split at h
  · cases h
    rfl
  · cases h
  · cases h

/-- What parts hand on holds of the JSON value of a content. -/
theorem Content.of_readJson {P : Value → Prop} (hP : Value.Inherits P) {content : Content}
    {depth : Nat} {v : Value} (h : content.readJson depth = .ok v) : P v := by
  unfold Content.readJson at h
  split at h
  · exact Json.of_read hP (Content.eq_ok_of_toFault h)
  · split at h
    · cases h
    · exact Json.of_readChars hP (Content.eq_ok_of_toFault h)

/-- **The objects in the JSON value of a content have distinct names.** -/
theorem Content.readJson_distinctNames {content : Content} {depth : Nat} {v : Value}
    (h : content.readJson depth = .ok v) : v.DistinctNames :=
  of_readJson Value.inherits_distinctNames h

/-- **The JSON value of a content can be written out.** -/
theorem Content.readJson_isShowable {content : Content} {depth : Nat} {v : Value}
    (h : content.readJson depth = .ok v) : v.isShowable = true :=
  of_readJson Value.inherits_isShowable h

/-- A manifest is read from an object. -/
theorem Manifest.exists_of_parse {name : String} {content : Content} {depth : Nat}
    {m : Manifest} (h : Manifest.parse name content depth = .ok m) :
    ∃ ms, content.readJson depth = .ok (.obj ms) ∧ Manifest.ofJson (.obj ms) = .ok m := by
  unfold Manifest.parse at h
  split at h
  · cases h
  · cases h
  · rename_i v hv
    split at h
    · rename_i hm
      cases h
      cases v with
      | obj ms => exact ⟨ms, hv, hm⟩
      | _ => cases hm
    · cases h

end ManifestDeps
