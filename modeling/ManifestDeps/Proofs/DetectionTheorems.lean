/-
ManifestDeps.Proofs.DetectionTheorems — a manifest is the same in every
encoding.

The encoding of bytes is found out from the first few of them. This is
certain for a text that starts with two ASCII characters other than NUL:
behind a byte order mark they are told from another mark
(`Encoding.detect_mark`), and without one the zero bytes among the first
four stand where they do in no other encoding (`Encoding.detect_asciiBytes`).

Not every JSON text starts so: a string may hold any character behind its
quote, and a number may be one digit. A manifest is an object, and the text
of an object does (`Json.startsPlain_of_readChars`): blanks, the brace, and
behind it a blank, a quote or the other brace.
-/
import ManifestDeps.Proofs.DirectoryTheorems
import ManifestDeps.Proofs.EncodingTheorems
import ManifestDeps.Proofs.ReaderTheorems
import ManifestDeps.Proofs.ShapeTheorems

namespace ManifestDeps.Text

/-! ## §1 Two ASCII characters in front -/

/-- The character is ASCII and not NUL. -/
def IsPlain (c : Char) : Prop :=
  c.toNat ≠ 0 ∧ c.toNat < 0x80

/-- A text that starts with two such characters. -/
def StartsPlain (cs : List Char) : Prop :=
  ∃ x y rest, cs = x :: y :: rest ∧ IsPlain x ∧ IsPlain y

/-- The bytes of an ASCII character with a number. -/
def Encoding.asciiBytes (a : UInt8) : Encoding → List UInt8
  | utf8 => [a]
  | utf16 true => [0, a]
  | utf16 false => [a, 0]
  | utf32 true => [0, 0, 0, a]
  | utf32 false => [a, 0, 0, 0]

theorem IsPlain.encode_cons {c : Char} (h : IsPlain c) (e : Encoding) (cs : List Char) :
    e.encode (c :: cs) = e.asciiBytes c.toNat.toUInt8 ++ e.encode cs := by
  obtain ⟨-, hlt⟩ := h
  have hdiv : c.toNat / 256 = 0 := by omega
  have hmod : c.toNat % 256 = c.toNat := by omega
  have hdiv' : c.toNat / 65536 = 0 := by omega
  have hmod' : c.toNat % 65536 = c.toNat := by omega
  rw [Encoding.encode.eq_def, Encoding.encode.eq_def]
  rcases e with _ | (_ | _) | (_ | _)
  all_goals
    simp [encodeUtf8Char, encodeUtf16Char, encodeUtf32Char, bytes16, Encoding.asciiBytes, hlt,
      hdiv, hmod, hdiv', hmod', Nat.lt_trans hlt]

/-- What is known of the byte of such a character. -/
theorem IsPlain.toUInt8 {c : Char} (h : IsPlain c) :
    c.toNat.toUInt8 ≠ 0 ∧ c.toNat.toUInt8 < 0x80 := by
  obtain ⟨hne, hlt⟩ := h
  have hb : c.toNat.toUInt8.toNat = c.toNat := toNat_toUInt8 (by omega)
  refine ⟨fun h0 => hne ?_, ?_⟩
  · rw [← hb, h0]; rfl
  · rw [UInt8.lt_iff_toNat_lt, hb]; exact hlt

namespace Encoding

/-- An ASCII byte other than zero is not a zero and not of a byte order mark. -/
theorem beq_eq_false_of_lt {a b : UInt8} (ha : a ≠ 0) (ha' : a < 0x80)
    (hb : b = 0 ∨ 0x80 ≤ b) : (b == a) = false := by
  rw [beq_eq_false_iff_ne]
  rintro rfl
  rcases hb with hb | hb
  · exact ha hb
  · exact absurd ha' (UInt8.not_lt.mpr hb)

variable {a b : UInt8} (ha : a ≠ 0) (ha' : a < 0x80) (hb : b ≠ 0) (rest : List UInt8)

include ha ha' hb in
/-- **Without a mark, the zero bytes tell the encoding.** -/
theorem detect_asciiBytes (e : Encoding) :
    detect (e.asciiBytes a ++ (e.asciiBytes b ++ rest)) = (e, 0) := by
  have hbom {m : UInt8} (hm : m = 0 ∨ 0x80 ≤ m) : (m == a) = false :=
    beq_eq_false_of_lt ha ha' hm
  have h0 := hbom (.inl rfl)
  have hef := @hbom 0xef (.inr (by decide))
  have hfe := @hbom 0xfe (.inr (by decide))
  have hff := @hbom 0xff (.inr (by decide))
  rcases e with _ | (_ | _) | (_ | _)
  · -- how many bytes follow does not matter in UTF-8
    rcases rest with _ | ⟨c, _ | ⟨d, rest⟩⟩ <;>
      simp [detect, mark, asciiBytes, List.isPrefixOf, ha, hb, h0, hef, hfe, hff]
  all_goals simp [detect, mark, asciiBytes, List.isPrefixOf, ha, hb, h0, hef, hfe, hff]

include ha ha' in
/-- **A mark tells the encoding.** -/
theorem detect_mark (e : Encoding) :
    detect (e.mark ++ (e.asciiBytes a ++ rest)) = (e, e.mark.length) := by
  have h0 : (0 == a) = false := beq_eq_false_of_lt ha ha' (.inl rfl)
  rcases e with _ | (_ | _) | (_ | _) <;>
    simp [detect, mark, asciiBytes, List.isPrefixOf, h0]

/-- The bytes of a text, with a byte order mark in front or without. -/
def encodeMarked (e : Encoding) (marked : Bool) (cs : List Char) : List UInt8 :=
  (if marked then e.mark else []) ++ e.encode cs

end Encoding

/-- **The text of bytes is the text they were written for**, if it starts
with two ASCII characters. -/
theorem StartsPlain.decodeDetected_encodeMarked {cs : List Char} (h : StartsPlain cs)
    (e : Encoding) (marked : Bool) : decodeDetected (e.encodeMarked marked cs) = .ok cs := by
  have hdetect : Encoding.detect (e.encodeMarked marked cs) =
      (e, (if marked then e.mark else []).length) := by
    obtain ⟨x, y, rest, rfl, hx, hy⟩ := h
    obtain ⟨hx0, hxlt⟩ := hx.toUInt8
    rw [Encoding.encodeMarked, hx.encode_cons, hy.encode_cons]
    cases marked with
    | true => exact Encoding.detect_mark hx0 hxlt _ e
    | false => exact Encoding.detect_asciiBytes hx0 hxlt hy.toUInt8.1 _ e
  rw [decodeDetected, hdetect]
  simp only [Encoding.encodeMarked, List.drop_left]
  exact e.decodeFrom_encode _ cs

end ManifestDeps.Text

namespace ManifestDeps.Json

open ManifestDeps.Text

/-! ## §2 The text of an object -/

theorem exists_arr_of_readItems {item : Cursor → Except Stop (Read Value)} {acc : List Value}
    {rounds : Nat} {cur next : Cursor} {v : Value}
    (h : readItems item acc rounds cur = .ok (v, next)) : ∃ items, v = .arr items := by
  induction rounds generalizing acc cur with
  | zero => cases h
  | succ rounds ih =>
    rw [readItems] at h
    cases hread : item cur with
    | error stop => rw [hread] at h; cases h
    | ok r =>
      rw [hread] at h
      simp only [bind, Except.bind] at h
      split at h
      · cases h
        exact ⟨_, rfl⟩
      · exact ih h
      · cases h

theorem readNumber_ne_obj {cur next : Cursor} {ms : List (String × Value)} :
    readNumber cur ≠ .ok (.obj ms, next) := by
  intro h
  unfold readNumber at h
  simp only at h
  split at h
  · cases h
  · split at h
    · split at h <;> cases h
    · cases h

/-- Members begin with the quote of a name. -/
theorem exists_quote_of_readMembers {item : Cursor → Except Stop (Read Value)}
    {acc : List (String × Value)} {rounds : Nat} {cur : Cursor} {r : Read Value}
    (h : readMembers item acc rounds cur = .ok r) : ∃ rest, cur.rest = '"' :: rest := by
  cases rounds with
  | zero => cases h
  | succ rounds =>
    rw [readMembers] at h
    split at h
    · rename_i rest hrest
      exact ⟨rest, hrest⟩
    · cases h

/-- An object begins with a brace, behind which stands, after blanks, the
other brace or a quote. -/
theorem exists_brace_of_readValue {depth : Nat} {cur next : Cursor} {ms : List (String × Value)}
    (h : readValue depth cur = .ok (.obj ms, next)) :
    ∃ rest, cur.rest = '\x7b' :: rest ∧
      ∃ c behind, (skipBlanks (cur.pos + 1) rest).rest = c :: behind ∧ (c = '"' ∨ c = '\x7d') := by
  unfold readValue at h
  split at h
  · rename_i rest _
    cases hread : readString cur.pos (cur.pos + 1) [] rest with
    | error stop => rw [hread] at h; cases h
    | ok r => rw [hread] at h; cases h
  · split at h
    · cases h
    · simp only at h
      split at h
      · cases h
      · obtain ⟨items, hitems⟩ := exists_arr_of_readItems h
        cases hitems
  · rename_i rest hrest
    refine ⟨rest, hrest, ?_⟩
    have hinner : cur.advance = skipBlanks (cur.pos + 1) rest := by
      rw [Cursor.advance, hrest, List.drop_succ_cons, List.drop_zero]
    rw [← hinner]
    split at h
    · cases h
    · simp only at h
      split at h
      · rename_i behind hbehind
        exact ⟨_, behind, hbehind, .inr rfl⟩
      · obtain ⟨behind, hbehind⟩ := exists_quote_of_readMembers h
        exact ⟨_, behind, hbehind, .inl rfl⟩
  · split at h
    · rename_i hword
      cases h
      simpa using eq_of_readWord? hword
    · exact absurd h readNumber_ne_obj

/-- What is skipped is blank. -/
theorem exists_append_skipBlanks (pos : Nat) (cs : List Char) :
    ∃ blanks, cs = blanks ++ (skipBlanks pos cs).rest ∧ ∀ c ∈ blanks, isBlank c = true := by
  fun_induction skipBlanks pos cs with
  | case1 pos c rest hc ih =>
    obtain ⟨blanks, hrest, hblanks⟩ := ih
    exact ⟨c :: blanks, by rw [List.cons_append, ← hrest],
      List.forall_mem_cons.mpr ⟨hc, hblanks⟩⟩
  | case2 => exact ⟨[], rfl, by simp⟩
  | case3 => exact ⟨[], rfl, by simp⟩

theorem isPlain_of_isBlank {c : Char} (h : isBlank c = true) : IsPlain c := by
  simp only [isBlank, Bool.or_eq_true, beq_iff_eq] at h
  rcases h with ((rfl | rfl) | rfl) | rfl <;> exact ⟨by decide, by decide⟩

/-- **The text of an object starts with two ASCII characters**: blanks, the
brace, and what follows it. -/
theorem startsPlain_of_readChars {cs : List Char} {depth : Nat} {ms : List (String × Value)}
    (h : readChars cs depth = .ok (.obj ms)) : StartsPlain cs := by
  obtain ⟨next, hread⟩ : ∃ next, readValue depth (skipBlanks 0 cs) = .ok (.obj ms, next) := by
    unfold readChars at h
    simp only at h
    split at h
    · cases h
    · rename_i v next hread
      split at h
      · cases h
        exact ⟨next, hread⟩
      · cases h
  obtain ⟨rest, hbrace, c, behind, hc, hquote⟩ := exists_brace_of_readValue hread
  obtain ⟨blanks, hcs, hblanks⟩ := exists_append_skipBlanks 0 cs
  obtain ⟨blanks', hrest, hblanks'⟩ := exists_append_skipBlanks ((skipBlanks 0 cs).pos + 1) rest
  rw [hbrace] at hcs
  rw [hc] at hrest
  have hplain : IsPlain '\x7b' := ⟨by decide, by decide⟩
  -- the character behind the brace is a blank, the quote of a name or the other brace
  obtain ⟨d, tail, rfl, hd⟩ : ∃ d tail, rest = d :: tail ∧ IsPlain d := by
    rw [hrest]
    cases blanks' with
    | nil =>
      refine ⟨c, behind, rfl, ?_⟩
      rcases hquote with rfl | rfl <;> exact ⟨by decide, by decide⟩
    | cons d _ => exact ⟨d, _, rfl, isPlain_of_isBlank (hblanks' d List.mem_cons_self)⟩
  match blanks, hblanks with
  | [], _ => exact ⟨_, d, tail, hcs, hplain, hd⟩
  | [x], hblanks => exact ⟨x, _, _, hcs, isPlain_of_isBlank (hblanks x (by simp)), hplain⟩
  | x :: y :: _, hblanks =>
    exact ⟨x, y, _, hcs, isPlain_of_isBlank (hblanks x (by simp)),
      isPlain_of_isBlank (hblanks y (by simp))⟩

end ManifestDeps.Json

namespace ManifestDeps

open Json (Value)
open Text (Encoding)

/-! ## §3 Manifests -/

theorem Content.readChars_of_readJson {s : String} {v : Value}
    (h : (Content.text s).readJson = .ok v) : Json.readChars s.toList = .ok v := by
  have hread : Json.read s = .ok v := Content.eq_ok_of_toFault h
  unfold Json.read at hread
  split at hread
  · cases hread
  · exact hread

/-- A text that holds an object holds the same one in every encoding. -/
theorem Content.readJson_encodeMarked {s : String} {ms : List (String × Value)}
    (h : (Content.text s).readJson = .ok (.obj ms)) (e : Encoding) (marked : Bool) :
    (Content.bytes (e.encodeMarked marked s.toList)).readJson = .ok (.obj ms) := by
  have hread := Content.readChars_of_readJson h
  have hdecode :=
    (Json.startsPlain_of_readChars hread).decodeDetected_encodeMarked e marked
  rw [Content.readJson, hdecode]
  simp only [hread]
  rfl

/-- A text that holds a manifest holds it in every encoding, under whatever
name. -/
theorem Manifest.parse_encodeMarked {name : String} {s : String} {m : Manifest}
    (h : Manifest.parse name (.text s) = .ok m) (e : Encoding) (marked : Bool) (name' : String) :
    Manifest.parse name' (.bytes (e.encodeMarked marked s.toList)) = .ok m := by
  obtain ⟨ms, hjson, hm⟩ := Manifest.exists_of_parse h
  rw [Manifest.parse_of_readJson (Content.readJson_encodeMarked hjson e marked), hm]

/-- Two contents of a file that hold the same manifest, or are refused for
the same reason, are loaded alike. -/
theorem Pool.load_ofTable_congr {x y : Content}
    (h : ∀ name, Manifest.parse name (.bytes x.toBytes) = Manifest.parse name (.bytes y.toBytes))
    (before after : Table Content) (file c : String) :
    (Pool.ofTable (before ++ (file, x) :: after)).load c =
      (Pool.ofTable (before ++ (file, y) :: after)).load c := by
  have hlookup (z : Content) (name : String) : (before ++ (file, z) :: after).lookup name =
      (before.lookup name).or (if name = file then some z else after.lookup name) := by
    rw [List.lookup_append, Table.lookup_cons_eq_ite]
  by_cases hfile : before.lookup (ModuleName.descriptorOf c) = none ∧
      ModuleName.descriptorOf c = file
  · obtain ⟨hbefore, rfl⟩ := hfile
    simp only [Pool.load, Pool.ofTable, hlookup, hbefore, Option.none_or, if_pos, h]
  · -- another file stands in front of this one, or the descriptor has another name
    refine Pool.load_congr ?_
    simp only [Pool.content, Pool.ofTable, hlookup]
    cases hbefore : before.lookup (ModuleName.descriptorOf c) with
    | some z => rfl
    | none =>
      have hname : ModuleName.descriptorOf c ≠ file := fun hname => hfile ⟨hbefore, hname⟩
      rw [if_neg hname, if_neg hname]

/-- **The encoding of a manifest does not matter.** A text that holds a
manifest holds the same one as bytes in UTF-8, UTF-16 and UTF-32, with the
bytes of a unit in either order, with a byte order mark in front or without.
And a file of a table in memory may hold any of these bytes in place of the
text: the analysis of every component, with whatever rules and from whatever
dependencies, leaves behind the same dependencies and reports. -/
theorem encoded_manifest_is_the_same {name s : String} {m : Manifest}
    (h : Manifest.parse name (.text s) = .ok m) (e : Encoding) (marked : Bool) :
    (∀ name', Manifest.parse name' (.bytes (e.encodeMarked marked s.toList)) = .ok m) ∧
      ∀ (before after : Table Content) (file : String) (rules : List Rule) (c : String)
        (d : DependencySet),
        ({ pool := .ofTable (before ++ (file, .text s) :: after), rules := rules } :
            Analyzer).analyze c d =
          ({ pool := .ofTable (before ++ (file, .bytes (e.encodeMarked marked s.toList)) :: after)
             rules := rules } : Analyzer).analyze c d := by
  have hparse := Manifest.parse_encodeMarked h
  refine ⟨hparse e marked, fun before after file rules c d => ?_⟩
  refine Analyzer.analyze_congr (Pool.load_ofTable_congr (fun name' => ?_) before after file c)
    rules d
  -- a text is stored in UTF-8 without a mark
  exact (hparse .utf8 false name').trans (hparse e marked name').symm

/-- A library with a character beyond U+FFFF, behind a line feed, in UTF-16. -/
theorem encoded_manifest_is_the_same_utf16 :
    let libs := "\x7b\"é😀\":null\x7d"
    let text := "\n\x7b\"sap.ui5\":\x7b\"dependencies\":\x7b\"libs\":" ++ libs ++ "\x7d\x7d\x7d"
    let bytes := (Encoding.utf16 false).encodeMarked false text.toList
    let analyzer (content : Content) : Analyzer :=
      { pool := .ofTable [("demo/manifest.json", content)] }
    ∃ m, Manifest.parse "manifest.json" (.text text) = .ok m ∧
      Manifest.parse "manifest.json" (.bytes bytes) = .ok m ∧
      (analyzer (.text text)).analyze "demo/Component.js" .empty =
        (analyzer (.bytes bytes)).analyze "demo/Component.js" .empty ∧
      ((analyzer (.text text)).analyze "demo/Component.js" .empty).dependencies.modules =
        ["é😀/library.js"] := by
  intro libs text bytes analyzer
  have hok : (Manifest.parse "manifest.json" (.text text)).toBool = true := by decide +kernel
  cases hm : Manifest.parse "manifest.json" (.text text) with
  | error e =>
    rw [hm] at hok
    cases hok
  | ok m =>
    obtain ⟨hparse, hanalyze⟩ := encoded_manifest_is_the_same hm (.utf16 false) false
    exact ⟨m, rfl, hparse "manifest.json", hanalyze [] [] "demo/manifest.json" defaultRules
      "demo/Component.js" .empty, by decide +kernel⟩

end ManifestDeps
