/-
ManifestDeps.Proofs.EncodingTheorems — bytes are read as the text they are
written for.

The two directions of UTF-8 meet in `Utf8Sequence`, which says of some bytes
that they are the sequence of a code point: how many there are, and what
each of them may be. Neither the reader nor the writer is mentioned there.
Every such sequence is read as its character and written for it
(`Utf8Sequence.decode`, `Utf8Sequence.encode`), and the bytes of every
character are one (`utf8Sequence_encodeUtf8Char`). The reader takes nothing
else, so that it succeeds just on the bytes of texts, and gives the text
back (`decodeUtf8_eq_ok_iff`).

UTF-16 goes by the 16-bit units of a character, which JSON writes as escapes.
Both readers join them alike (`decodeUtf16From_flatMap_bytes16`), and joining
gives the characters back (`joinPairs_codeUnits`). With UTF-32, where every
character has four bytes, a text is read back in any encoding
(`Encoding.decodeFrom_encode`).
-/
import ManifestDeps.Json.Reader
import ManifestDeps.Text.Encoding

namespace ManifestDeps.Text

open Json (joinPairs)

/-! ## §1 Bytes and characters as numbers -/

theorem isContinuation_iff {b : UInt8} :
    isContinuation b = true ↔ 0x80 ≤ b.toNat ∧ b.toNat < 0xc0 := by
  simp [isContinuation, UInt8.le_iff_toNat_le, UInt8.lt_iff_toNat_lt]

/-- The four first bytes that leave less room to the second. -/
theorem isSecondOf_iff {a b : UInt8} :
    isSecondOf a b = true ↔ (0x80 ≤ b.toNat ∧ b.toNat < 0xc0) ∧
      (a.toNat = 0xe0 → 0xa0 ≤ b.toNat) ∧ (a.toNat = 0xed → b.toNat < 0xa0) ∧
      (a.toNat = 0xf0 → 0x90 ≤ b.toNat) ∧ (a.toNat = 0xf4 → b.toNat < 0x90) := by
  simp [isSecondOf, isContinuation, UInt8.le_iff_toNat_le, UInt8.lt_iff_toNat_lt,
    ← UInt8.toNat_inj]
  omega

theorem toNat_toUInt8 {n : Nat} (h : n < 256) : n.toUInt8.toNat = n :=
  UInt8.toNat_ofNat_of_lt' h

theorem toUInt8_eq {n : Nat} (b : UInt8) (h : n = b.toNat) : n.toUInt8 = b := by
  subst h
  exact UInt8.ofNat_toNat

theorem toNat_ofNat {n : Nat} (h : n.isValidChar) : (Char.ofNat n).toNat = n := by
  rw [Char.ofNat, dif_pos h]
  rfl

/-- The code point of a character is that character's. -/
theorem charOfCodePoint_toNat (c : Char) : charOfCodePoint c.toNat = c := by
  have hvalid : c.toNat.isValidChar := c.valid
  unfold Nat.isValidChar at hvalid
  rw [charOfCodePoint, if_neg, Char.ofNat_toNat]
  simp only [isHighSurrogate, isLowSurrogate, Bool.or_eq_true, Bool.and_eq_true,
    decide_eq_true_eq]
  omega

/-! ## §2 The sequence of a code point -/

/-- Some bytes are the sequence of a code point. -/
inductive Utf8Sequence : List UInt8 → Nat → Prop where
  | one {a : UInt8} : a.toNat < 0x80 → Utf8Sequence [a] a.toNat
  | two {a b : UInt8} : 0xc2 ≤ a.toNat → a.toNat < 0xe0 → isContinuation b = true →
      Utf8Sequence [a, b] (a.toNat % 32 * 64 + payload b)
  | three {a b c : UInt8} : 0xe0 ≤ a.toNat → a.toNat < 0xf0 → isSecondOf a b = true →
      isContinuation c = true →
      Utf8Sequence [a, b, c] (a.toNat % 16 * 4096 + payload b * 64 + payload c)
  | four {a b c d : UInt8} : 0xf0 ≤ a.toNat → a.toNat < 0xf5 → isSecondOf a b = true →
      isContinuation c = true → isContinuation d = true →
      Utf8Sequence [a, b, c, d]
        (a.toNat % 8 * 262144 + payload b * 4096 + payload c * 64 + payload d)

namespace Utf8Sequence

variable {bytes : List UInt8} {n : Nat}

/-- No sequence stands for a surrogate, or for more than the last code
point. -/
theorem isValidChar (h : Utf8Sequence bytes n) : n.isValidChar := by
  unfold Nat.isValidChar
  cases h with
  | one ha => omega
  | two ha ha' hb =>
    rw [isContinuation_iff] at hb
    unfold payload
    omega
  | three ha ha' hb hc =>
    rw [isSecondOf_iff] at hb
    rw [isContinuation_iff] at hc
    unfold payload
    omega
  | four ha ha' hb hc hd =>
    rw [isSecondOf_iff] at hb
    rw [isContinuation_iff] at hc hd
    unfold payload
    omega

/-- A sequence is written for its character. -/
theorem encode (h : Utf8Sequence bytes n) : encodeUtf8Char (Char.ofNat n) = bytes := by
  rw [encodeUtf8Char, toNat_ofNat h.isValidChar]
  cases h with
  | @one a ha => rw [if_pos ha, toUInt8_eq a rfl]
  | @two a b ha ha' hb =>
    rw [isContinuation_iff] at hb
    unfold payload
    rw [if_neg (by omega), if_pos (by omega), toUInt8_eq a (by omega), toUInt8_eq b (by omega)]
  | @three a b c ha ha' hb hc =>
    rw [isSecondOf_iff] at hb
    rw [isContinuation_iff] at hc
    unfold payload
    rw [if_neg (by omega), if_neg (by omega), if_pos (by omega), toUInt8_eq a (by omega),
      toUInt8_eq b (by omega), toUInt8_eq c (by omega)]
  | @four a b c d ha ha' hb hc hd =>
    rw [isSecondOf_iff] at hb
    rw [isContinuation_iff] at hc hd
    unfold payload
    rw [if_neg (by omega), if_neg (by omega), if_neg (by omega), toUInt8_eq a (by omega),
      toUInt8_eq b (by omega), toUInt8_eq c (by omega), toUInt8_eq d (by omega)]

/-- **A sequence is read as its character**, whatever follows, and whether
or not surrogates are let through. -/
theorem decode (h : Utf8Sequence bytes n) (surrogates : Bool) (pos : Nat) (acc : List Char)
    (rest : List UInt8) :
    decodeUtf8From surrogates pos acc (bytes ++ rest) =
      decodeUtf8From surrogates (pos + bytes.length) (Char.ofNat n :: acc) rest := by
  have hlt (x y : UInt8) : x < y ↔ x.toNat < y.toNat := UInt8.lt_iff_toNat_lt
  cases h with
  | one ha =>
    rw [List.singleton_append, decodeUtf8From.eq_def]
    simp only [hlt, UInt8.reduceToNat]
    rw [if_pos ha]
    rfl
  | two ha ha' hb =>
    rw [List.cons_append, List.singleton_append, decodeUtf8From]
    simp only [hlt, UInt8.reduceToNat]
    rw [if_neg (by omega), if_neg (by omega), if_pos ha', if_pos hb]
    rfl
  | three ha ha' hb hc =>
    rw [List.cons_append, List.cons_append, List.singleton_append, decodeUtf8From]
    simp only [hlt, UInt8.reduceToNat]
    rw [if_neg (by omega), if_neg (by omega), if_neg (by omega), if_pos ha', if_pos hb,
      if_pos hc]
    rfl
  | four ha ha' hb hc hd =>
    rw [List.cons_append, List.cons_append, List.cons_append, List.singleton_append,
      decodeUtf8From]
    simp only [hlt, UInt8.reduceToNat]
    rw [if_neg (by omega), if_neg (by omega), if_neg (by omega), if_neg (by omega), if_pos ha',
      if_pos hb, if_pos hc, if_pos hd]
    rfl

end Utf8Sequence

/-- **The bytes of a character** are a sequence of its code point. -/
theorem utf8Sequence_encodeUtf8Char (c : Char) : Utf8Sequence (encodeUtf8Char c) c.toNat := by
  have hvalid : c.toNat.isValidChar := c.valid
  unfold Nat.isValidChar at hvalid
  unfold encodeUtf8Char
  generalize c.toNat = n at hvalid
  simp only
  split
  · have h := @Utf8Sequence.one n.toUInt8
    rw [toNat_toUInt8 (by omega)] at h
    exact h (by omega)
  split
  · have hn : (0xc0 + n / 64) % 32 * 64 + (0x80 + n % 64) % 64 = n := by omega
    have h := @Utf8Sequence.two (0xc0 + n / 64).toUInt8 (0x80 + n % 64).toUInt8
    rw [isContinuation_iff, payload, toNat_toUInt8 (by omega), toNat_toUInt8 (by omega), hn] at h
    exact h (by omega) (by omega) (by omega)
  split
  · have hn : (0xe0 + n / 4096) % 16 * 4096 + (0x80 + n / 64 % 64) % 64 * 64 +
        (0x80 + n % 64) % 64 = n := by omega
    have h := @Utf8Sequence.three (0xe0 + n / 4096).toUInt8 (0x80 + n / 64 % 64).toUInt8
      (0x80 + n % 64).toUInt8
    rw [isContinuation_iff, isSecondOf_iff, payload, payload, toNat_toUInt8 (by omega),
      toNat_toUInt8 (by omega), toNat_toUInt8 (by omega), hn] at h
    exact h (by omega) (by omega) (by omega) (by omega)
  · have hn : (0xf0 + n / 262144) % 8 * 262144 + (0x80 + n / 4096 % 64) % 64 * 4096 +
        (0x80 + n / 64 % 64) % 64 * 64 + (0x80 + n % 64) % 64 = n := by omega
    have h := @Utf8Sequence.four (0xf0 + n / 262144).toUInt8 (0x80 + n / 4096 % 64).toUInt8
      (0x80 + n / 64 % 64).toUInt8 (0x80 + n % 64).toUInt8
    rw [isContinuation_iff, isContinuation_iff, isSecondOf_iff, payload, payload, payload,
      toNat_toUInt8 (by omega), toNat_toUInt8 (by omega), toNat_toUInt8 (by omega),
      toNat_toUInt8 (by omega), hn] at h
    exact h (by omega) (by omega) (by omega) (by omega) (by omega)

/-! ## §3 Texts -/

/-- A text is read from its bytes. -/
theorem decodeUtf8From_encode (surrogates : Bool) (pos : Nat) (acc cs : List Char) :
    decodeUtf8From surrogates pos acc (Encoding.utf8.encode cs) = .ok (acc.reverse ++ cs) := by
  induction cs generalizing pos acc with
  | nil => simp [Encoding.encode, decodeUtf8From]
  | cons c rest ih =>
    have hcons : Encoding.utf8.encode (c :: rest) =
        encodeUtf8Char c ++ Encoding.utf8.encode rest := rfl
    rw [hcons, (utf8Sequence_encodeUtf8Char c).decode, Char.ofNat_toNat, ih,
      List.reverse_cons, List.append_assoc, List.singleton_append]

/-- What was read before a sequence is what was read, up to its character. -/
theorem Utf8Sequence.exists_encode {seq rest : List UInt8} {n : Nat} (h : Utf8Sequence seq n)
    {acc ms : List Char}
    (hrest : ∃ cs, ms = (Char.ofNat n :: acc).reverse ++ cs ∧ rest = Encoding.utf8.encode cs) :
    ∃ cs, ms = acc.reverse ++ cs ∧ seq ++ rest = Encoding.utf8.encode cs := by
  obtain ⟨cs, rfl, rfl⟩ := hrest
  refine ⟨Char.ofNat n :: cs, by simp, ?_⟩
  rw [Encoding.encode, Encoding.encode, List.flatMap_cons, h.encode]

/-- Where surrogates are not let through, what is read is the text of the
bytes: each round of the reader takes a sequence. -/
theorem exists_encode_of_decodeUtf8From {pos : Nat} {acc ms : List Char} {bytes : List UInt8}
    (h : decodeUtf8From false pos acc bytes = .ok ms) :
    ∃ cs, ms = acc.reverse ++ cs ∧ bytes = Encoding.utf8.encode cs := by
  have hle (x y : UInt8) : ¬ x < y → y.toNat ≤ x.toNat := by
    rw [UInt8.lt_iff_toNat_lt]
    omega
  fun_induction decodeUtf8From false pos acc bytes with
  | case1 => exact ⟨[], by simpa using (Except.ok.inj h).symm, rfl⟩
  | case2 pos acc a rest ha ih =>
    exact (Utf8Sequence.one (UInt8.lt_iff_toNat_lt.mp ha)).exists_encode (ih h)
  | case5 pos acc a _ ha ha' b rest hb ih =>
    exact (Utf8Sequence.two (hle _ _ ha) (UInt8.lt_iff_toNat_lt.mp ha') hb).exists_encode (ih h)
  | case10 pos acc a _ _ ha ha' b c rest hb hc ih =>
    exact (Utf8Sequence.three (hle _ _ ha) (UInt8.lt_iff_toNat_lt.mp ha') hb hc).exists_encode
      (ih h)
  | case12 pos acc a _ _ _ _ b c rest _ hsurrogate =>
    simp at hsurrogate
  | case20 pos acc a _ _ _ ha ha' b c d rest hb hc hd ih =>
    exact (Utf8Sequence.four (hle _ _ ha) (UInt8.lt_iff_toNat_lt.mp ha') hb hc hd).exists_encode
      (ih h)
  | _ => cases h

/-- **UTF-8 is read as it is written**: just the bytes of a text are read,
and as that text. -/
theorem decodeUtf8_eq_ok_iff {bytes : List UInt8} {cs : List Char} :
    decodeUtf8 bytes = .ok cs ↔ bytes = Encoding.utf8.encode cs := by
  constructor
  · intro h
    obtain ⟨ds, rfl, hds⟩ := exists_encode_of_decodeUtf8From h
    exact hds
  · rintro rfl
    exact decodeUtf8From_encode false 0 [] cs

/-! ## §4 16-bit units -/

/-- The 16-bit units of a character, one or a surrogate pair. -/
def codeUnits (c : Char) : List Nat :=
  if c.toNat < 0x10000 then [c.toNat]
  else [0xd800 + (c.toNat - 0x10000) / 1024, 0xdc00 + (c.toNat - 0x10000) % 1024]

theorem codeUnits_of_lt {c : Char} (h : c.toNat < 0x10000) : codeUnits c = [c.toNat] :=
  if_pos h

theorem codeUnits_lt (c : Char) : ∀ n ∈ codeUnits c, n < 65536 := by
  have hvalid : c.toNat.isValidChar := c.valid
  unfold Nat.isValidChar at hvalid
  unfold codeUnits
  split <;> simp <;> omega

/-! Units are joined alike in UTF-16 and by a reader of escapes. -/

/-- A unit that begins no surrogate pair stands for itself. -/
theorem joinPairs_cons {n : Nat} (h : isHighSurrogate n = false) (units : List Nat) :
    joinPairs (n :: units) = charOfCodePoint n :: joinPairs units := by
  cases units with
  | nil => rfl
  | cons low rest => rw [joinPairs, h, Bool.false_and, if_neg Bool.false_ne_true]

/-- The units of a character are joined to it, whatever follows. -/
theorem joinPairs_codeUnits_append (c : Char) (units : List Nat) :
    joinPairs (codeUnits c ++ units) = c :: joinPairs units := by
  have hvalid : c.toNat.isValidChar := c.valid
  unfold Nat.isValidChar at hvalid
  unfold codeUnits
  split
  · rw [List.singleton_append, joinPairs_cons, charOfCodePoint_toNat]
    simp only [isHighSurrogate, Bool.and_eq_false_iff, decide_eq_false_iff_not]
    omega
  · have hhigh : isHighSurrogate (0xd800 + (c.toNat - 0x10000) / 1024) = true := by
      simp only [isHighSurrogate, Bool.and_eq_true, decide_eq_true_eq]
      omega
    have hlow : isLowSurrogate (0xdc00 + (c.toNat - 0x10000) % 1024) = true := by
      simp only [isLowSurrogate, Bool.and_eq_true, decide_eq_true_eq]
      omega
    have hjoin : joinSurrogates (0xd800 + (c.toNat - 0x10000) / 1024)
        (0xdc00 + (c.toNat - 0x10000) % 1024) = c.toNat := by
      unfold joinSurrogates
      omega
    rw [List.cons_append, List.singleton_append, joinPairs, hhigh, hlow, Bool.and_true,
      if_pos rfl, hjoin, Char.ofNat_toNat]

theorem joinPairs_codeUnits (cs : List Char) : joinPairs (cs.flatMap codeUnits) = cs := by
  induction cs with
  | nil => rfl
  | cons c rest ih => rw [List.flatMap_cons, joinPairs_codeUnits_append, ih]

/-- The bytes of a unit stand for it. -/
theorem exists_bytes16 (bigEndian : Bool) {n : Nat} (h : n < 65536) :
    ∃ a b, bytes16 bigEndian n = [a, b] ∧ unit16 bigEndian a b = n := by
  cases bigEndian with
  | true =>
    refine ⟨(n / 256).toUInt8, (n % 256).toUInt8, rfl, ?_⟩
    rw [unit16, if_pos rfl, toNat_toUInt8 (by omega), toNat_toUInt8 (by omega)]
    omega
  | false =>
    refine ⟨(n % 256).toUInt8, (n / 256).toUInt8, rfl, ?_⟩
    rw [unit16, if_neg (by decide), toNat_toUInt8 (by omega), toNat_toUInt8 (by omega)]
    omega

theorem encodeUtf16Char_eq (bigEndian : Bool) (c : Char) :
    encodeUtf16Char bigEndian c = (codeUnits c).flatMap (bytes16 bigEndian) := by
  rw [encodeUtf16Char, codeUnits]
  split <;> simp

/-- **UTF-16 is read by joining its units.** -/
theorem decodeUtf16From_flatMap_bytes16 (bigEndian : Bool) (pos : Nat) (acc : List Char)
    {units : List Nat} (h : ∀ n ∈ units, n < 65536) :
    decodeUtf16From bigEndian pos acc (units.flatMap (bytes16 bigEndian)) =
      .ok (acc.reverse ++ joinPairs units) := by
  fun_induction joinPairs units generalizing pos acc with
  | case1 high low rest hpair ih =>
    obtain ⟨hhigh, hlow, hrest⟩ : high < 65536 ∧ low < 65536 ∧ ∀ n ∈ rest, n < 65536 := by
      simpa using h
    obtain ⟨a, b, hab, hunit⟩ := exists_bytes16 bigEndian hhigh
    obtain ⟨c, d, hcd, hunit'⟩ := exists_bytes16 bigEndian hlow
    rw [List.flatMap_cons, List.flatMap_cons, hab, hcd]
    simp only [List.cons_append, List.nil_append, decodeUtf16From, hunit, hunit', if_pos hpair]
    rw [ih _ _ hrest, List.reverse_cons, List.append_assoc, List.singleton_append]
  | case2 high low rest hpair ih =>
    obtain ⟨hhigh, hlow⟩ := List.forall_mem_cons.mp h
    obtain ⟨a, b, hab, hunit⟩ := exists_bytes16 bigEndian hhigh
    obtain ⟨c, d, hcd, hunit'⟩ := exists_bytes16 bigEndian (List.forall_mem_cons.mp hlow).1
    have ih := ih (pos + 2) (charOfCodePoint high :: acc) hlow
    rw [List.flatMap_cons, hcd] at ih
    rw [List.flatMap_cons, List.flatMap_cons, hab, hcd]
    simp only [List.cons_append, List.nil_append, decodeUtf16From, hunit, hunit', if_neg hpair]
      at ih ⊢
    rw [ih, List.reverse_cons, List.append_assoc, List.singleton_append]
  | case3 n =>
    obtain ⟨a, b, hab, hunit⟩ := exists_bytes16 bigEndian (h n (List.mem_singleton.mpr rfl))
    rw [List.flatMap_singleton, hab, decodeUtf16From.eq_def]
    simp only [hunit, decodeUtf16From, List.reverse_cons]
  | case4 => simp [decodeUtf16From]

/-! ## §5 All encodings -/

/-- A character is read from its four bytes. -/
theorem decodeUtf32From_encodeUtf32Char (bigEndian : Bool) (pos : Nat) (acc : List Char)
    (c : Char) (rest : List UInt8) :
    decodeUtf32From bigEndian pos acc (encodeUtf32Char bigEndian c ++ rest) =
      decodeUtf32From bigEndian (pos + 4) (c :: acc) rest := by
  have hvalid : c.toNat.isValidChar := c.valid
  unfold Nat.isValidChar at hvalid
  obtain ⟨a, b, hab, hhigh⟩ := exists_bytes16 bigEndian (show c.toNat / 65536 < 65536 by omega)
  obtain ⟨a', b', hab', hlow⟩ := exists_bytes16 bigEndian (show c.toNat % 65536 < 65536 by omega)
  cases bigEndian with
  | true =>
    have hunit : unit32 true a b a' b' = c.toNat := by
      rw [unit32, if_pos rfl, hhigh, hlow]
      omega
    rw [encodeUtf32Char, if_pos rfl, hab, hab']
    simp only [List.cons_append, List.nil_append, decodeUtf32From, hunit]
    rw [if_pos (by omega), charOfCodePoint_toNat]
  | false =>
    have hunit : unit32 false a' b' a b = c.toNat := by
      rw [unit32, if_neg (by decide), hhigh, hlow]
      omega
    rw [encodeUtf32Char, if_neg (by decide), hab, hab']
    simp only [List.cons_append, List.nil_append, decodeUtf32From, hunit]
    rw [if_pos (by omega), charOfCodePoint_toNat]

theorem decodeUtf32From_encode (bigEndian : Bool) (pos : Nat) (acc cs : List Char) :
    decodeUtf32From bigEndian pos acc ((Encoding.utf32 bigEndian).encode cs) =
      .ok (acc.reverse ++ cs) := by
  induction cs generalizing pos acc with
  | nil => simp [Encoding.encode, decodeUtf32From]
  | cons c rest ih =>
    have hcons : (Encoding.utf32 bigEndian).encode (c :: rest) =
        encodeUtf32Char bigEndian c ++ (Encoding.utf32 bigEndian).encode rest := rfl
    rw [hcons, decodeUtf32From_encodeUtf32Char, ih, List.reverse_cons, List.append_assoc,
      List.singleton_append]

/-- **A text is read from its bytes**, in every encoding. -/
theorem Encoding.decodeFrom_encode (e : Encoding) (pos : Nat) (cs : List Char) :
    e.decodeFrom pos (e.encode cs) = .ok cs := by
  cases e with
  | utf8 => exact decodeUtf8From_encode true pos [] cs
  | utf16 bigEndian =>
    have hunits : (Encoding.utf16 bigEndian).encode cs =
        (cs.flatMap codeUnits).flatMap (bytes16 bigEndian) := by
      rw [List.flatMap_assoc]
      exact congrArg (cs.flatMap ·) (funext (encodeUtf16Char_eq bigEndian))
    have hlt : ∀ n ∈ cs.flatMap codeUnits, n < 65536 := by
      intro n hn
      obtain ⟨c, -, hc⟩ := List.mem_flatMap.mp hn
      exact codeUnits_lt c n hc
    rw [hunits, Encoding.decodeFrom, decodeUtf16From_flatMap_bytes16 bigEndian pos [] hlt,
      joinPairs_codeUnits]
    rfl
  | utf32 bigEndian => exact decodeUtf32From_encode bigEndian pos [] cs

end ManifestDeps.Text
