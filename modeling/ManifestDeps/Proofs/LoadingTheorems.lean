/-
ManifestDeps.Proofs.LoadingTheorems — what loading makes of the bytes of a
descriptor.

`Judged` says what bytes turn out to be, in terms of the decoder, the JSON
reader and the check of the members: a manifest, refused for a reason, or
given up at a limit of the reader. It judges all bytes, in one way
(`judged_iff`), and loading follows the judgement (`Pool.load_of_judged`).
`load_settles_descriptor` puts this together: a descriptor that is read is
a manifest, or is reported as none, unless its text shows a limit of the
reader.

The exception cannot be left out: an integer with too many digits makes
loading fail, and the base component is neither loaded nor reported
(`not_settles_baseComponent_nor_long_integer`). How deep the reader goes
matters only for descriptors that are too deep for it (`Pool.load_eq_of_le`).
-/
import ManifestDeps.Proofs.AnalysisTheorems
import ManifestDeps.Proofs.LimitTheorems

namespace ManifestDeps

/-! ## §1 Judging bytes -/

/-- What the bytes of a descriptor turn out to be. -/
inductive Judgement where
  | manifest (m : Manifest)
  /-- No manifest, for this reason. -/
  | refused (fault : ManifestFault)
  /-- Beyond a limit of the JSON reader. -/
  | givenUp (e : Json.LimitError)

/-- When bytes are judged in which way, by a reader that goes so deep. -/
inductive Judged (depth : Nat) (bytes : List UInt8) : Judgement → Prop where
  | manifest {cs : List Char} {ms : List (String × Json.Value)} {m : Manifest} :
      Text.decodeDetected bytes = .ok cs → Json.readChars cs depth = .ok (.obj ms) →
      Manifest.checkMembers ms = .ok m → Judged depth bytes (.manifest m)
  | notText {e : Text.DecodeError} : Text.decodeDetected bytes = .error e →
      Judged depth bytes (.refused (.encoding e))
  | notJson {cs : List Char} {e : Json.SyntaxError} : Text.decodeDetected bytes = .ok cs →
      Json.readChars cs depth = .error (.malformed e) →
      Judged depth bytes (.refused (.malformed e))
  | notObject {cs : List Char} {v : Json.Value} : Text.decodeDetected bytes = .ok cs →
      Json.readChars cs depth = .ok v → (∀ ms, v ≠ .obj ms) →
      Judged depth bytes (.refused .notObject)
  | misshapen {cs : List Char} {ms : List (String × Json.Value)} {fs : List Located} :
      Text.decodeDetected bytes = .ok cs → Json.readChars cs depth = .ok (.obj ms) →
      Manifest.checkMembers ms = .faults fs →
      Judged depth bytes (.refused (.shape ⟨"AppDescriptor", fs⟩))
  | givenUp {cs : List Char} {e : Json.LimitError} : Text.decodeDetected bytes = .ok cs →
      Json.readChars cs depth = .error (.limit e) → Judged depth bytes (.givenUp e)

/-- The judgement as the outcome of parsing a file of a name. -/
def Judgement.parsed (name : String) : Judgement → Except ManifestFailure Manifest
  | manifest m => .ok m
  | refused fault => .error (.invalid ⟨name, fault⟩)
  | givenUp e => .error (.limit e)

theorem Judgement.parsed_injective {name : String} {j k : Judgement}
    (h : j.parsed name = k.parsed name) : j = k := by
  cases j <;> cases k <;> cases h <;> rfl

theorem parse_of_judged {depth : Nat} {bytes : List UInt8} {j : Judgement}
    (h : Judged depth bytes j) (name : String) :
    Manifest.parse name (.bytes bytes) depth = j.parsed name := by
  cases h with
  | manifest hd hr hc =>
    simp [Manifest.parse, Content.readJson, Content.readJson.toFault, Manifest.ofJson,
      Judgement.parsed, hd, hr, hc]
  | notText hd => simp [Manifest.parse, Content.readJson, Judgement.parsed, hd]
  | notJson hd hr =>
    simp [Manifest.parse, Content.readJson, Content.readJson.toFault, Judgement.parsed, hd, hr]
  | notObject hd hr hobj =>
    rename_i v
    cases v with
    | obj ms => exact absurd rfl (hobj ms)
    | _ =>
      simp [Manifest.parse, Content.readJson, Content.readJson.toFault, Manifest.ofJson,
        Judgement.parsed, hd, hr]
  | misshapen hd hr hc =>
    simp [Manifest.parse, Content.readJson, Content.readJson.toFault, Manifest.ofJson,
      Judgement.parsed, hd, hr, hc]
  | givenUp hd hr =>
    simp [Manifest.parse, Content.readJson, Content.readJson.toFault, Judgement.parsed, hd, hr]

/-- All bytes are judged. -/
theorem exists_judged (depth : Nat) (bytes : List UInt8) : ∃ j, Judged depth bytes j := by
  cases hd : Text.decodeDetected bytes with
  | error e => exact ⟨_, .notText hd⟩
  | ok cs =>
    cases hr : Json.readChars cs depth with
    | error e =>
      cases e with
      | malformed e => exact ⟨_, .notJson hd hr⟩
      | limit e => exact ⟨_, .givenUp hd hr⟩
    | ok v =>
      cases v with
      | obj ms =>
        cases hc : Manifest.checkMembers ms with
        | ok m => exact ⟨_, .manifest hd hr hc⟩
        | faults fs => exact ⟨_, .misshapen hd hr hc⟩
      | _ => exact ⟨_, .notObject hd hr (by simp)⟩

/-- Bytes are judged as they are parsed, and so in one way only. -/
theorem judged_iff {depth : Nat} {bytes : List UInt8} {j : Judgement} (name : String) :
    Judged depth bytes j ↔ Manifest.parse name (.bytes bytes) depth = j.parsed name := by
  refine ⟨fun h => parse_of_judged h name, fun h => ?_⟩
  obtain ⟨k, hk⟩ := exists_judged depth bytes
  rw [parse_of_judged hk name] at h
  rwa [← Judgement.parsed_injective h]

/-! ## §2 Loading -/

namespace Pool

variable {pool : Pool} {c : String} {bytes : List UInt8} {depth : Nat}

theorem load_baseComponent (pool : Pool) (depth : Nat) :
    pool.load ModuleName.baseComponent depth = .ok .exempt := by
  simp [load, ModuleName.isBaseComponent]

/-- **Loading follows the judgement** of the bytes. -/
theorem load_of_judged (hc : c ≠ ModuleName.baseComponent) (hreads : pool.Reads c bytes)
    {j : Judgement} (hj : Judged depth bytes j) :
    pool.load c depth =
      match j with
      | .manifest m => .ok (.found m)
      | .refused fault =>
        .ok (.skipped (parseErrorReport c (ModuleName.descriptorOf c) fault))
      | .givenUp e => .error (.limit e) := by
  obtain ⟨resource, hfind, hread⟩ := hreads
  have hbase : ModuleName.isBaseComponent c = false := by simp [ModuleName.isBaseComponent, hc]
  have hparse := parse_of_judged hj (ModuleName.descriptorOf c)
  cases j <;> simp [load, hbase, hfind, hread, hparse, Judgement.parsed]

end Pool

/-- **A descriptor is loaded or reported.** Where the descriptor of a
component is found and read, whatever its bytes and however deep the JSON
reader goes, either it is a manifest, and nothing is reported, or it is
refused, with one report that it is no manifest: an error that names the
component and gives the reason. This is left open only for a text at which the
JSON reader stops at a limit; such a text has more digits in a row than an
integer may have, or more opening brackets than values may nest. The base
component is exempt. -/
theorem load_settles_descriptor {pool : Pool} {c : String} {bytes : List UInt8}
    (hreads : pool.Reads c bytes) (depth : Nat) :
    (c = ModuleName.baseComponent → pool.load c depth = .ok .exempt) ∧
    (c ≠ ModuleName.baseComponent →
      (∃ m, Judged depth bytes (.manifest m) ∧ pool.load c depth = .ok (.found m)) ∨
      (∃ fault report, Judged depth bytes (.refused fault) ∧
        pool.load c depth = .ok (.skipped report) ∧ report.severity = .error ∧
        report.code = .manifestParseError ∧ report.component? = some c ∧
        report.context.lookup "error" = some (.fault fault)) ∨
      (∃ cs e, Text.decodeDetected bytes = .ok cs ∧ Json.readChars cs depth = .error (.limit e) ∧
        e.ShownIn depth cs)) := by
  refine ⟨fun hc => hc ▸ pool.load_baseComponent depth, fun hc => ?_⟩
  obtain ⟨j, hj⟩ := exists_judged depth bytes
  have hload := Pool.load_of_judged hc hreads hj
  cases j with
  | manifest m => exact .inl ⟨m, hj, hload⟩
  | refused fault => exact .inr (.inl ⟨fault, _, hj, hload, rfl, rfl, rfl, rfl⟩)
  | givenUp e =>
    cases hj with
    | givenUp hd hr => exact .inr (.inr ⟨_, e, hd, hr, Json.shownIn_of_readChars hr⟩)

/-- An array is no manifest, and is reported as that. -/
theorem load_settles_descriptor_array :
    let pool : Pool := .ofTable [("my/manifest.json", .text "[]")]
    ∃ report, pool.load "my/Component.js" = .ok (.skipped report) ∧
      report.code = .manifestParseError ∧ report.component? = some "my/Component.js" := by
  intro pool
  have hreads : pool.Reads "my/Component.js" (Content.text "[]").toBytes := ⟨_, rfl, rfl⟩
  have htext : Text.decodeDetected (Content.text "[]").toBytes = .ok ['[', ']'] := by
    decide +kernel
  have hjson : Json.readChars ['[', ']'] = .ok (.arr []) := by decide +kernel
  have hjudged : Judged Json.maxDepth (Content.text "[]").toBytes (.refused .notObject) :=
    .notObject htext hjson (by simp)
  rcases (load_settles_descriptor hreads Json.maxDepth).2 (by decide) with
    ⟨m, hm, -⟩ | ⟨fault, report, -, hload, -, hcode, hcomponent, -⟩ | ⟨cs, e, hcs, he, -⟩
  · cases (parse_of_judged hm "").symm.trans (parse_of_judged hjudged "")
  · exact ⟨report, hload, hcode, hcomponent⟩
  · cases htext.symm.trans hcs
    cases hjson.symm.trans he

/-! ## §3 Readers that go deeper -/

section

variable {depth depth' : Nat}

/-- What is not too deep for one reader is the same for deeper ones. -/
theorem Manifest.parse_eq_of_le {name : String} {bytes : List UInt8} (hle : depth ≤ depth')
    (h : ∀ inObject, parse name (.bytes bytes) depth ≠ .error (.limit (.depth inObject))) :
    parse name (.bytes bytes) depth' = parse name (.bytes bytes) depth := by
  cases hdecode : Text.decodeDetected bytes with
  | error e => simp only [parse, Content.readJson, hdecode]
  | ok cs =>
    have hread : ∀ inObject, Json.readChars cs depth ≠ .error (.limit (.depth inObject)) := by
      intro inObject hread
      refine h inObject ?_
      simp only [parse, Content.readJson, hdecode, hread, Content.readJson.toFault]
    simp only [parse, Content.readJson, hdecode, Json.readChars_eq_of_le hle hread]

/-- So is the descriptor of a component. -/
theorem Pool.load_eq_of_le {pool : Pool} {c : String} (hle : depth ≤ depth')
    (h : ∀ inObject, pool.load c depth ≠ .error (.limit (.depth inObject))) :
    pool.load c depth' = pool.load c depth := by
  unfold load at h ⊢
  split
  · rfl
  · rename_i hbase
    rw [if_neg hbase] at h
    dsimp only at h ⊢
    split
    · rfl
    · rfl
    · rename_i resource hfind
      simp only [hfind] at h
      split
      · rfl
      · rename_i bytes hbytes
        simp only [hbytes] at h
        rw [Manifest.parse_eq_of_le hle fun inObject hparse => h inObject (by rw [hparse])]

end

/-! ## §4 The two exceptions -/

/-- The descriptor of a component is loaded, or reported as no manifest. -/
def Pool.Settles (pool : Pool) (c : String) : Prop :=
  (∃ m, pool.load c = .ok (.found m)) ∨
    ∃ report, pool.load c = .ok (.skipped report) ∧ report.severity = .error ∧
      report.code = .manifestParseError ∧ report.component? = some c

theorem Pool.not_settles {pool : Pool} {c : String}
    (hfound : ∀ m, pool.load c ≠ .ok (.found m))
    (hskipped : ∀ report, pool.load c ≠ .ok (.skipped report)) : ¬ pool.Settles c := by
  rintro (⟨m, hm⟩ | ⟨report, hr, -⟩)
  · exact hfound m hm
  · exact hskipped report hr

/-- ASCII bytes are decoded one by one. -/
theorem Text.decodeUtf8From_of_ascii {bytes : List UInt8} (h : ∀ b ∈ bytes, b < 0x80)
    (surrogates : Bool) (pos : Nat) (acc : List Char) :
    decodeUtf8From surrogates pos acc bytes =
      .ok (acc.reverse ++ bytes.map fun b => Char.ofNat b.toNat) := by
  induction bytes generalizing pos acc with
  | nil => simp [decodeUtf8From]
  | cons b rest ih =>
    have hb : b < 0x80 := h b List.mem_cons_self
    unfold decodeUtf8From
    simp [hb, ih fun x hx => h x (List.mem_cons_of_mem _ hx)]

/-- As many ones as are asked for, of which there must be four to tell the
encoding. -/
theorem Text.decodeDetected_replicate_one (n : Nat) :
    decodeDetected (List.replicate (n + 4) 0x31) = .ok (List.replicate (n + 4) '1') := by
  have hdetect : Encoding.detect (List.replicate (n + 4) 0x31) = (.utf8, 0) := rfl
  have hascii : ∀ b ∈ List.replicate (n + 4) (0x31 : UInt8), b < 0x80 := by
    intro b hb
    rw [List.eq_of_mem_replicate hb]
    decide
  rw [decodeDetected, hdetect]
  simp only [Encoding.decodeFrom, List.drop_zero, decodeUtf8From_of_ascii hascii]
  simp

/-- **Not every descriptor that is read is loaded or reported.** The base
component is exempt, whatever its descriptor holds. Of a descriptor that is
an integer with one digit too many, loading fails. -/
theorem not_settles_baseComponent_nor_long_integer :
    let base : Pool := .ofTable [("sap/ui/core/manifest.json", .text "\x7b\x7d")]
    let ones : List UInt8 := List.replicate 4301 0x31
    let long : Pool := .ofTable [("my/manifest.json", .bytes ones)]
    (base.Reads ModuleName.baseComponent (Content.text "\x7b\x7d").toBytes ∧
      ¬ base.Settles ModuleName.baseComponent) ∧
    (long.Reads "my/Component.js" ones ∧ ¬ long.Settles "my/Component.js") := by
  intro base ones long
  have hbase : base.Reads ModuleName.baseComponent (Content.text "\x7b\x7d").toBytes :=
    ⟨_, rfl, rfl⟩
  have hlong : long.Reads "my/Component.js" ones := ⟨_, rfl, rfl⟩
  have hexempt : base.load ModuleName.baseComponent = .ok .exempt :=
    base.load_baseComponent Json.maxDepth
  have hjudged : Judged Json.maxDepth ones (.givenUp (.digits 4301)) :=
    .givenUp (Text.decodeDetected_replicate_one 4297) (Json.readChars_replicate_one (by decide))
  have hfailed : long.load "my/Component.js" = .error (.limit (.digits 4301)) :=
    Pool.load_of_judged (by decide) hlong hjudged
  refine ⟨⟨hbase, Pool.not_settles ?_ ?_⟩, hlong, Pool.not_settles ?_ ?_⟩
  · simp [hexempt]
  · simp [hexempt]
  · simp [hfailed]
  · simp [hfailed]

end ManifestDeps
