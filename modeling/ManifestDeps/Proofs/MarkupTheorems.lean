/-
ManifestDeps.Proofs.MarkupTheorems — the texts whose markup can be read.

A text with tags has a plain text when its tags fit together. `Balanced`
says what that means, with a case for each way in which a tag can fit:
every name is the name of a style, and a tag that closes has something to
close. `balanced_iff` ties it to the reader, which gives up at the first
tag that does not fit. Parameters of tags and surrogates that stand alone are
looked at behind that (`wellFormed_iff`).

Only an opening bracket can start a tag, so that a text without one is
always read (`IsPlain.wellFormed`), whatever else it holds: backslashes,
closing brackets, names of emoji, controls. Such a text may also stand
behind a word in a style (`IsStyleTag.wellFormed`). A closing tag alone is
never read. These are the properties of a reader that the printing of reports
relies on (`Reader.IsCommon`), whatever it makes of other tags.
-/
import Mathlib.Data.List.TakeWhile
import ManifestDeps.Markup.Basic

namespace ManifestDeps.Markup

/-! ## §1 Tags that fit together -/

/-- The tags of a text fit together, with these styles open in front of it,
the last one first, and all its text can be shown. -/
inductive Balanced : List String → List Part → Prop where
  | nil {opened : List String} : Balanced opened []
  | text {opened : List String} {cs : List Char} {rest : List Part} :
      cs.any Text.isLoneSurrogate = false → Balanced opened rest →
      Balanced opened (.text cs :: rest)
  /-- A tag opens a style. -/
  | opens {opened : List String} {position : Nat} {t : Tag} {style : String}
      {rest : List Part} :
      t.closes? = none → styleName t.name = .ok style → t.checkStyle = .ok () →
      Balanced (style :: opened) rest → Balanced opened (.tag position t :: rest)
  /-- A tag without a name closes the last style. -/
  | closesLast {opened : List String} {position : Nat} {t : Tag} {style : String}
      {rest : List Part} :
      t.closes? = some [] → Balanced opened rest →
      Balanced (style :: opened) (.tag position t :: rest)
  /-- A tag closes the style of its name, the last one of them. -/
  | closes {opened : List String} {position : Nat} {t : Tag} {name : List Char}
      {style : String} {rest : List Part} :
      t.closes? = some name → name ≠ [] → styleName name = .ok style → style ∈ opened →
      Balanced (opened.erase style) rest → Balanced opened (.tag position t :: rest)

theorem plainFrom_text (opened : List String) (cs : List Char) (rest : List Part) :
    plainFrom opened (.text cs :: rest) =
      (plainFrom opened rest).map ((expandEmoji cs).filter (!isTerminalControl ·) ++ ·) := rfl

theorem plainFrom_tag (opened : List String) (position : Nat) (t : Tag) (rest : List Part) :
    plainFrom opened (.tag position t :: rest) =
      (stylesBehind opened position t).bind fun opened => plainFrom opened rest := rfl

/-- The styles behind a tag that opens one. -/
theorem stylesBehind_opens {opened : List String} {position : Nat} {t : Tag}
    (hopens : t.closes? = none) :
    stylesBehind opened position t = (styleName t.name).map (· :: opened) := by
  simp only [stylesBehind, hopens]

/-- The styles behind a tag that closes the last one. -/
theorem stylesBehind_closesLast {opened : List String} {position : Nat} {t : Tag}
    (hlast : t.closes? = some []) :
    stylesBehind opened position t =
      match opened with
      | [] => .error (.nothingOpen position)
      | _ :: rest => .ok rest := by
  cases opened <;> simp only [stylesBehind, hlast]

/-- The styles behind a tag that closes one by its name. -/
theorem stylesBehind_closes {opened : List String} {position : Nat} {t : Tag}
    {name : List Char} (hname : t.closes? = some name) (hne : name ≠ []) :
    stylesBehind opened position t =
      (styleName name).bind fun style =>
        if opened.contains style then .ok (opened.erase style)
        else .error (.notOpen t.text position) := by
  cases name with
  | nil => exact absurd rfl hne
  | cons c cs => simp only [stylesBehind, hname]

/-- Only a tag that opens a style has one to be read. -/
theorem Tag.checkStyle_of_closes {t : Tag} {name : List Char} (h : t.closes? = some name) :
    t.checkStyle = .ok () := by
  simp only [checkStyle, h]

theorem checkStyles_tag {position : Nat} {t : Tag} (h : t.checkStyle = .ok ())
    (rest : List Part) : checkStyles (.tag position t :: rest) = checkStyles rest := by
  rw [checkStyles, h]
  rfl

/-- Some parts can be shown while styles are open: their tags are read, with
their parameters, and no surrogate stands alone. -/
structure IsShown (opened : List String) (ps : List Part) : Prop where
  plain : ∃ cs, plainFrom opened ps = .ok cs
  styles : checkStyles ps = .ok ()
  encodable : ps.any Part.hasLoneSurrogate = false

theorem Balanced.isShown {opened : List String} {ps : List Part} (h : Balanced opened ps) :
    IsShown opened ps := by
  induction h with
  | nil => exact ⟨⟨[], rfl⟩, rfl, rfl⟩
  | text hcs _ ih =>
    obtain ⟨⟨cs, hplain⟩, hstyles, hencodable⟩ := ih
    refine ⟨⟨_, by rw [plainFrom_text, hplain]; rfl⟩, hstyles, ?_⟩
    rw [List.any_cons, hencodable, Part.hasLoneSurrogate, hcs, Bool.or_false]
  | opens hopens hstyle hcheck _ ih =>
    obtain ⟨⟨cs, hplain⟩, hstyles, hencodable⟩ := ih
    refine ⟨⟨cs, ?_⟩, (checkStyles_tag hcheck _).trans hstyles, hencodable⟩
    rw [plainFrom_tag, stylesBehind_opens hopens, hstyle]
    exact hplain
  | closesLast hlast _ ih =>
    obtain ⟨⟨cs, hplain⟩, hstyles, hencodable⟩ := ih
    refine ⟨⟨cs, ?_⟩, (checkStyles_tag (Tag.checkStyle_of_closes hlast) _).trans hstyles,
      hencodable⟩
    rw [plainFrom_tag, stylesBehind_closesLast hlast]
    exact hplain
  | closes hname hne hstyle hmem _ ih =>
    obtain ⟨⟨cs, hplain⟩, hstyles, hencodable⟩ := ih
    refine ⟨⟨cs, ?_⟩, (checkStyles_tag (Tag.checkStyle_of_closes hname) _).trans hstyles,
      hencodable⟩
    rw [plainFrom_tag, stylesBehind_closes hname hne, hstyle]
    simpa [Except.bind, hmem] using hplain

/-- What is left to show behind a tag. -/
theorem IsShown.behind_tag {opened : List String} {position : Nat} {t : Tag} {rest : List Part}
    (h : IsShown opened (.tag position t :: rest)) :
    t.checkStyle = .ok () ∧
      ∃ inner, stylesBehind opened position t = .ok inner ∧ IsShown inner rest := by
  obtain ⟨⟨cs, hplain⟩, hstyles, hencodable⟩ := h
  rw [plainFrom_tag] at hplain
  rw [checkStyles] at hstyles
  cases hcheck : t.checkStyle with
  | error e => rw [hcheck] at hstyles; cases hstyles
  | ok _ =>
    cases hbehind : stylesBehind opened position t with
    | error e => rw [hbehind] at hplain; cases hplain
    | ok inner =>
      rw [hcheck] at hstyles
      rw [hbehind] at hplain
      exact ⟨rfl, inner, rfl, ⟨cs, hplain⟩, hstyles, hencodable⟩

theorem IsShown.balanced {opened : List String} {ps : List Part} (h : IsShown opened ps) :
    Balanced opened ps := by
  induction ps generalizing opened with
  | nil => exact .nil
  | cons p rest ih =>
    cases p with
    | text t =>
      obtain ⟨⟨cs, hplain⟩, hstyles, hencodable⟩ := h
      rw [List.any_cons, Bool.or_eq_false_iff] at hencodable
      rw [plainFrom_text] at hplain
      cases hrest : plainFrom opened rest with
      | error e => rw [hrest] at hplain; cases hplain
      | ok below => exact .text hencodable.1 (ih ⟨⟨below, hrest⟩, hstyles, hencodable.2⟩)
    | tag position t =>
      obtain ⟨hcheck, inner, hbehind, hrest⟩ := h.behind_tag
      cases hcloses : t.closes? with
      | none =>
        rw [stylesBehind_opens hcloses] at hbehind
        cases hstyle : styleName t.name with
        | error e => rw [hstyle] at hbehind; cases hbehind
        | ok style =>
          rw [hstyle] at hbehind
          cases hbehind
          exact .opens hcloses hstyle hcheck (ih hrest)
      | some name =>
        by_cases hne : name = []
        · rw [hne] at hcloses
          rw [stylesBehind_closesLast hcloses] at hbehind
          cases opened with
          | nil => cases hbehind
          | cons style opened =>
            cases hbehind
            exact .closesLast hcloses (ih hrest)
        · rw [stylesBehind_closes hcloses hne] at hbehind
          cases hstyle : styleName name with
          | error e => rw [hstyle] at hbehind; cases hbehind
          | ok style =>
            rw [hstyle] at hbehind
            by_cases hmem : style ∈ opened
            · have hinner : opened.erase style = inner := by simpa [Except.bind, hmem] using hbehind
              exact .closes hcloses hne hstyle hmem (ih (hinner ▸ hrest))
            · simp [Except.bind, hmem] at hbehind

/-- **Reading markup**: parts are shown exactly when their tags fit
together. -/
theorem balanced_iff {opened : List String} {ps : List Part} :
    Balanced opened ps ↔ IsShown opened ps :=
  ⟨fun h => h.isShown, fun h => h.balanced⟩

/-- A text whose tags fit together. -/
def WellFormed (text : List Char) : Prop :=
  Balanced [] (parts text)

theorem wellFormed_iff {text : List Char} : WellFormed text ↔ ∃ cs, plain text = .ok cs := by
  rw [WellFormed, balanced_iff]
  constructor
  · rintro ⟨⟨cs, hplain⟩, hstyles, hencodable⟩
    exact ⟨cs, by simp only [plain, hplain, hstyles, hencodable, bind, Except.bind,
      Bool.false_eq_true, if_false]⟩
  · rintro ⟨cs, h⟩
    unfold plain at h
    cases hplain : plainFrom [] (parts text) with
    | error e => simp [hplain, bind, Except.bind] at h
    | ok t =>
      cases hstyles : checkStyles (parts text) with
      | error e => simp [hplain, hstyles, bind, Except.bind] at h
      | ok _ =>
        cases hany : (parts text).any Part.hasLoneSurrogate with
        | false => exact ⟨⟨t, hplain⟩, hstyles, hany⟩
        | true => simp only [hplain, hstyles, hany, bind, Except.bind, if_true] at h; cases h

/-! ## §2 Texts without an opening bracket -/

/-- Text that is plain: it has no opening bracket, and no surrogate stands
alone in it. -/
structure IsPlain (cs : List Char) : Prop where
  noOpening : '[' ∉ cs
  encodable : cs.any Text.isLoneSurrogate = false

theorem mem_of_mem_unescape {c : Char} {cs : List Char} (h : c ∈ unescape cs) : c ∈ cs := by
  fun_induction unescape cs with
  | case1 rest ih =>
    rw [List.mem_cons] at h ⊢
    exact .inr (List.mem_cons.mpr (h.imp_right ih))
  | case2 d rest _ ih =>
    rw [List.mem_cons] at h ⊢
    exact h.imp_right ih
  | case3 => exact h

theorem IsPlain.unescape {cs : List Char} (h : IsPlain cs) : IsPlain (unescape cs) where
  noOpening hm := h.noOpening (mem_of_mem_unescape hm)
  encodable := List.any_eq_false.mpr fun c hc =>
    List.any_eq_false.mp h.encodable c (mem_of_mem_unescape hc)

theorem balanced_textPart_append {opened : List String} {cs : List Char} {ps : List Part}
    (hcs : IsPlain cs) (h : Balanced opened ps) : Balanced opened (textPart cs ++ ps) := by
  rw [textPart]
  split
  · exact h
  · exact .text hcs.encodable h

/-- Without an opening bracket there is no tag. -/
theorem partsFrom_of_notMem {cs : List Char} (h : '[' ∉ cs) (position slashes : Nat)
    (acc : List Char) :
    partsFrom position 0 slashes acc cs =
      textPart (unescape ((List.replicate slashes '\\' ++ acc).reverse ++ cs)) := by
  -- backslashes are counted until it is known that no bracket follows, so both accumulators vary
  induction cs generalizing position slashes acc with
  | nil => rw [partsFrom, List.append_nil]
  | cons c rest ih =>
    obtain ⟨hc, hrest⟩ := List.ne_and_not_mem_of_not_mem_cons h
    have hc' : ¬ c = '[' := fun he => hc he.symm
    by_cases hslash : c = '\\'
    · rw [partsFrom, if_pos hslash, ih hrest, hslash, List.replicate_succ, List.cons_append,
        List.reverse_cons, List.append_assoc, List.singleton_append]
    · rw [partsFrom, if_neg hslash, if_neg hc']
      simp only
      rw [ih hrest]
      simp

/-- **No bracket, no fault.** -/
theorem IsPlain.wellFormed {cs : List Char} (h : IsPlain cs) : WellFormed cs := by
  rw [WellFormed, parts, partsFrom_of_notMem h.noOpening, ← List.append_nil (textPart _)]
  exact balanced_textPart_append h.unescape .nil

/-- Text without brackets and backslashes is taken as it is. -/
theorem partsFrom_append {cs : List Char} (h : '[' ∉ cs) (hslash : '\\' ∉ cs)
    (position : Nat) (acc rest : List Char) :
    partsFrom position 0 0 acc (cs ++ rest) =
      partsFrom (position + cs.length) 0 0 (cs.reverse ++ acc) rest := by
  induction cs generalizing position acc with
  | nil => rfl
  | cons c cs ih =>
    obtain ⟨hc, hcs⟩ := List.ne_and_not_mem_of_not_mem_cons h
    obtain ⟨hs, hcs'⟩ := List.ne_and_not_mem_of_not_mem_cons hslash
    have hc' : ¬ c = '[' := fun he => hc he.symm
    have hs' : ¬ c = '\\' := fun he => hs he.symm
    rw [List.cons_append, partsFrom, if_neg hs', if_neg hc']
    simp only [List.replicate_zero, List.nil_append]
    rw [ih hcs hcs', List.length_cons, List.reverse_cons, List.append_assoc,
      List.singleton_append, Nat.add_assoc, Nat.add_comm 1]

/-! ## §3 Texts with a style -/

theorem untilBracket?_append {name : List Char} (hopen : '[' ∉ name) (hclose : ']' ∉ name)
    (rest : List Char) : untilBracket? (name ++ ']' :: rest) = some name := by
  induction name with
  | nil => rfl
  | cons c name ih =>
    obtain ⟨ho, hopen⟩ := List.ne_and_not_mem_of_not_mem_cons hopen
    obtain ⟨hc, hclose⟩ := List.ne_and_not_mem_of_not_mem_cons hclose
    rw [List.cons_append, untilBracket?, if_neg (Ne.symm hc), if_neg (Ne.symm ho),
      ih hopen hclose]
    rfl

/-- The text of a tag that was read is passed over. -/
theorem partsFrom_skip (position : Nat) (skipped rest : List Char) :
    partsFrom position skipped.length 0 [] (skipped ++ rest) =
      partsFrom (position + skipped.length) 0 0 [] rest := by
  induction skipped generalizing position with
  | nil => rfl
  | cons c skipped ih =>
    rw [List.cons_append, List.length_cons, partsFrom, ih, Nat.add_assoc, Nat.add_comm 1]

/-- A tag ends the text in front of it. -/
theorem partsFrom_tag {c : Char} {name : List Char} (hstart : startsTag c = true)
    (hopen : '[' ∉ name) (hclose : ']' ∉ name) (position : Nat) (acc rest : List Char) :
    partsFrom position 0 0 acc ('[' :: (c :: name) ++ ']' :: rest) =
      textPart (unescape acc.reverse) ++ .tag position (.ofText (c :: name)) ::
        partsFrom (position + 1 + (c :: name).length + 1) 0 0 [] rest := by
  have htext : tagText? ((c :: name) ++ ']' :: rest) = some (c :: name) := by
    rw [List.cons_append, tagText?, if_pos hstart, untilBracket?_append hopen hclose]
    rfl
  have hskip := partsFrom_skip (position + 1) (c :: name ++ [']']) rest
  rw [List.length_append, List.length_singleton, List.append_assoc, List.singleton_append,
    ← Nat.add_assoc] at hskip
  rw [List.cons_append, partsFrom, if_neg (by decide), if_pos rfl, htext]
  simp only
  rw [hskip, if_neg (by decide)]
  exact congrArg (· ++ _) (List.append_nil (textPart (unescape acc.reverse)))

/-- The name can stand in a tag that opens a style and in one that closes
it. -/
structure IsStyleTag (name : List Char) (style : String) : Prop where
  starts : ∃ c cs, name = c :: cs ∧ startsTag c = true
  noOpening : '[' ∉ name
  noClosing : ']' ∉ name
  opens : Tag.ofText name = ⟨name, none⟩ ∧ (Tag.mk name none).closes? = none
  closes : (Tag.ofText ('/' :: name)).closes? = some name
  named : styleName name = .ok style

/-- A word may be given a style, and any plain text may stand behind it. -/
theorem IsStyleTag.wellFormed {name before word after : List Char} {style : String}
    (h : IsStyleTag name style) (hbefore : IsPlain before) (hbefore' : '\\' ∉ before)
    (hword : IsPlain word) (hword' : '\\' ∉ word) (hafter : IsPlain after) :
    WellFormed (before ++ ('[' :: name ++ ']' ::
      (word ++ ('[' :: '/' :: name ++ ']' :: after)))) := by
  obtain ⟨c, cs, rfl, hc⟩ := h.starts
  have hopen : '[' ∉ cs := fun hm => h.noOpening (List.mem_cons_of_mem c hm)
  have hclose : ']' ∉ cs := fun hm => h.noClosing (List.mem_cons_of_mem c hm)
  have hcheck : (Tag.mk (c :: cs) none).checkStyle = .ok () := by
    rw [Tag.checkStyle, h.opens.2]
  have hreverse {text : List Char} (ht : IsPlain text) :
      IsPlain (unescape (text.reverse ++ []).reverse) := by
    rw [List.append_nil, List.reverse_reverse]
    exact ht.unescape
  rw [WellFormed, parts, partsFrom_append hbefore.noOpening hbefore', partsFrom_tag hc hopen hclose,
    partsFrom_append hword.noOpening hword', partsFrom_tag (by decide) h.noOpening h.noClosing,
    partsFrom_of_notMem hafter.noOpening, h.opens.1]
  refine balanced_textPart_append (hreverse hbefore) (.opens h.opens.2 h.named hcheck
    (balanced_textPart_append (hreverse hword) ?_))
  refine .closes h.closes (List.cons_ne_nil c cs) h.named (List.mem_singleton_self style) ?_
  rw [← List.append_nil (textPart _)]
  exact balanced_textPart_append hafter.unescape .nil

/-! ## §4 Readers of markup -/

/-- The word can be the name of a tag: small letters. -/
structure IsTagWord (word : List Char) : Prop where
  nonempty : word ≠ []
  letters : ∀ c ∈ word, 'a' ≤ c ∧ c ≤ 'z'

/-- What readers of markup have in common, whatever they make of the names and
parameters of tags: text without a bracket is shown, also behind a word in
the style of a message, and a closing tag is not where nothing is open. -/
structure Reader.IsCommon (shown : Reader) : Prop where
  plain {cs : List Char} : IsPlain cs → ∃ text, shown cs = .ok text
  styled {style before word after : List Char} :
    style ∈ ["red".toList, "yellow".toList, "blue".toList] →
    IsPlain before → '\\' ∉ before → IsPlain word → '\\' ∉ word → IsPlain after →
    ∃ text, shown (before ++ ('[' :: style ++ ']' ::
      (word ++ ('[' :: '/' :: style ++ ']' :: after)))) = .ok text
  unopened {word : List Char} : IsTagWord word →
    ∃ e, shown ('[' :: '/' :: word ++ [']']) = .error e

theorem isStyleTag_of_mem {style : List Char}
    (h : style ∈ ["red".toList, "yellow".toList, "blue".toList]) :
    IsStyleTag style (String.ofList style) := by
  simp only [List.mem_cons, List.not_mem_nil, or_false] at h
  rcases h with rfl | rfl | rfl <;>
    exact ⟨⟨_, _, rfl, rfl⟩, by decide, by decide, ⟨rfl, rfl⟩, rfl, rfl⟩

/-- A tag of a word alone, behind a slash. -/
theorem IsTagWord.parts_closing {word : List Char} (h : IsTagWord word) :
    parts ('[' :: '/' :: word ++ [']']) = [.tag 0 ⟨'/' :: word, none⟩] := by
  have hopen : '[' ∉ word := fun hm => absurd (h.letters _ hm) (by decide)
  have hclose : ']' ∉ word := fun hm => absurd (h.letters _ hm) (by decide)
  have hequals : ∀ c ∈ word, (c != '=') = true := by
    intro c hc
    rw [bne_iff_ne]
    rintro rfl
    exact absurd (h.letters _ hc) (by decide)
  have htag : Tag.ofText ('/' :: word) = ⟨'/' :: word, none⟩ := by
    have hname : ∀ c ∈ '/' :: word, (c != '=') = true :=
      List.forall_mem_cons.mpr ⟨by decide, hequals⟩
    rw [Tag.ofText, List.takeWhile_eq_self_iff.mpr hname, List.dropWhile_eq_nil_iff.mpr hname]
  have htext := partsFrom_tag (c := '/') (by decide) hopen hclose 0 [] []
  rw [htag] at htext
  exact htext

/-- The common reading of markup is one of them. -/
theorem plain_isCommon : Reader.IsCommon plain where
  plain h := wellFormed_iff.mp h.wellFormed
  styled hstyle hbefore hbefore' hword hword' hafter :=
    wellFormed_iff.mp
      ((isStyleTag_of_mem hstyle).wellFormed hbefore hbefore' hword hword' hafter)
  unopened {word} h := by
    cases hshown : plain ('[' :: '/' :: word ++ [']']) with
    | error e => exact ⟨e, rfl⟩
    | ok text =>
      have hbalanced : WellFormed ('[' :: '/' :: word ++ [']']) := wellFormed_iff.mpr ⟨text, hshown⟩
      rw [WellFormed, h.parts_closing] at hbalanced
      cases hbalanced with
      | opens hopens => cases hopens
      | closes _ _ _ hmem => cases hmem

end ManifestDeps.Markup
