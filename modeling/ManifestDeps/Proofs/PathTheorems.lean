/-
ManifestDeps.Proofs.PathTheorems — where a name leads, and that it never
leads out of a root.

`Path.LeadsTo` says where the segments of a name lead, one step at a time,
as a directory tree has it: an empty segment and `.` stay, `..` goes to the
parent, any other segment to the entry of its name. A step keeps paths
normal (`Path.IsNormal.step`), so a walk does (`Path.LeadsTo.isNormal`).

Resolving a name accepts it exactly when it leads to the root or below
(`Pool.resolve_eq_ok_iff`), whatever happens on the way there. Paths are
compared segment by segment, so that a directory beside the root is outside
also where the text of its path begins with that of the root
(`not_isPrefix_of_longer_segment`).
-/
import ManifestDeps.Resource.Pool

namespace ManifestDeps

/-! ## §1 The segments of a name -/

theorem splitSlash_eq_splitOn (cs : List Char) : splitSlash cs = cs.splitOn '/' := by
  induction cs with
  | nil => simp [splitSlash]
  | cons c rest ih =>
    rw [splitSlash, List.splitOn_cons_eq_if_modifyHead, ih]
    by_cases hc : c = '/'
    · simp [hc]
    · rw [if_neg hc, if_neg (by simpa using hc)]
      cases hs : rest.splitOn '/' with
      | nil => exact absurd hs (List.splitOn_ne_nil _ _)
      | cons segment segments => rfl

/-- A character stands in a segment if it stands in the text, other than
the slash. -/
theorem exists_mem_splitSlash_iff {cs : List Char} {x : Char} :
    (∃ s ∈ splitSlash cs, x ∈ s) ↔ x ∈ cs ∧ x ≠ '/' := by
  induction cs with
  | nil => simp [splitSlash]
  | cons c rest ih =>
    by_cases hc : c = '/'
    · rw [splitSlash, if_pos hc]
      simp only [List.mem_cons, or_and_right, exists_or, exists_eq_left, List.not_mem_nil,
        false_or, ih]
      grind
    · cases hs : splitSlash rest with
      | nil => simp [splitSlash_eq_splitOn] at hs
      | cons segment segments =>
        rw [hs] at ih
        simp only [splitSlash, if_neg hc, hs]
        simp only [List.mem_cons, or_and_right, exists_or, exists_eq_left] at ih ⊢
        grind

theorem exists_mem_segmentsOf_iff {name : String} {x : Char} :
    (∃ s ∈ segmentsOf name, x ∈ s.toList) ↔ x ∈ name.toList ∧ x ≠ '/' := by
  rw [← exists_mem_splitSlash_iff, segmentsOf]
  constructor
  · rintro ⟨s, hs, hx⟩
    obtain ⟨cs, hcs, rfl⟩ := List.mem_map.mp hs
    exact ⟨cs, hcs, by simpa using hx⟩
  · rintro ⟨cs, hcs, hx⟩
    exact ⟨_, List.mem_map.mpr ⟨cs, hcs, rfl⟩, by simpa using hx⟩

/-- No segment holds a slash. -/
theorem slash_notMem_of_mem_segmentsOf {name s : String} (h : s ∈ segmentsOf name) :
    '/' ∉ s.toList :=
  fun hs => (exists_mem_segmentsOf_iff.mp ⟨s, h, hs⟩).2 rfl

/-- A name is its segments with slashes in between. -/
theorem intercalate_segmentsOf (name : String) : "/".intercalate (segmentsOf name) = name := by
  have hsplit : (segmentsOf name).map String.toList = name.toList.splitOn '/' := by
    simp [segmentsOf, splitSlash_eq_splitOn]
  rw [← String.toList_inj, String.toList_intercalate, hsplit]
  exact List.intercalate_splitOn '/'

/-- Segments determine their name. -/
theorem segmentsOf_injective {a b : String} (h : segmentsOf a = segmentsOf b) : a = b := by
  rw [← intercalate_segmentsOf a, h, intercalate_segmentsOf]

/-- The segments of a name that was put together from segments. -/
theorem segmentsOf_intercalate {p : List String} (hp : p ≠ [])
    (hs : ∀ s ∈ p, '/' ∉ s.toList) : segmentsOf ("/".intercalate p) = p := by
  have hsplit : splitSlash ("/".intercalate p).toList = p.map String.toList := by
    rw [splitSlash_eq_splitOn, String.toList_intercalate]
    refine List.splitOn_intercalate '/' (fun l hl => ?_) (by simpa using hp)
    obtain ⟨s, hmem, rfl⟩ := List.mem_map.mp hl
    exact hs s hmem
  rw [segmentsOf, hsplit, List.map_map]
  simp

theorem segmentsOf_slash_append (name : String) :
    segmentsOf ("/" ++ name) = "" :: segmentsOf name := by
  simp [segmentsOf, splitSlash]

namespace Path

/-- An absolute name begins with an empty segment. -/
theorem isAbsoluteName_eq_false {name : String} (h : (segmentsOf name).head? ≠ some "") :
    isAbsoluteName name = false := by
  refine Bool.eq_false_iff.mpr fun habs => h ?_
  have hhead : name.toList.head? = some '/' := by simpa [isAbsoluteName] using habs
  obtain ⟨rest, hrest⟩ := List.head?_eq_some_iff.mp hhead
  simp [segmentsOf, hrest, splitSlash]

/-! ## §2 Normal paths -/

/-- A name that an entry of a directory can have. -/
structure IsEntry (s : String) : Prop where
  ne_empty : s ≠ ""
  ne_same : s ≠ "."
  ne_parent : s ≠ ".."
  slash_notMem : '/' ∉ s.toList
  nul_notMem : '\x00' ∉ s.toList

instance (s : String) : Decidable (IsEntry s) :=
  decidable_of_iff (s ≠ "" ∧ s ≠ "." ∧ s ≠ ".." ∧ '/' ∉ s.toList ∧ '\x00' ∉ s.toList)
    ⟨fun ⟨he, hd, hp, hs, hn⟩ => ⟨he, hd, hp, hs, hn⟩,
      fun h => ⟨h.ne_empty, h.ne_same, h.ne_parent, h.slash_notMem, h.nul_notMem⟩⟩

/-- Every segment of the path is the name of an entry. -/
def IsNormal (p : Path) : Prop :=
  ∀ s ∈ p, IsEntry s

instance (p : Path) : Decidable p.IsNormal :=
  inferInstanceAs (Decidable (∀ s ∈ p, IsEntry s))

theorem isNormal_append {p q : Path} : IsNormal (p ++ q) ↔ p.IsNormal ∧ q.IsNormal :=
  List.forall_mem_append

theorem isNormal_nil : IsNormal [] := by
  simp [IsNormal]

/-- A step along a segment keeps a path normal. -/
theorem IsNormal.step {p : Path} (h : p.IsNormal) {s : String} (hslash : '/' ∉ s.toList)
    (hnul : '\x00' ∉ s.toList) : (p.step s).IsNormal := by
  unfold Path.step
  split
  · exact h
  · rename_i hstay
    split
    · exact fun t ht => h t ((List.dropLast_sublist p).subset ht)
    · rename_i hup
      rw [not_or] at hstay
      refine isNormal_append.mpr ⟨h, fun t ht => ?_⟩
      rw [List.mem_singleton.mp ht]
      exact ⟨hstay.1, hstay.2, hup, hslash, hnul⟩

/-- A step to an entry goes one level down. -/
theorem step_of_isEntry {s : String} (hs : IsEntry s) (p : Path) : p.step s = p ++ [s] := by
  simp [step, hs.ne_empty, hs.ne_same, hs.ne_parent]

/-! ## §3 Walking -/

/-- Where segments lead from a place, one by one. -/
inductive Walks : Path → List String → Path → Prop where
  | here {p : Path} : Walks p [] p
  | stay {p q : Path} {s : String} {rest : List String} : s = "" ∨ s = "." →
      Walks p rest q → Walks p (s :: rest) q
  | up {p q : Path} {rest : List String} : Walks p.dropLast rest q → Walks p (".." :: rest) q
  | down {p q : Path} {s : String} {rest : List String} : s ≠ "" → s ≠ "." → s ≠ ".." →
      Walks (p ++ [s]) rest q → Walks p (s :: rest) q

/-- Where a name leads: from the base, or from the top if it is absolute. -/
inductive LeadsTo (base : Path) (name : String) (p : Path) : Prop where
  | relative : name.toList.head? ≠ some '/' → Walks base (segmentsOf name) p →
      LeadsTo base name p
  | absolute : name.toList.head? = some '/' → Walks [] (segmentsOf name) p →
      LeadsTo base name p

/-- Walking is stepping along the segments. -/
theorem walks_iff {p q : Path} {segments : List String} :
    Walks p segments q ↔ segments.foldl step p = q := by
  constructor
  · intro h
    induction h with
    | here => rfl
    | stay hs _ ih => rw [List.foldl_cons, step, if_pos hs, ih]
    | up _ ih => simpa [step] using ih
    | down he hd hp _ ih => simpa [step, he, hd, hp] using ih
  · intro h
    induction segments generalizing p with
    | nil => cases h; exact .here
    | cons s rest ih =>
      rw [List.foldl_cons] at h
      by_cases hstay : s = "" ∨ s = "."
      · rw [step, if_pos hstay] at h
        exact .stay hstay (ih h)
      · rw [not_or] at hstay
        by_cases hup : s = ".."
        · subst hup
          exact .up (ih (by simpa [step] using h))
        · exact .down hstay.1 hstay.2 hup (ih (by simpa [step, hstay, hup] using h))

theorem leadsTo_iff {base p : Path} {name : String} :
    LeadsTo base name p ↔ walk base name = p := by
  by_cases habs : name.toList.head? = some '/'
  · rw [walk, isAbsoluteName, habs, beq_self_eq_true, if_pos rfl, ← walks_iff]
    refine ⟨fun h => ?_, fun h => .absolute habs h⟩
    cases h with
    | relative hrel _ => exact absurd habs hrel
    | absolute _ h => exact h
  · rw [walk, isAbsoluteName, beq_false_of_ne habs, if_neg Bool.false_ne_true, ← walks_iff]
    refine ⟨fun h => ?_, fun h => .relative habs h⟩
    cases h with
    | relative _ h => exact h
    | absolute habs' _ => exact absurd habs' habs

/-- Every name leads to one place. -/
theorem leadsTo_walk (base : Path) (name : String) : LeadsTo base name (walk base name) :=
  leadsTo_iff.mpr rfl

/-- Walking keeps paths normal. -/
theorem IsNormal.walks {p q : Path} {segments : List String} (h : Walks p segments q)
    (hp : p.IsNormal) (hs : ∀ s ∈ segments, '/' ∉ s.toList ∧ '\x00' ∉ s.toList) :
    q.IsNormal := by
  rw [walks_iff] at h
  induction segments generalizing p with
  | nil => exact h ▸ hp
  | cons s rest ih =>
    obtain ⟨hslash, hnul⟩ := hs s List.mem_cons_self
    exact ih h (hp.step hslash hnul) fun t ht => hs t (List.mem_cons_of_mem _ ht)

theorem LeadsTo.isNormal {base p : Path} {name : String} (h : LeadsTo base name p)
    (hbase : base.IsNormal) (hname : '\x00' ∉ name.toList) : p.IsNormal := by
  have hs : ∀ s ∈ segmentsOf name, '/' ∉ s.toList ∧ '\x00' ∉ s.toList := fun s hs =>
    ⟨slash_notMem_of_mem_segmentsOf hs,
      fun hnul => hname (exists_mem_segmentsOf_iff.mp ⟨s, hs, hnul⟩).1⟩
  cases h with
  | relative _ h => exact hbase.walks h hs
  | absolute _ h => exact isNormal_nil.walks h hs

/-! ## §4 Names put together from segments -/

/-- The names of entries lead down, one by one. -/
theorem foldl_step_of_isNormal {q : Path} (hq : q.IsNormal) (p : Path) :
    q.foldl step p = p ++ q := by
  induction q generalizing p with
  | nil => simp
  | cons s rest ih =>
    rw [List.foldl_cons, step_of_isEntry (hq s List.mem_cons_self),
      ih fun t ht => hq t (List.mem_cons_of_mem _ ht)]
    simp

/-- Going up cuts off segments at the end, as far as there are any. -/
theorem foldl_step_replicate_parent (n : Nat) (p : Path) :
    (List.replicate n "..").foldl step p = p.take (p.length - n) := by
  induction n generalizing p with
  | zero => simp
  | succ n ih =>
    have hup : p.step ".." = p.dropLast := by simp [step]
    rw [List.replicate_succ, List.foldl_cons, hup, ih, List.length_dropLast,
      List.dropLast_eq_take, List.take_take]
    congr 1
    omega

/-- A name that was put together from segments is walked along them. -/
theorem foldl_step_segmentsOf_intercalate {segments : List String}
    (hs : ∀ s ∈ segments, '/' ∉ s.toList) (p : Path) :
    (segmentsOf ("/".intercalate segments)).foldl step p = segments.foldl step p := by
  cases segments with
  | nil => rfl
  | cons s rest => rw [segmentsOf_intercalate (by simp) hs]

theorem walk_intercalate {segments : List String}
    (hs : ∀ s ∈ segments, s ≠ "" ∧ '/' ∉ s.toList) (base : Path) :
    walk base ("/".intercalate segments) = segments.foldl step base := by
  have hrel : isAbsoluteName ("/".intercalate segments) = false := by
    cases segments with
    | nil => rfl
    | cons s rest =>
      refine isAbsoluteName_eq_false ?_
      rw [segmentsOf_intercalate (by simp) fun t ht => (hs t ht).2, List.head?_cons]
      simpa using (hs s List.mem_cons_self).1
  rw [walk, hrel, if_neg Bool.false_ne_true,
    foldl_step_segmentsOf_intercalate fun s h => (hs s h).2]

/-- The relative name of a place below a base leads there. -/
theorem walk_of_isNormal {name : String} (hname : IsNormal (segmentsOf name)) (base : Path) :
    walk base name = base ++ segmentsOf name := by
  have h := walk_intercalate (fun s hs => ⟨(hname s hs).ne_empty, (hname s hs).slash_notMem⟩) base
  rwa [intercalate_segmentsOf, foldl_step_of_isNormal hname] at h

theorem walk_text {p : Path} (hp : p.IsNormal) (base : Path) : walk base p.text = p := by
  have habs : isAbsoluteName p.text = true := by simp [isAbsoluteName, text]
  rw [walk, habs, if_pos rfl, text, segmentsOf_slash_append, List.foldl_cons,
    foldl_step_segmentsOf_intercalate fun s hs => (hp s hs).slash_notMem,
    foldl_step_of_isNormal hp]
  simp [step]

/-- No character but slashes is added when a name is put together. -/
theorem notMem_intercalate {segments : List String} {x : Char} (hx : x ≠ '/')
    (hs : ∀ s ∈ segments, x ∉ s.toList) (hslash : ∀ s ∈ segments, '/' ∉ s.toList) :
    x ∉ ("/".intercalate segments).toList := by
  intro hmem
  obtain ⟨s, hs', hx'⟩ := exists_mem_segmentsOf_iff.mpr ⟨hmem, hx⟩
  cases segments with
  | nil => simp [String.intercalate_nil] at hmem
  | cons t rest =>
    rw [segmentsOf_intercalate (by simp) hslash] at hs'
    exact hs s hs' hx'

end Path

/-! ## §5 Resolving a name -/

/-- A segment that is longer is another segment: what lies in a directory
beside the root is not below the root. -/
theorem not_isPrefix_of_longer_segment {parent rest : Path} {last extra : String}
    (hextra : extra ≠ "") : ¬ (parent ++ [last]) <+: parent ++ (last ++ extra) :: rest := by
  intro h
  rw [List.prefix_append_right_inj, List.cons_prefix_cons] at h
  have hlength : last.length = (last ++ extra).length := congrArg String.length h.1
  rw [String.length_append] at hlength
  exact hextra (String.length_eq_zero_iff.mp (by omega))

namespace Pool

section Resolve

variable {root p : Path} {name : String}

theorem resolve_of_isWithin (hname : '\x00' ∉ name.toList)
    (h : root <+: Path.walk root name) : resolve root name = .ok (Path.walk root name) := by
  have hwithin : root.isWithin (Path.walk root name) = true := List.isPrefixOf_iff_prefix.mpr h
  simp [resolve, hname, hwithin]

theorem resolve_of_not_isWithin (hname : '\x00' ∉ name.toList)
    (h : ¬ root <+: Path.walk root name) :
    resolve root name = .error (.resourceNotFound name) := by
  have hwithin : root.isWithin (Path.walk root name) = false :=
    Bool.eq_false_iff.mpr fun hw => h (List.isPrefixOf_iff_prefix.mp hw)
  simp [resolve, hname, hwithin]

/-- **A name is accepted when it leads to the root or below.** -/
theorem resolve_eq_ok_iff (hname : '\x00' ∉ name.toList) :
    resolve root name = .ok p ↔ Path.LeadsTo root name p ∧ root <+: p := by
  rw [Path.leadsTo_iff]
  by_cases h : root <+: Path.walk root name
  · rw [resolve_of_isWithin hname h]
    constructor
    · intro hp
      cases hp
      exact ⟨rfl, h⟩
    · rintro ⟨rfl, -⟩
      rfl
  · rw [resolve_of_not_isWithin hname h]
    constructor
    · intro hp
      cases hp
    · rintro ⟨rfl, hp⟩
      exact absurd hp h

/-- **A name is refused when it leads elsewhere**, as one that nothing is
found for. -/
theorem resolve_eq_error_iff (hname : '\x00' ∉ name.toList) {f : Failure} :
    resolve root name = .error f ↔
      f = .resourceNotFound name ∧ ∃ q, Path.LeadsTo root name q ∧ ¬ root <+: q := by
  by_cases h : root <+: Path.walk root name
  · rw [resolve_of_isWithin hname h]
    constructor
    · intro hf
      cases hf
    · rintro ⟨-, q, hq, hout⟩
      rw [Path.leadsTo_iff] at hq
      exact absurd (hq ▸ h) hout
  · rw [resolve_of_not_isWithin hname h]
    constructor
    · intro hf
      cases hf
      exact ⟨rfl, _, Path.leadsTo_walk root name, h⟩
    · rintro ⟨rfl, -⟩
      rfl

end Resolve

variable {root : Path}

/-- A name may go up out of the root when it comes back the same way. -/
theorem resolve_up_and_back {above back below : Path} (hroot : (above ++ back).IsNormal)
    (hbelow : below.IsNormal) :
    resolve (above ++ back)
        ("/".intercalate (List.replicate back.length ".." ++ back ++ below)) =
      .ok (above ++ back ++ below) := by
  have hdown : (back ++ below).IsNormal :=
    Path.isNormal_append.mpr ⟨(Path.isNormal_append.mp hroot).2, hbelow⟩
  have hsegments : ∀ s ∈ List.replicate back.length ".." ++ back ++ below,
      s ≠ "" ∧ '/' ∉ s.toList ∧ '\x00' ∉ s.toList := by
    intro s hs
    rw [List.append_assoc, List.mem_append] at hs
    rcases hs with hs | hs
    · rw [List.eq_of_mem_replicate hs]
      decide
    · exact ⟨(hdown s hs).ne_empty, (hdown s hs).slash_notMem, (hdown s hs).nul_notMem⟩
  have hnul := Path.notMem_intercalate (by decide) (fun s hs => (hsegments s hs).2.2)
    fun s hs => (hsegments s hs).2.1
  refine (resolve_eq_ok_iff hnul).mpr ⟨Path.leadsTo_iff.mpr ?_, List.prefix_append _ _⟩
  rw [Path.walk_intercalate fun s hs => ⟨(hsegments s hs).1, (hsegments s hs).2.1⟩,
    List.append_assoc, List.foldl_append, Path.foldl_step_replicate_parent]
  have hup : (above ++ back).take ((above ++ back).length - back.length) = above := by simp
  rw [hup, Path.foldl_step_of_isNormal hdown, List.append_assoc]

/-- The absolute name of a place below the root is accepted. -/
theorem resolve_text {below : Path} (hroot : root.IsNormal) (hbelow : below.IsNormal) :
    resolve root (Path.text (root ++ below)) = .ok (root ++ below) := by
  have hp : (root ++ below).IsNormal := Path.isNormal_append.mpr ⟨hroot, hbelow⟩
  have hnul : '\x00' ∉ (Path.text (root ++ below)).toList := by
    have h := Path.notMem_intercalate (x := '\x00') (by decide) (fun s hs => (hp s hs).nul_notMem)
      fun s hs => (hp s hs).slash_notMem
    simpa [Path.text] using h
  exact (resolve_eq_ok_iff hnul).mpr
    ⟨Path.leadsTo_iff.mpr (Path.walk_text hp root), List.prefix_append _ _⟩

end Pool

/-- **Names stay below the root.** Resolving a name gives only normal paths
that are the root or lie below it, segment by segment. It is refused
exactly when its segments lead elsewhere, and then as a name that nothing
is found for; what is passed on the way does not matter. So a name may
leave the root and come back, and may be the absolute name of a place below
the root, but never leads to a neighbour whose name extends the last
segment of the root. -/
theorem resolve_stays_below_root {root : Path} (hroot : root.IsNormal) :
    (∀ name : String, '\x00' ∉ name.toList →
      (∀ p, Pool.resolve root name = .ok p → (∃ below, p = root ++ below) ∧ p.IsNormal) ∧
      (∀ p, Pool.resolve root name = .ok p ↔ Path.LeadsTo root name p ∧ root <+: p) ∧
      (∀ f, Pool.resolve root name = .error f ↔
        f = .resourceNotFound name ∧ ∃ p, Path.LeadsTo root name p ∧ ¬ root <+: p)) ∧
    (∀ above back below : Path, root = above ++ back → below.IsNormal →
      Pool.resolve root
          ("/".intercalate (List.replicate back.length ".." ++ back ++ below)) =
        .ok (root ++ below)) ∧
    (∀ below : Path, below.IsNormal →
      Pool.resolve root (Path.text (root ++ below)) = .ok (root ++ below)) ∧
    (∀ (name : String) (parent rest : Path) (last extra : String), '\x00' ∉ name.toList →
      root = parent ++ [last] → extra ≠ "" →
      Path.LeadsTo root name (parent ++ (last ++ extra) :: rest) →
      Pool.resolve root name = .error (.resourceNotFound name)) := by
  refine ⟨fun name hname => ⟨fun p hp => ?_, fun p => Pool.resolve_eq_ok_iff hname,
    fun f => Pool.resolve_eq_error_iff hname⟩, ?_, fun below hbelow => ?_, ?_⟩
  · obtain ⟨hleads, below, hbelow⟩ := (Pool.resolve_eq_ok_iff hname).mp hp
    exact ⟨⟨below, hbelow.symm⟩, hleads.isNormal hroot hname⟩
  · rintro above back below rfl hbelow
    exact Pool.resolve_up_and_back hroot hbelow
  · exact Pool.resolve_text hroot hbelow
  · rintro name parent rest last extra hname rfl hextra hleads
    exact (Pool.resolve_eq_error_iff hname).mpr
      ⟨rfl, _, hleads, not_isPrefix_of_longer_segment hextra⟩

/-- Out of a directory and back in, by doubled slashes and dots, and to the
directory beside it. -/
theorem resolve_stays_below_srv_app :
    Path.IsNormal ["srv", "app"] ∧
      Pool.resolve ["srv", "app"] "../../srv/app/view" = .ok ["srv", "app", "view"] ∧
      (∀ p, Pool.resolve ["srv", "app"] "..//./app/view/" = .ok p → p.IsNormal) ∧
      Pool.resolve ["srv", "app"] "../app-old/view" =
        .error (.resourceNotFound "../app-old/view") := by
  have hroot : Path.IsNormal ["srv", "app"] := by decide
  obtain ⟨hnames, hback, -, hneighbour⟩ := resolve_stays_below_root hroot
  refine ⟨hroot, hback [] ["srv", "app"] ["view"] rfl (by decide), fun p hp => ?_, ?_⟩
  · exact ((hnames "..//./app/view/" (by decide)).1 p hp).2
  · refine hneighbour _ ["srv"] ["view"] "app" "-old" (by decide) rfl (by decide) ?_
    exact Path.leadsTo_iff.mpr (by decide)

end ManifestDeps
