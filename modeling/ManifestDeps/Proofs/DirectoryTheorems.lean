/-
ManifestDeps.Proofs.DirectoryTheorems — a directory of files serves as well
as a table of them.

`FileTree.contentAt?_put` says what every path of a tree holds after one
file was put into it. Since no name of a file set is the beginning of
another (`FileSet.eq_of_isPrefix`), the files of a set do not disturb each
other when they are put one by one, so that a directory without files
holds exactly the set afterwards (`FileTree.holdsExactly_putAll`).

A pool over such a directory finds a normal name exactly when the table
has it, with the same bytes (`Pool.content_ofDirectory`), also where the
name is that of a directory or lies below a file. Loading asks a pool for
nothing but these bytes (`Pool.load_congr`), and so the analysis is the
same (`analyze_directory_eq_analyze_table`).
-/
import ManifestDeps.Analysis
import ManifestDeps.Proofs.PathTheorems
import ManifestDeps.Proofs.TableTheorems

namespace ManifestDeps

/-! ## §1 Putting a file into a tree -/

namespace FileTree

theorem lookup_setEntry (entries : List (String × FileTree)) (name k : String) (t : FileTree) :
    (put.setEntry entries name t).lookup k = if k = name then some t else entries.lookup k := by
  induction entries with
  | nil => rw [put.setEntry, Table.lookup_cons_eq_ite]
  | cons e rest ih =>
    obtain ⟨l, u⟩ := e
    by_cases hl : l = name
    · subst hl
      rw [put.setEntry, if_pos rfl, Table.lookup_cons_eq_ite, Table.lookup_cons_eq_ite]
      split <;> rfl
    · rw [put.setEntry, if_neg hl, Table.lookup_cons_eq_ite, Table.lookup_cons_eq_ite, ih]
      grind

/-- The entry of a name; a file has none. -/
def child? : FileTree → String → Option FileTree
  | file _, _ => none
  | directory entries, name => entries.lookup name

theorem find?_cons (t : FileTree) (s : String) (rest : Path) :
    t.find? (s :: rest) = (t.child? s).bind fun u => u.find? rest := by
  cases t <;> rfl

theorem contentAt?_cons (t : FileTree) (s : String) (rest : Path) :
    t.contentAt? (s :: rest) = (t.child? s).bind fun u => u.contentAt? rest := by
  rw [contentAt?, find?_cons]
  cases t.child? s <;> rfl

theorem child?_put (t : FileTree) (s k : String) (rest : Path) (node : FileTree) :
    (t.put (s :: rest) node).child? k =
      if k = s then some (((t.child? s).getD (directory [])).put rest node) else t.child? k := by
  cases t with
  | file content => exact lookup_setEntry [] s k _
  | directory entries => exact lookup_setEntry entries s k _

theorem contentAt?_directory_nil (p : Path) : (directory []).contentAt? p = none := by
  cases p with
  | nil => rfl
  | cons s rest => rw [contentAt?_cons]; rfl

/-- **What every path holds after a file was put.** The file is at its own
path. Above it there are directories and below it there is nothing; all
else is as it was. -/
theorem contentAt?_put (t : FileTree) (p q : Path) (bytes : List UInt8) :
    (t.put p (file bytes)).contentAt? q =
      if q = p then some bytes
      else if p <+: q ∨ q <+: p then none
      else t.contentAt? q := by
  induction p generalizing t q with
  | nil =>
    cases q with
    | nil => rfl
    | cons k q => simp [put, contentAt?, find?]
  | cons s rest ih =>
    cases q with
    | nil => simp [put, contentAt?, find?]
    | cons k q =>
      rw [contentAt?_cons, child?_put]
      by_cases hk : k = s
      · subst hk
        -- below the entry of this name, the path goes on in the entry that was there
        have hchild : ((t.child? k).getD (directory [])).contentAt? q = t.contentAt? (k :: q) := by
          rw [contentAt?_cons]
          cases t.child? k with
          | none => exact contentAt?_directory_nil q
          | some u => rfl
        rw [if_pos rfl, Option.bind_some, ih, hchild]
        simp only [List.cons.injEq, true_and, List.cons_prefix_cons]
      · rw [if_neg hk, ← contentAt?_cons]
        simp [List.cons_prefix_cons, hk, Ne.symm hk]

/-! ## §2 Putting a set of files -/

/-- Put the files of a table below a place. -/
def putAll (t : FileTree) (root : Path) (files : Table Content) : FileTree :=
  files.foldl (fun t f => t.put (root ++ segmentsOf f.1) (file f.2.toBytes)) t

/-- Below a place there are exactly these files, under their names relative
to it. There may be further directories. -/
def HoldsExactly (t : FileTree) (root : Path) (files : Table Content) : Prop :=
  ∀ (p : Path) (bytes : List UInt8), p.IsNormal →
    (t.contentAt? (root ++ p) = some bytes ↔
      ∃ f ∈ files, segmentsOf f.1 = p ∧ f.2.toBytes = bytes)

end FileTree

/-- Neither name is the beginning of the other. -/
def Unrelated (f g : String × Content) : Prop :=
  ¬ segmentsOf f.1 <+: segmentsOf g.1 ∧ ¬ segmentsOf g.1 <+: segmentsOf f.1

/-- A table of files: distinct names, each of which is the normal name of a
relative path, and none of which is the beginning of another. -/
structure FileSet (files : Table Content) : Prop where
  distinctNames : Table.DistinctNames files
  isNormal : ∀ f ∈ files, Path.IsNormal (segmentsOf f.1)
  eq_of_isPrefix : ∀ f ∈ files, ∀ g ∈ files, segmentsOf f.1 <+: segmentsOf g.1 → f.1 = g.1

theorem FileSet.pairwise_unrelated {files : Table Content} (h : FileSet files) :
    files.Pairwise Unrelated := by
  have hne : files.Pairwise fun f g => f.1 ≠ g.1 := List.pairwise_map.mp h.distinctNames
  refine hne.imp_of_mem fun {f g} hf hg hfg => ⟨fun hp => ?_, fun hp => ?_⟩
  · exact hfg (h.eq_of_isPrefix f hf g hg hp)
  · exact hfg (h.eq_of_isPrefix g hg f hf hp).symm

namespace FileTree

variable {t : FileTree} {root : Path}

/-- One more file, unrelated to those that are there. -/
theorem HoldsExactly.put {files : Table Content} (h : t.HoldsExactly root files)
    {f : String × Content} (hf : ∀ g ∈ files, Unrelated g f) :
    (t.put (root ++ segmentsOf f.1) (file f.2.toBytes)).HoldsExactly root (files ++ [f]) := by
  intro p bytes hp
  have hmem : (∃ g ∈ files ++ [f], segmentsOf g.1 = p ∧ g.2.toBytes = bytes) ↔
      (∃ g ∈ files, segmentsOf g.1 = p ∧ g.2.toBytes = bytes) ∨
        segmentsOf f.1 = p ∧ f.2.toBytes = bytes := by
    simp [or_and_right, exists_or]
  simp only [contentAt?_put, List.append_cancel_left_eq, List.prefix_append_right_inj, hmem,
    ← h p bytes hp]
  by_cases heq : p = segmentsOf f.1
  · -- the file's own path, where nothing was before
    subst heq
    have hnone : t.contentAt? (root ++ segmentsOf f.1) ≠ some bytes := by
      intro hsome
      obtain ⟨g, hg, hgf, -⟩ := (h _ bytes hp).mp hsome
      exact (hf g hg).1 (hgf ▸ List.prefix_refl _)
    simp [hnone]
  · rw [if_neg heq]
    by_cases hrel : segmentsOf f.1 <+: p ∨ p <+: segmentsOf f.1
    · have hnone : t.contentAt? (root ++ p) ≠ some bytes := by
        intro hsome
        obtain ⟨g, hg, rfl, -⟩ := (h p bytes hp).mp hsome
        exact hrel.elim (hf g hg).2 (hf g hg).1
      simp [hrel, hnone, Ne.symm heq]
    · simp [hrel, Ne.symm heq]

theorem HoldsExactly.putAll {files before : Table Content} (h : t.HoldsExactly root before)
    (hfiles : files.Pairwise Unrelated) (hbefore : ∀ g ∈ before, ∀ f ∈ files, Unrelated g f) :
    (t.putAll root files).HoldsExactly root (before ++ files) := by
  induction files generalizing t before with
  | nil => simpa [FileTree.putAll] using h
  | cons f rest ih =>
    obtain ⟨hfirst, hrest⟩ := List.pairwise_cons.mp hfiles
    have hput := h.put fun g hg => hbefore g hg f List.mem_cons_self
    have hall : ∀ g ∈ before ++ [f], ∀ f' ∈ rest, Unrelated g f' := by
      intro g hg f' hf'
      rcases List.mem_append.mp hg with hg | hg
      · exact hbefore g hg f' (List.mem_cons_of_mem _ hf')
      · rw [List.mem_singleton.mp hg]
        exact hfirst f' hf'
    simpa [FileTree.putAll] using ih hput hrest hall

theorem holdsExactly_nil (root : Path) : (directory []).HoldsExactly root [] := by
  intro p bytes _
  simp [contentAt?_directory_nil]

/-- **The directory of a file set**: where no files are, putting the files
of a set gives a directory of exactly them. -/
theorem holdsExactly_putAll {files : Table Content} (hfiles : FileSet files)
    (hempty : t.HoldsExactly root []) : (t.putAll root files).HoldsExactly root files :=
  hempty.putAll hfiles.pairwise_unrelated (by simp)

end FileTree

/-! ## §3 The two pools -/

/-- The content of the resource that a pool finds. -/
def Pool.content (pool : Pool) (name : String) : Except Failure (Except Failure (List UInt8)) :=
  (pool.find name).map Resource.content

/-- **Loading asks for the content of the descriptor and for nothing
else.** -/
theorem Pool.load_congr {p q : Pool} {c : String}
    (h : p.content (ModuleName.descriptorOf c) = q.content (ModuleName.descriptorOf c)) :
    p.load c = q.load c := by
  unfold Pool.content at h
  unfold Pool.load
  split
  · rfl
  · cases hp : p.find (ModuleName.descriptorOf c) with
    | error f =>
      cases hq : q.find (ModuleName.descriptorOf c) with
      | error g =>
        rw [hp, hq] at h
        cases h
        simp only [hp, hq]
      | ok s => rw [hp, hq] at h; cases h
    | ok r =>
      cases hq : q.find (ModuleName.descriptorOf c) with
      | error g => rw [hp, hq] at h; cases h
      | ok s =>
        have hcontent : r.content = s.content := by
          rw [hp, hq] at h
          exact Except.ok.inj h
        simp only [hp, hq, hcontent]

theorem Analyzer.analyze_congr {p q : Pool} {c : String} (h : p.load c = q.load c)
    (rules : List Rule) (d : DependencySet) :
    ({ pool := p, rules := rules } : Analyzer).analyze c d =
      ({ pool := q, rules := rules } : Analyzer).analyze c d := by
  simp only [Analyzer.analyze, h]

/-- A normal name leads below the root of a directory, whatever the root. -/
theorem Pool.resolve_of_isNormal {name : String} (hname : Path.IsNormal (segmentsOf name))
    (root : Path) : Pool.resolve root name = .ok (root ++ segmentsOf name) := by
  have hnul : '\x00' ∉ name.toList := by
    intro hmem
    obtain ⟨s, hs, hx⟩ := exists_mem_segmentsOf_iff.mpr ⟨hmem, by decide⟩
    exact (hname s hs).nul_notMem hx
  exact (Pool.resolve_eq_ok_iff hnul).mpr
    ⟨Path.leadsTo_iff.mpr (Path.walk_of_isNormal hname root), List.prefix_append _ _⟩

/-- **Both pools find the same content** under a normal name. -/
theorem Pool.content_ofDirectory {files : Table Content} (hfiles : FileSet files)
    {tree : FileTree} {root : Path} (htree : tree.HoldsExactly root files) {name : String}
    (hname : Path.IsNormal (segmentsOf name)) :
    (Pool.ofDirectory tree root).content name = (Pool.ofTable files).content name := by
  have hcontent : tree.contentAt? (root ++ segmentsOf name) =
      (files.lookup name).map Content.toBytes := by
    apply Option.ext
    intro bytes
    rw [htree _ bytes hname, Option.map_eq_some_iff]
    constructor
    · rintro ⟨⟨k, content⟩, hmem, hk, hbytes⟩
      cases segmentsOf_injective hk
      exact ⟨content, (Table.lookup_eq_some_iff_mem hfiles.distinctNames).mpr hmem, hbytes⟩
    · rintro ⟨content, hlookup, hbytes⟩
      exact ⟨(name, content), Table.mem_of_lookup hlookup, rfl, hbytes⟩
  simp only [Pool.content, Pool.ofDirectory, Pool.ofTable, Pool.resolve_of_isNormal hname,
    Except.bind, hcontent]
  cases files.lookup name <;> rfl

/-- **A directory serves as well as a table.** The files of a set can be put
into any directory without files, which then holds exactly them. Over every
directory that holds exactly the files of a set, the analysis of a
component whose descriptor has a normal name leaves behind the same as over
the table of these files: the same dependencies in the same order, and the
same reports, from whatever was there, with whatever rules. -/
theorem analyze_directory_eq_analyze_table {files : Table Content} (hfiles : FileSet files)
    (root : Path) :
    (∀ tree : FileTree, tree.HoldsExactly root [] →
      (tree.putAll root files).HoldsExactly root files) ∧
    ∀ tree : FileTree, tree.HoldsExactly root files →
      ∀ c : String, Path.IsNormal (segmentsOf (ModuleName.descriptorOf c)) →
        ∀ (rules : List Rule) (d : DependencySet),
          ({ pool := .ofDirectory tree root, rules := rules } : Analyzer).analyze c d =
            ({ pool := .ofTable files, rules := rules } : Analyzer).analyze c d := by
  refine ⟨fun tree hempty => FileTree.holdsExactly_putAll hfiles hempty,
    fun tree htree c hc rules d => ?_⟩
  exact Analyzer.analyze_congr (Pool.load_congr (Pool.content_ofDirectory hfiles htree hc)) rules d

/-- A descriptor that is there, one whose name is that of a directory, and
one below a file. -/
theorem analyze_directory_eq_analyze_three :
    let files : Table Content := [("my/manifest.json", .text "\x7b\x7d"),
      ("dir/manifest.json/x", .text ""), ("file", .text "")]
    let tree := (FileTree.directory []).putAll ["srv"] files
    let directory : Analyzer := { pool := .ofDirectory tree ["srv"] }
    let table : Analyzer := { pool := .ofTable files }
    FileSet files ∧
      ∀ c ∈ ["my/Component.js", "dir/Component.js", "file/Component.js"],
        Path.IsNormal (segmentsOf (ModuleName.descriptorOf c)) ∧
          directory.analyze c .empty = table.analyze c .empty := by
  intro files tree directory table
  have hfiles : FileSet files := ⟨by simp [files, Table.DistinctNames], by decide, by decide⟩
  obtain ⟨hput, hsame⟩ := analyze_directory_eq_analyze_table hfiles ["srv"]
  have htree : tree.HoldsExactly ["srv"] files :=
    hput (.directory []) (FileTree.holdsExactly_nil ["srv"])
  have hnormal : ∀ c ∈ ["my/Component.js", "dir/Component.js", "file/Component.js"],
      Path.IsNormal (segmentsOf (ModuleName.descriptorOf c)) := by decide
  exact ⟨hfiles, fun c hc => ⟨hnormal c hc, hsame tree htree c (hnormal c hc) defaultRules .empty⟩⟩

end ManifestDeps
