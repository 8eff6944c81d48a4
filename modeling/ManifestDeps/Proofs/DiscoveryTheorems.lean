/-
ManifestDeps.Proofs.DiscoveryTheorems — which components a search finds.

`FileTree.IsProper` says what makes a tree a directory tree: the entries of
a directory have distinct names, and names that entries can have. In such a
tree looking up paths and walking the entries come to the same: a path is
found exactly when a file of a component's name stands there and every
directory on the way is searched (`FileTree.mem_componentPaths`), and it is
found once (`FileTree.nodup_componentPaths`). Names are put together from
segments without slashes, so they are distinct too, and the sorted list of
names is strictly increasing.

`FileTree.Relisted` relates trees that differ in the order in which entries
are listed, at any depth. The paths found are then a permutation of each
other (`FileTree.Relisted.componentPaths_perm`), and sorting makes them
equal. `discover_finds_exactly` puts this together.
-/
import Mathlib.Data.List.Nodup
import ManifestDeps.Discovery
import ManifestDeps.Proofs.DirectoryTheorems

namespace ManifestDeps

open ModuleName (componentFilename)

/-! ## §1 Directory trees -/

namespace FileTree

/-- The entries of every directory have distinct names, and names that
entries can have. -/
inductive IsProper : FileTree → Prop where
  | file (content : List UInt8) : IsProper (.file content)
  | directory {entries : List (String × FileTree)} : Table.DistinctNames entries →
      (∀ e ∈ entries, Path.IsEntry e.1) → (∀ e ∈ entries, e.2.IsProper) →
      IsProper (.directory entries)

@[simp] theorem isProper_file (content : List UInt8) : (file content).IsProper :=
  .file content

@[simp] theorem isProper_directory_iff {entries : List (String × FileTree)} :
    (directory entries).IsProper ↔
      Table.DistinctNames entries ∧ ∀ e ∈ entries, Path.IsEntry e.1 ∧ e.2.IsProper := by
  constructor
  · intro h
    cases h with
    | directory hnames hentries hbelow =>
      exact ⟨hnames, fun e he => ⟨hentries e he, hbelow e he⟩⟩
  · rintro ⟨hnames, hall⟩
    exact .directory hnames (fun e he => (hall e he).1) fun e he => (hall e he).2

section Lookup

variable {t u : FileTree} {p : Path}

theorem isFileAt_iff : t.isFileAt p = true ↔ ∃ content, t.find? p = some (.file content) := by
  rw [isFileAt, contentAt?]
  split
  · next content h => simp [h]
  · next h =>
    refine iff_of_false (by simp) ?_
    rintro ⟨content, hfind⟩
    exact h content hfind

theorem isFileAt_nil : t.isFileAt [] = t.isFile := by
  cases t <;> rfl

theorem isFileAt_cons {s : String} {rest : Path} :
    t.isFileAt (s :: rest) = true ↔ ∃ u, t.child? s = some u ∧ u.isFileAt rest = true := by
  rw [isFileAt, contentAt?_cons]
  cases t.child? s with
  | none => simp
  | some u => simp [isFileAt]

/-- Nothing stands below a file. -/
theorem isFile_eq_false_of_isFileAt {s : String} {rest : Path}
    (h : t.isFileAt (s :: rest) = true) : t.isFile = false := by
  cases t with
  | file content => simp [isFileAt, contentAt?, find?] at h
  | directory entries => rfl

theorem find?_append (t : FileTree) (p q : Path) :
    t.find? (p ++ q) = (t.find? p).bind fun u => u.find? q := by
  induction p generalizing t with
  | nil => cases q <;> rfl
  | cons s rest ih =>
    rw [List.cons_append, find?_cons, find?_cons, Option.bind_assoc]
    exact congrArg _ (funext ih)

theorem IsProper.child? {s : String} (h : t.IsProper) (hu : t.child? s = some u) :
    Path.IsEntry s ∧ u.IsProper := by
  cases h with
  | file content => cases hu
  | directory _ hentries hbelow =>
    have hmem := Table.mem_of_lookup hu
    exact ⟨hentries _ hmem, hbelow _ hmem⟩

/-- What stands in a proper tree is proper, and its path is normal. -/
theorem IsProper.find? (h : t.IsProper) (hu : t.find? p = some u) :
    p.IsNormal ∧ u.IsProper := by
  induction p generalizing t with
  | nil =>
    cases hu
    exact ⟨Path.isNormal_nil, h⟩
  | cons s rest ih =>
    rw [find?_cons] at hu
    obtain ⟨v, hv, hrest⟩ := Option.bind_eq_some_iff.mp hu
    obtain ⟨hentry, hproper⟩ := h.child? hv
    obtain ⟨hnormal, hu⟩ := ih hproper hrest
    exact ⟨List.forall_mem_cons.mpr ⟨hentry, hnormal⟩, hu⟩

/-- Only normal paths lead anywhere in a proper tree. -/
theorem IsProper.isNormal_of_isFileAt (h : t.IsProper) (hp : t.isFileAt p = true) :
    p.IsNormal := by
  obtain ⟨content, hfind⟩ := isFileAt_iff.mp hp
  exact (h.find? hfind).1

end Lookup

end FileTree

/-! ## §2 The paths of components -/

/-- A directory of this name is searched. -/
def IsSearched (ignored : List String) (name : String) : Prop :=
  name ∉ ignored ∧ name.toList.head? ≠ some '.'

theorem isSkippedDirectory_eq_false_iff {ignored : List String} {name : String} :
    isSkippedDirectory ignored name = false ↔ IsSearched ignored name := by
  simp [isSkippedDirectory, IsSearched]

namespace FileTree

variable {ignored : List String}

/-- The paths of components that an entry of a directory contributes. -/
def pathsOfEntry (ignored : List String) (e : String × FileTree) : List Path :=
  if e.2.isFile then if e.1 = componentFilename then [[e.1]] else []
  else if isSkippedDirectory ignored e.1 then []
  else (e.2.componentPaths ignored).map (e.1 :: ·)

theorem entryPaths_eq_flatMap (entries : List (String × FileTree)) :
    entryPaths ignored entries = entries.flatMap (pathsOfEntry ignored) := by
  induction entries with
  | nil => rfl
  | cons e rest ih => rw [entryPaths, List.flatMap_cons, ih, pathsOfEntry]

theorem componentPaths_directory (entries : List (String × FileTree)) :
    (directory entries).componentPaths ignored = entries.flatMap (pathsOfEntry ignored) := by
  rw [componentPaths, entryPaths_eq_flatMap]

/-- An entry contributes paths through itself: its own, or those of the
components below it. -/
theorem mem_pathsOfEntry {e : String × FileTree} {p : Path} :
    p ∈ pathsOfEntry ignored e ↔
      (e.2.isFile = true ∧ e.1 = componentFilename ∧ p = [e.1]) ∨
        (e.2.isFile = false ∧ IsSearched ignored e.1 ∧
          ∃ q ∈ e.2.componentPaths ignored, p = e.1 :: q) := by
  rw [← isSkippedDirectory_eq_false_iff, pathsOfEntry]
  cases e.2.isFile with
  | true =>
    by_cases hname : e.1 = componentFilename
    · simp [hname]
    · simp [hname]
  | false =>
    cases isSkippedDirectory ignored e.1 with
    | true => simp
    | false => simp [eq_comm]

/-- **A search is exact**: it finds the files of a component's name whose
directories are all searched. -/
theorem mem_componentPaths {t : FileTree} (h : t.IsProper) {p : Path} :
    p ∈ t.componentPaths ignored ↔
      ∃ dirs, p = dirs ++ [componentFilename] ∧ t.isFileAt p = true ∧
        ∀ d ∈ dirs, IsSearched ignored d := by
  induction h generalizing p with
  | file content =>
    refine iff_of_false (by simp [componentPaths]) ?_
    rintro ⟨dirs, rfl, hfile, -⟩
    cases dirs <;> simp [isFileAt, contentAt?, FileTree.find?] at hfile
  | @directory entries hnames hentries hbelow ih =>
    have hchild (name : String) (u : FileTree) :
        (directory entries).child? name = some u ↔ (name, u) ∈ entries :=
      Table.lookup_eq_some_iff_mem hnames
    rw [componentPaths_directory, List.mem_flatMap]
    constructor
    · rintro ⟨⟨name, u⟩, he, hp⟩
      rcases mem_pathsOfEntry.mp hp with ⟨hfile, rfl, rfl⟩ | ⟨-, hname, q, hq, rfl⟩
      · refine ⟨[], rfl, isFileAt_cons.mpr ⟨u, (hchild _ _).mpr he, ?_⟩, by simp⟩
        rw [isFileAt_nil, hfile]
      · obtain ⟨dirs, rfl, hfile, hdirs⟩ := (ih _ he).mp hq
        exact ⟨name :: dirs, rfl, isFileAt_cons.mpr ⟨u, (hchild _ _).mpr he, hfile⟩,
          List.forall_mem_cons.mpr ⟨hname, hdirs⟩⟩
    · rintro ⟨dirs, rfl, hfile, hdirs⟩
      cases dirs with
      | nil =>
        obtain ⟨u, hu, hfile⟩ := isFileAt_cons.mp hfile
        rw [isFileAt_nil] at hfile
        exact ⟨_, (hchild _ _).mp hu, mem_pathsOfEntry.mpr (.inl ⟨hfile, rfl, rfl⟩)⟩
      | cons name dirs =>
        obtain ⟨u, hu, hfile⟩ := isFileAt_cons.mp hfile
        obtain ⟨hname, hdirs⟩ := List.forall_mem_cons.mp hdirs
        have he := (hchild _ _).mp hu
        -- the path goes on below the entry, which is therefore a directory
        have hdirectory : u.isFile = false := by
          cases dirs <;> exact isFile_eq_false_of_isFileAt hfile
        refine ⟨_, he, mem_pathsOfEntry.mpr (.inr ⟨hdirectory, hname, _, ?_, rfl⟩)⟩
        exact (ih _ he).mpr ⟨dirs, rfl, hfile, hdirs⟩

/-- Every path begins with the name of the entry that contributes it. -/
theorem head?_of_mem_pathsOfEntry {e : String × FileTree} {p : Path}
    (h : p ∈ pathsOfEntry ignored e) : p.head? = some e.1 := by
  rcases mem_pathsOfEntry.mp h with ⟨-, -, rfl⟩ | ⟨-, -, q, -, rfl⟩ <;> rfl

/-- A component is found once. -/
theorem nodup_componentPaths {t : FileTree} (h : t.IsProper) :
    (t.componentPaths ignored).Nodup := by
  induction h with
  | file content => exact List.nodup_nil
  | @directory entries hnames _ _ ih =>
    rw [componentPaths_directory]
    refine List.nodup_flatMap.mpr ⟨fun e he => ?_, ?_⟩
    · rw [pathsOfEntry]
      split_ifs
      · exact List.nodup_singleton _
      · exact List.nodup_nil
      · exact List.nodup_nil
      · exact (ih e he).map fun _ _ heq => (List.cons.inj heq).2
    · refine (List.pairwise_map.mp hnames).imp fun {e f} hne p hp hq => hne ?_
      have hhead := (head?_of_mem_pathsOfEntry hp).symm.trans (head?_of_mem_pathsOfEntry hq)
      exact Option.some.inj hhead

/-! ## §3 The components in order -/

theorem relativeText_append (root p : Path) :
    Path.relativeText root (root ++ p) = "/".intercalate p := by
  rw [Path.relativeText, List.drop_left]

theorem mem_components {t : FileTree} {root : Path} {c : FoundComponent} :
    c ∈ t.components ignored root ↔
      ∃ p ∈ t.componentPaths ignored, c = ⟨root ++ p, "/".intercalate p⟩ := by
  rw [components, List.mem_mergeSort, List.mem_map]
  simp only [relativeText_append, eq_comm]

/-- The names of components, in the order of the search. -/
def componentNames (ignored : List String) (t : FileTree) : List String :=
  (t.componentPaths ignored).map ("/".intercalate ·)

theorem names_components_perm (t : FileTree) (root : Path) :
    ((t.components ignored root).map FoundComponent.name).Perm (t.componentNames ignored) := by
  rw [components, componentNames]
  refine ((List.mergeSort_perm _ _).map _).trans ?_
  rw [List.map_map]
  simp only [Function.comp_def, relativeText_append]
  exact List.Perm.refl _

theorem pairwise_le_names_components (t : FileTree) (root : Path) :
    ((t.components ignored root).map FoundComponent.name).Pairwise (· ≤ ·) := by
  rw [List.pairwise_map, components]
  refine (List.pairwise_mergeSort (fun a b c => ?_) (fun a b => ?_) _).imp fun {a b} h => ?_
  · simpa using fun hab hbc => String.le_trans hab hbc
  · simpa using String.le_total a.name b.name
  · simpa using h

/-- Segments of normal paths are told apart by the slashes between them. -/
theorem intercalate_inj_of_isNormal {p q : Path} (hp : p.IsNormal) (hq : q.IsNormal)
    (hpne : p ≠ []) (hqne : q ≠ []) (h : "/".intercalate p = "/".intercalate q) : p = q := by
  rw [← segmentsOf_intercalate hpne fun s hs => (hp s hs).slash_notMem, h,
    segmentsOf_intercalate hqne fun s hs => (hq s hs).slash_notMem]

theorem nodup_componentNames {t : FileTree} (h : t.IsProper) :
    (t.componentNames ignored).Nodup := by
  have hpath : ∀ p ∈ t.componentPaths ignored, p.IsNormal ∧ p ≠ [] := by
    intro p hp
    obtain ⟨dirs, rfl, hfile, -⟩ := (mem_componentPaths h).mp hp
    exact ⟨h.isNormal_of_isFileAt hfile, by simp⟩
  refine (nodup_componentPaths h).map_on fun p hp q hq heq => ?_
  exact intercalate_inj_of_isNormal (hpath p hp).1 (hpath q hq).1 (hpath p hp).2
    (hpath q hq).2 heq

/-- The names go up by code point, none of them twice. -/
theorem pairwise_lt_names_components {t : FileTree} (h : t.IsProper) (root : Path) :
    ((t.components ignored root).map FoundComponent.name).Pairwise (· < ·) := by
  have hnodup : ((t.components ignored root).map FoundComponent.name).Nodup :=
    (names_components_perm t root).nodup_iff.mpr (nodup_componentNames h)
  refine ((pairwise_le_names_components t root).and hnodup).imp ?_
  rintro a b ⟨hle, hne⟩
  exact String.not_le.mp fun hge => hne (String.le_antisymm hle hge)

/-! ## §4 The order of listing -/

mutual
/-- The trees differ only in the order in which the entries of directories
are listed, at any depth. -/
inductive Relisted : FileTree → FileTree → Prop where
  | refl (t : FileTree) : Relisted t t
  | directory {entries entries' others : List (String × FileTree)} : entries.Perm entries' →
      RelistedEntries entries' others → Relisted (.directory entries) (.directory others)

/-- The entries have the same names, and differ so one by one. -/
inductive RelistedEntries : List (String × FileTree) → List (String × FileTree) → Prop where
  | nil : RelistedEntries [] []
  | cons {name : String} {t u : FileTree} {entries others : List (String × FileTree)} :
      Relisted t u → RelistedEntries entries others →
      RelistedEntries ((name, t) :: entries) ((name, u) :: others)
end

theorem Relisted.of_perm {entries others : List (String × FileTree)}
    (h : entries.Perm others) :
    Relisted (FileTree.directory entries) (FileTree.directory others) := by
  have hsame : RelistedEntries others others := by
    clear h
    induction others with
    | nil => exact .nil
    | cons e rest ih => exact .cons (.refl e.2) ih
  exact .directory h hsame

theorem Relisted.exists_directory {entries : List (String × FileTree)} {u : FileTree}
    (h : Relisted (FileTree.directory entries) u) : ∃ others, u = FileTree.directory others := by
  cases h with
  | refl => exact ⟨entries, rfl⟩
  | directory _ _ => exact ⟨_, rfl⟩

theorem Relisted.isFile_eq {t u : FileTree} (h : t.Relisted u) : t.isFile = u.isFile := by
  cases h <;> rfl

theorem pathsOfEntry_perm {name : String} {t u : FileTree} (hfile : t.isFile = u.isFile)
    (h : (t.componentPaths ignored).Perm (u.componentPaths ignored)) :
    (pathsOfEntry ignored (name, t)).Perm (pathsOfEntry ignored (name, u)) := by
  simp only [pathsOfEntry, hfile]
  split_ifs
  · exact .refl _
  · exact .refl _
  · exact .refl _
  · exact h.map _

mutual
/-- **Listing in another order** finds the same paths. -/
theorem Relisted.componentPaths_perm {t u : FileTree} (h : t.Relisted u) :
    (t.componentPaths ignored).Perm (u.componentPaths ignored) := by
  cases h with
  | refl => exact .refl _
  | directory hperm hentries =>
    rw [componentPaths_directory, componentPaths_directory]
    exact (hperm.flatMap_right _).trans hentries.flatMap_perm

theorem RelistedEntries.flatMap_perm {entries others : List (String × FileTree)}
    (h : RelistedEntries entries others) :
    (entries.flatMap (pathsOfEntry ignored)).Perm (others.flatMap (pathsOfEntry ignored)) := by
  cases h with
  | nil => exact .refl _
  | cons hfirst hrest =>
    rw [List.flatMap_cons, List.flatMap_cons]
    exact (pathsOfEntry_perm hfirst.isFile_eq hfirst.componentPaths_perm).append
      hrest.flatMap_perm
end

/-- Sorting hides the order of listing, and the place of the root. -/
theorem Relisted.names_components {t u : FileTree} (h : t.Relisted u) (root root' : Path) :
    (t.components ignored root).map FoundComponent.name =
      (u.components ignored root').map FoundComponent.name := by
  have hsearched : (t.componentNames ignored).Perm (u.componentNames ignored) :=
    h.componentPaths_perm.map _
  have hperm := ((names_components_perm t root).trans hsearched).trans
    (names_components_perm u root').symm
  exact hperm.eq_of_pairwise (fun _ _ _ _ => String.le_antisymm)
    (pairwise_le_names_components t root) (pairwise_le_names_components u root')

end FileTree

/-! ## §5 Searching -/

theorem discover_of_find? {t : FileTree} {base : Path} {name : String}
    {entries : List (String × FileTree)} (hname : '\x00' ∉ name.toList)
    (h : t.find? (Path.walk base name) = some (.directory entries)) (ignored : List String) :
    discover t base name ignored =
      .ok ⟨Path.walk base name,
        (FileTree.directory entries).components ignored (Path.walk base name)⟩ := by
  rw [discover, if_neg (by simpa using hname)]
  simp only [h]

/-- **A search finds the components, and nothing else.** Where a name leads
to a directory, the search from there lists names in strictly increasing
order: those of the files `Component.js` at or below the directory, in
directories none of which is ignored or has a name that starts with a
point. The name and the place of the directory itself do not matter, nor
does the order in which the entries of directories are listed. -/
theorem discover_finds_exactly {t : FileTree} {base : Path} {name : String}
    {entries : List (String × FileTree)} (hname : '\x00' ∉ name.toList)
    (hroot : t.find? (Path.walk base name) = some (.directory entries))
    (hproper : (FileTree.directory entries).IsProper) (ignored : List String) :
    ∃ found, discover t base name ignored = .ok found ∧
      found.root = Path.walk base name ∧
      found.names.Pairwise (· < ·) ∧
      (∀ n, n ∈ found.names ↔ ∃ dirs : List String,
        n = "/".intercalate (dirs ++ ["Component.js"]) ∧
          t.isFileAt (Path.walk base name ++ (dirs ++ ["Component.js"])) = true ∧
          ∀ d ∈ dirs, d ∉ ignored ∧ d.toList.head? ≠ some '.') ∧
      ∀ (u : FileTree) (base' : Path) (name' : String) (relisted : FileTree),
        '\x00' ∉ name'.toList → u.find? (Path.walk base' name') = some relisted →
          (FileTree.directory entries).Relisted relisted →
            ∃ found', discover u base' name' ignored = .ok found' ∧
              found'.names = found.names := by
  have hfile (p : Path) : t.isFileAt (Path.walk base name ++ p) =
      (FileTree.directory entries).isFileAt p := by
    simp only [FileTree.isFileAt, FileTree.contentAt?, FileTree.find?_append, hroot,
      Option.bind_some]
  refine ⟨_, discover_of_find? hname hroot ignored, rfl,
    FileTree.pairwise_lt_names_components hproper _, fun n => ?_, ?_⟩
  · rw [Discovery.names, (FileTree.names_components_perm _ _).mem_iff, FileTree.componentNames,
      List.mem_map]
    constructor
    · rintro ⟨p, hp, rfl⟩
      obtain ⟨dirs, rfl, hcomponent, hdirs⟩ := (FileTree.mem_componentPaths hproper).mp hp
      exact ⟨dirs, rfl, (hfile _).trans hcomponent, hdirs⟩
    · rintro ⟨dirs, rfl, hcomponent, hdirs⟩
      exact ⟨_, (FileTree.mem_componentPaths hproper).mpr
        ⟨dirs, rfl, (hfile _).symm.trans hcomponent, hdirs⟩, rfl⟩
  · intro u base' name' relisted hname' hroot' hrelisted
    obtain ⟨others, rfl⟩ := hrelisted.exists_directory
    exact ⟨_, discover_of_find? hname' hroot' ignored, (hrelisted.names_components _ _).symm⟩

/-- A component at the top, one below a directory that has the name of a
component, and two in directories that are not searched; the search starts
from a directory that would not be searched itself, and another one from
where its entries are listed the other way round. -/
theorem discover_finds_exactly_two :
    let component : FileTree := .file []
    let below : FileTree := .directory [("Component.js", component)]
    let entries := [("lib", below), ("Component.js", component), (".git", below),
      ("a", .directory [("Component.js", below)])]
    let t : FileTree := .directory [(".srv", .directory entries)]
    t.find? (Path.walk [] ".srv") = some (.directory entries) ∧
      (FileTree.directory entries).IsProper ∧
      ∃ found, discover t [] ".srv" ["lib"] = .ok found ∧ found.names.Pairwise (· < ·) ∧
        "Component.js" ∈ found.names ∧ "a/Component.js/Component.js" ∈ found.names ∧
        ∃ found', discover (.directory entries.reverse) [] "/" ["lib"] = .ok found' ∧
          found'.names = found.names := by
  intro component below entries t
  have hroot : t.find? (Path.walk [] ".srv") = some (.directory entries) := rfl
  have hproper : (FileTree.directory entries).IsProper := by
    simp +decide [entries, below, component, Table.DistinctNames]
  obtain ⟨found, hfound, -, hsorted, hmem, hother⟩ :=
    discover_finds_exactly (by decide) hroot hproper ["lib"]
  refine ⟨hroot, hproper, found, hfound, hsorted, ?_, ?_, hother _ [] "/" _ (by decide) rfl ?_⟩
  · exact (hmem _).mpr ⟨[], rfl, by decide, by simp⟩
  · exact (hmem _).mpr ⟨["a", "Component.js"], rfl, by decide, by decide⟩
  · exact .of_perm (List.reverse_perm entries).symm

end ManifestDeps
