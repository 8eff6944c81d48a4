/-
ManifestDeps.Proofs.SiblingTheorems — a component that was found, and the
descriptor beside it.

A search gives the path of a component's file and a name for the component.
Whoever goes on from there uses the name only: it is resolved to a path
again, and the name of the descriptor is made from it by exchanging what
stands behind the last slash. Both come back to the directory in which the
search was: the name is resolved to the path of the file
(`StandsIn.resolve_name`), and that of the descriptor to the path beside
it (`StandsIn.resolve_descriptor`). Hence a pool over the directory has no
descriptor for a component exactly when none stands beside its file
(`component_found_where_it_stands`).
-/
import ManifestDeps.Proofs.DiscoveryTheorems
import ManifestDeps.Proofs.ModuleNameTheorems

namespace ManifestDeps

open ModuleName (componentFilename descriptorFilename descriptorOf)

/-! ## §1 Components that were found -/

/-- A search that ends well was one of a directory, which the name leads to. -/
theorem exists_entries_of_discover {t : FileTree} {base : Path} {name : String}
    {ignored : List String} {found : Discovery} (h : discover t base name ignored = .ok found) :
    found.root = Path.walk base name ∧
      ∃ entries, t.find? found.root = some (.directory entries) ∧
        found.components = (FileTree.directory entries).components ignored found.root := by
  rw [discover] at h
  split at h
  · cases h
  · dsimp only at h
    split at h
    · cases h
    · cases h
    · next entries hroot =>
      cases h
      exact ⟨rfl, entries, hroot, rfl⟩

/-- The component stands in this directory below a root: this is where its
file is, and what its name is made of. -/
structure FoundComponent.StandsIn (c : FoundComponent) (root dirs : Path) : Prop where
  isNormal : dirs.IsNormal
  path_eq : c.path = root ++ (dirs ++ [componentFilename])
  name_eq : c.name = "/".intercalate (dirs ++ [componentFilename])

/-- The path of a file in a directory is normal. -/
theorem isNormal_append_filename {dirs : Path} (h : dirs.IsNormal) {filename : String}
    (hfile : Path.IsEntry filename) : Path.IsNormal (dirs ++ [filename]) :=
  Path.isNormal_append.mpr ⟨h, by simpa [Path.IsNormal] using hfile⟩

/-- The name of a file in a directory has the segments of its path. -/
theorem segmentsOf_append_filename {dirs : Path} (h : dirs.IsNormal) {filename : String}
    (hfile : Path.IsEntry filename) :
    segmentsOf ("/".intercalate (dirs ++ [filename])) = dirs ++ [filename] :=
  segmentsOf_intercalate (by simp) fun s hs =>
    (isNormal_append_filename h hfile s hs).slash_notMem

/-- Below any root, the name of a file in a directory leads to its path. -/
theorem Pool.resolve_append_filename {dirs : Path} (h : dirs.IsNormal) {filename : String}
    (hfile : Path.IsEntry filename) (root : Path) :
    Pool.resolve root ("/".intercalate (dirs ++ [filename])) =
      .ok (root ++ (dirs ++ [filename])) := by
  have hsegments := segmentsOf_append_filename h hfile
  have hnormal := hsegments ▸ isNormal_append_filename h hfile
  rw [Pool.resolve_of_isNormal hnormal, hsegments]

namespace FoundComponent.StandsIn

variable {c : FoundComponent} {root dirs : Path}

theorem descriptorOf_name (h : c.StandsIn root dirs) :
    descriptorOf c.name = "/".intercalate (dirs ++ [descriptorFilename]) := by
  rw [h.name_eq, descriptorOf]
  exact ModuleName.withFilename_intercalate (fun s hs => (h.isNormal s hs).ne_empty)
    (by decide) descriptorFilename

theorem resolve_name (h : c.StandsIn root dirs) : Pool.resolve root c.name = .ok c.path := by
  rw [h.name_eq, h.path_eq, Pool.resolve_append_filename h.isNormal (by decide)]

/-- The name of the descriptor leads to the path beside the file. -/
theorem resolve_descriptor (h : c.StandsIn root dirs) :
    Pool.resolve root (descriptorOf c.name) = .ok (c.path.dropLast ++ [descriptorFilename]) := by
  have hbeside : c.path.dropLast = root ++ dirs := by
    rw [h.path_eq, ← List.append_assoc, List.dropLast_concat]
  rw [h.descriptorOf_name, Pool.resolve_append_filename h.isNormal (by decide), hbeside,
    List.append_assoc]

end FoundComponent.StandsIn

/-- Every component that is found stands in a directory below the root. -/
theorem Discovery.exists_standsIn {t : FileTree} (ht : t.IsProper) {base : Path} {name : String}
    {ignored : List String} {found : Discovery} (h : discover t base name ignored = .ok found)
    {c : FoundComponent} (hc : c ∈ found.components) : ∃ dirs, c.StandsIn found.root dirs := by
  obtain ⟨-, entries, hroot, hcomponents⟩ := exists_entries_of_discover h
  have hproper := (ht.find? hroot).2
  obtain ⟨p, hp, rfl⟩ := FileTree.mem_components.mp (hcomponents ▸ hc)
  obtain ⟨dirs, rfl, hfile, -⟩ := (FileTree.mem_componentPaths hproper).mp hp
  have hnormal := hproper.isNormal_of_isFileAt hfile
  exact ⟨dirs, (Path.isNormal_append.mp hnormal).1, rfl, rfl⟩

/-! ## §2 Descriptors that are missing -/

namespace Pool

variable {pool : Pool} {c : String}

/-- Loading a component reports that it has no descriptor. -/
def Misses (pool : Pool) (c : String) : Prop :=
  ∃ report, pool.load c = .ok (.skipped report) ∧ report.code = .manifestNotFound

/-- This is reported when the pool does not find the descriptor, and for no
other reason. -/
theorem misses_iff (hc : c ≠ ModuleName.baseComponent) :
    pool.Misses c ↔ ∃ name, pool.find (descriptorOf c) = .error (.resourceNotFound name) := by
  have hbase : ModuleName.isBaseComponent c = false := by simp [ModuleName.isBaseComponent, hc]
  simp only [Misses, load, hbase, Bool.false_eq_true, if_false]
  cases hfind : pool.find (descriptorOf c) with
  | error f =>
    cases f with
    | resourceNotFound name => simp [notFoundReport]
    | _ => simp
  | ok resource =>
    cases hcontent : resource.content with
    | error f => simp [hcontent]
    | ok bytes =>
      simp only [hcontent]
      cases hparse : Manifest.parse (descriptorOf c) (.bytes bytes) with
      | ok m => simp
      | error e => cases e <;> simp [parseErrorReport]

/-- A pool over a directory finds what is a file there. -/
theorem find_ofDirectory {tree : FileTree} {root p : Path} {name : String}
    (h : resolve root name = .ok p) :
    (ofDirectory tree root).find name =
      match tree.contentAt? p with
      | some content => .ok { name := name, path := some p, content := .ok content }
      | none => .error (.resourceNotFound name) := by
  change (resolve root name).bind _ = _
  rw [h]
  rfl

end Pool

/-- **A component is found where it stands.** The name that a search gives
to a component is resolved to the path of its file. Unless it is the base
component, a descriptor stands beside the file exactly when loading the
component by its name does not report that there is none. -/
theorem component_found_where_it_stands {t : FileTree} (ht : t.IsProper) {base : Path}
    {name : String} {ignored : List String} {found : Discovery}
    (hfound : discover t base name ignored = .ok found) {c : FoundComponent}
    (hc : c ∈ found.components) :
    Pool.resolve found.root c.name = .ok c.path ∧
      (c.name ≠ ModuleName.baseComponent →
        (c.hasDescriptor t = true ↔ ¬ (Pool.ofDirectory t found.root).Misses c.name)) := by
  obtain ⟨dirs, hstands⟩ := Discovery.exists_standsIn ht hfound hc
  refine ⟨hstands.resolve_name, fun hbase => ?_⟩
  rw [Pool.misses_iff hbase, Pool.find_ofDirectory hstands.resolve_descriptor,
    FoundComponent.hasDescriptor, FileTree.isFileAt]
  cases t.contentAt? (c.path.dropLast ++ [descriptorFilename]) with
  | none => simp
  | some content => simp

/-- A component at the top, beside a directory that has the name of a
descriptor, and one further down with a descriptor. -/
theorem component_found_where_it_stands_two :
    let t : FileTree := .directory [("Component.js", .file []), ("manifest.json", .directory []),
      ("a", .directory [("Component.js", .file []), ("manifest.json", .file [])])]
    let top : FoundComponent := ⟨["Component.js"], "Component.js"⟩
    let below : FoundComponent := ⟨["a", "Component.js"], "a/Component.js"⟩
    t.IsProper ∧
      ∃ found, discover t [] "/" [] = .ok found ∧
        top ∈ found.components ∧ below ∈ found.components ∧
        Pool.resolve found.root below.name = .ok below.path ∧
        (Pool.ofDirectory t found.root).Misses top.name ∧
        ¬ (Pool.ofDirectory t found.root).Misses below.name := by
  intro t top below
  have ht : t.IsProper := by simp +decide [t, Table.DistinctNames]
  have hfound : discover t [] "/" [] = .ok ⟨[], t.components [] []⟩ :=
    discover_of_find? (by decide) rfl []
  have htop : top ∈ t.components [] [] := FileTree.mem_components.mpr ⟨_, by decide, rfl⟩
  have hbelow : below ∈ t.components [] [] :=
    FileTree.mem_components.mpr ⟨["a", "Component.js"], by decide, rfl⟩
  obtain ⟨-, hmisses⟩ := component_found_where_it_stands ht hfound htop
  obtain ⟨hresolve, hfinds⟩ := component_found_where_it_stands ht hfound hbelow
  have hnone : ¬ top.hasDescriptor t = true := by decide
  refine ⟨ht, _, hfound, htop, hbelow, hresolve, ?_, (hfinds (by decide)).mp (by decide)⟩
  exact not_not.mp fun h => hnone ((hmisses (by decide)).mpr h)

end ManifestDeps
