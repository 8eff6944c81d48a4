/-
ManifestDeps.Proofs.ModuleNameTheorems — packages of module paths, and the
files beside each other in them.

The package of a module path is made of all its segments but the last
(`packageOf_intercalate`). So a path with another filename has the same
segments with the last one exchanged (`withFilename_intercalate`), as long
as the package has a name: a first segment that is empty counts as no
package.

One kind of path has segments in front and an empty package all the same:
that whose only slash is its first character (`IsRootLevel`). Its package is
the empty text, as for a path without a slash, and the slash is lost with the
filename. All other paths, those with empty segments among them, keep what
stands in front (`segmentsOf_withFilename`).
-/
import ManifestDeps.ModuleName
import ManifestDeps.Proofs.PathTheorems

namespace ManifestDeps.ModuleName

/-- A text without a slash is passed over from its end on. -/
theorem dropWhile_reverse_of_notMem {cs : List Char} (h : '/' ∉ cs) (rest : List Char) :
    (cs.reverse ++ rest).dropWhile (· != '/') = rest.dropWhile (· != '/') := by
  refine List.dropWhile_append_of_pos fun c hc => ?_
  have hne : c ≠ '/' := fun heq => h (heq ▸ List.mem_reverse.mp hc)
  simpa using hne

theorem packageOf_of_notMem {s : String} (h : '/' ∉ s.toList) : packageOf s = "" := by
  have hskip := dropWhile_reverse_of_notMem h []
  rw [List.append_nil] at hskip
  rw [packageOf, hskip]
  rfl

/-- The package is what stands before the last slash. -/
theorem packageOf_append (package : String) {s : String} (h : '/' ∉ s.toList) :
    packageOf (package ++ "/" ++ s) = package := by
  have hreverse : (package ++ "/" ++ s).toList.reverse =
      s.toList.reverse ++ '/' :: package.toList.reverse := by
    simp
  rw [packageOf, hreverse, dropWhile_reverse_of_notMem h]
  simp

/-- Segments in front of the last one make up the package. -/
theorem packageOf_intercalate (parents : List String) {last : String}
    (h : '/' ∉ last.toList) :
    packageOf ("/".intercalate (parents ++ [last])) = "/".intercalate parents := by
  cases parents with
  | nil => simpa [String.intercalate_nil] using packageOf_of_notMem h
  | cons first rest =>
    rw [String.intercalate_append_of_ne_nil (by simp) (by simp), String.intercalate_singleton,
      packageOf_append _ h]

/-- Segments with a name do not vanish between slashes. -/
theorem intercalate_ne_empty {first : String} (h : first ≠ "") (rest : List String) :
    "/".intercalate (first :: rest) ≠ "" := by
  cases rest with
  | nil => simpa [String.intercalate_singleton] using h
  | cons second more => simp [String.intercalate_cons_cons]

/-- **Another file in the same package**: all segments but the last stay. -/
theorem withFilename_intercalate {parents : List String} (hparents : ∀ s ∈ parents, s ≠ "")
    {last : String} (hlast : '/' ∉ last.toList) (filename : String) :
    withFilename ("/".intercalate (parents ++ [last])) filename =
      "/".intercalate (parents ++ [filename]) := by
  rw [withFilename, packageOf_intercalate parents hlast]
  cases parents with
  | nil => simp [String.intercalate_nil]
  | cons first rest =>
    rw [if_neg (intercalate_ne_empty (hparents first List.mem_cons_self) rest),
      String.intercalate_append_of_ne_nil (by simp) (by simp), String.intercalate_singleton]

/-! ## Any path -/

/-- The segment of a path behind its last slash. -/
def filenameOf (path : String) : String :=
  (segmentsOf path).getLastD ""

/-- The only slash of a path is its first character. -/
def IsRootLevel (path : String) : Prop :=
  ∃ filename, '/' ∉ filename.toList ∧ path = "/" ++ filename

/-- A path differs from another in its last segment alone, which is this
filename. -/
structure ExchangesLast (path filename other : String) : Prop where
  length_eq : (segmentsOf other).length = (segmentsOf path).length
  before_eq : ∀ i, i + 1 < (segmentsOf path).length →
    (segmentsOf other)[i]? = (segmentsOf path)[i]?
  last_eq : (segmentsOf other).getLast? = some filename

theorem segmentsOf_ne_nil (path : String) : segmentsOf path ≠ [] := by
  simp [segmentsOf, splitSlash_eq_splitOn]

theorem parents_append_filenameOf (path : String) :
    (segmentsOf path).dropLast ++ [filenameOf path] = segmentsOf path := by
  have hne := segmentsOf_ne_nil path
  rw [filenameOf, List.getLastD_eq_getLast?, List.getLast?_eq_some_getLast hne, Option.getD_some,
    List.dropLast_concat_getLast]

theorem slash_notMem_filenameOf (path : String) : '/' ∉ (filenameOf path).toList := by
  refine @slash_notMem_of_mem_segmentsOf path _ ?_
  rw [← parents_append_filenameOf path]
  exact List.mem_append_right _ List.mem_cons_self

/-- A filename is a path of one segment. -/
theorem segmentsOf_of_notMem {filename : String} (h : '/' ∉ filename.toList) :
    segmentsOf filename = [filename] := by
  have hsplit := segmentsOf_intercalate (p := [filename]) (by simp) (by simpa using h)
  rwa [String.intercalate_singleton] at hsplit

theorem exchangesLast_iff {path filename other : String} :
    ExchangesLast path filename other ↔
      segmentsOf other = (segmentsOf path).dropLast ++ [filename] := by
  constructor
  · rintro ⟨hlength, hbefore, hlast⟩
    have hparents : (segmentsOf other).dropLast = (segmentsOf path).dropLast := by
      refine List.ext_getElem? fun i => ?_
      rw [List.getElem?_dropLast, List.getElem?_dropLast, hlength]
      split
      · exact hbefore i (by omega)
      · rfl
    rw [← parents_append_filenameOf other, hparents, filenameOf, List.getLastD_eq_getLast?, hlast,
      Option.getD_some]
  · intro h
    have hpos := List.length_pos_iff.mpr (segmentsOf_ne_nil path)
    refine ⟨?_, fun i hi => ?_, ?_⟩
    · rw [h, List.length_append, List.length_dropLast, List.length_singleton]
      omega
    · rw [h, List.getElem?_append_left (by rw [List.length_dropLast]; omega),
        List.getElem?_dropLast, if_pos (by omega)]
    · rw [h, List.getLast?_concat]

/-- The package of any path. -/
theorem packageOf_eq_intercalate (path : String) :
    packageOf path = "/".intercalate (segmentsOf path).dropLast := by
  have h := packageOf_intercalate (segmentsOf path).dropLast (slash_notMem_filenameOf path)
  rwa [parents_append_filenameOf, intercalate_segmentsOf] at h

theorem isRootLevel_iff {path : String} :
    IsRootLevel path ↔ (segmentsOf path).dropLast = [""] := by
  constructor
  · rintro ⟨filename, hfilename, rfl⟩
    rw [segmentsOf_slash_append, segmentsOf_of_notMem hfilename]
    rfl
  · intro h
    refine ⟨filenameOf path, slash_notMem_filenameOf path, ?_⟩
    have hsegments := parents_append_filenameOf path
    rw [h] at hsegments
    calc path = "/".intercalate (segmentsOf path) := (intercalate_segmentsOf path).symm
      _ = "/" ++ filenameOf path := by
        rw [← hsegments, List.singleton_append, String.intercalate_cons_cons,
          String.intercalate_singleton, String.empty_append]

/-- A package is empty for two reasons. -/
theorem packageOf_eq_empty_iff {path : String} :
    packageOf path = "" ↔ (segmentsOf path).dropLast = [] ∨ IsRootLevel path := by
  rw [packageOf_eq_intercalate, isRootLevel_iff]
  cases (segmentsOf path).dropLast with
  | nil => simp [String.intercalate_nil]
  | cons first rest =>
    cases rest with
    | nil => simp [String.intercalate_singleton]
    | cons second more => simp [String.intercalate_cons_cons]

section

variable {path filename : String}

/-- **The segments of a path with another filename.** -/
theorem segmentsOf_withFilename (hfilename : '/' ∉ filename.toList) (h : ¬ IsRootLevel path) :
    segmentsOf (withFilename path filename) = (segmentsOf path).dropLast ++ [filename] := by
  have hparents : ∀ s ∈ (segmentsOf path).dropLast ++ [filename], '/' ∉ s.toList := by
    intro s hs
    rcases List.mem_append.mp hs with hs | hs
    · exact slash_notMem_of_mem_segmentsOf ((List.dropLast_sublist _).subset hs)
    · rwa [List.mem_singleton.mp hs]
  rw [withFilename]
  by_cases hpackage : packageOf path = ""
  · have htop := (packageOf_eq_empty_iff.mp hpackage).resolve_right h
    rw [if_pos hpackage, htop, List.nil_append, segmentsOf_of_notMem hfilename]
  · have hne : (segmentsOf path).dropLast ≠ [] := fun htop =>
      hpackage (packageOf_eq_empty_iff.mpr (.inl htop))
    rw [if_neg hpackage, packageOf_eq_intercalate, ← segmentsOf_intercalate (by simp) hparents,
      String.intercalate_append_of_ne_nil hne (by simp), String.intercalate_singleton]

/-- The slash in front is lost with the filename. -/
theorem IsRootLevel.withFilename_eq (h : IsRootLevel path) :
    withFilename path filename = filename := by
  rw [withFilename, if_pos (packageOf_eq_empty_iff.mpr (.inr h))]

/-- The package stays, whichever the filename is. -/
theorem packageOf_withFilename (h : '/' ∉ filename.toList) :
    packageOf (withFilename path filename) = packageOf path := by
  rw [withFilename]
  split
  · rename_i hpackage
    rw [packageOf_of_notMem h, hpackage]
  · exact packageOf_append _ h

theorem exchangesLast_withFilename_iff (hfilename : '/' ∉ filename.toList) :
    ExchangesLast path filename (withFilename path filename) ↔ ¬ IsRootLevel path := by
  rw [exchangesLast_iff]
  constructor
  · intro h hroot
    rw [hroot.withFilename_eq, segmentsOf_of_notMem hfilename, isRootLevel_iff.mp hroot] at h
    cases h
  · exact segmentsOf_withFilename hfilename

theorem withFilename_filenameOf_iff :
    withFilename path (filenameOf path) = path ↔ ¬ IsRootLevel path := by
  constructor
  · intro h hroot
    rw [hroot.withFilename_eq] at h
    have hone := segmentsOf_of_notMem (slash_notMem_filenameOf path)
    rw [h] at hone
    have hparents := isRootLevel_iff.mp hroot
    rw [hone] at hparents
    cases hparents
  · intro h
    refine segmentsOf_injective ?_
    rw [segmentsOf_withFilename (slash_notMem_filenameOf path) h, parents_append_filenameOf]

end

/-- **Another filename exchanges the last segment**, and nothing else, of every
path but those whose only slash is the first character; from these the slash is
lost too. So it is with the descriptor of a component, and with the filename
that a path has already, which gives the path back. The second of two filenames
is the one that counts, without exception. -/
theorem withFilename_exchanges_last (path : String) {filename : String}
    (h : '/' ∉ filename.toList) :
    (ExchangesLast path filename (withFilename path filename) ↔ ¬ IsRootLevel path) ∧
      (ExchangesLast path descriptorFilename (descriptorOf path) ↔ ¬ IsRootLevel path) ∧
      (withFilename path (filenameOf path) = path ↔ ¬ IsRootLevel path) ∧
      (∀ second,
        withFilename (withFilename path filename) second = withFilename path second) ∧
      (IsRootLevel path → withFilename path filename = filename ∧
        withFilename path (filenameOf path) = filenameOf path) := by
  refine ⟨exchangesLast_withFilename_iff h, exchangesLast_withFilename_iff (by decide),
    withFilename_filenameOf_iff, fun second => ?_,
    fun hroot => ⟨hroot.withFilename_eq, hroot.withFilename_eq⟩⟩
  rw [withFilename, packageOf_withFilename h]
  rfl

/-- Empty segments in front of others and between them. -/
theorem withFilename_exchanges_last_of_empty :
    '/' ∉ "View.js".toList ∧ ¬ IsRootLevel "//a//Component.js" ∧
      ExchangesLast "//a//Component.js" "View.js"
        (withFilename "//a//Component.js" "View.js") ∧
      ExchangesLast "//a//Component.js" "manifest.json" (descriptorOf "//a//Component.js") := by
  have hslash : '/' ∉ "View.js".toList := by decide
  have hroot : ¬ IsRootLevel "//a//Component.js" := by
    rw [isRootLevel_iff]
    decide
  obtain ⟨hexchanges, hdescriptor, -⟩ :=
    withFilename_exchanges_last "//a//Component.js" hslash
  exact ⟨hslash, hroot, hexchanges.mpr hroot, hdescriptor.mpr hroot⟩

/-- The descriptor of a component at the root of all paths is looked for
elsewhere: without the slash in front. -/
theorem descriptorOf_root_component_is_elsewhere :
    descriptorOf "/Component.js" = "manifest.json" ∧
      ¬ ExchangesLast "/Component.js" "manifest.json" (descriptorOf "/Component.js") ∧
      withFilename "/Component.js" (filenameOf "/Component.js") ≠ "/Component.js" := by
  have hroot : IsRootLevel "/Component.js" := ⟨"Component.js", by decide, by decide⟩
  exact ⟨hroot.withFilename_eq, fun h => (exchangesLast_withFilename_iff (by decide)).mp h hroot,
    fun h => withFilename_filenameOf_iff.mp h hroot⟩

end ManifestDeps.ModuleName
