import CaseSuite.Config.Files
import CaseSuite.Proofs.Disk.Leads
import CaseSuite.Proofs.Disk.Tour
import CaseSuite.Proofs.Text.Order
/-!
Which files make a suite, and in which order they are joined: by the names on the way to them, as
bytes.
-/
set_option autoImplicit false

namespace CaseSuite

/-- The names on a path as they are compared: by their bytes. -/
def Path.nameBytes (path : String) : List (List UInt8) :=
  (names path).map fun name => name.toUTF8.data.toList

theorem isConfigName_iff {name : String} : isConfigName name = true ↔
    ∃ stem, stem ≠ "" ∧ (name = stem ++ ".yml" ∨ name = stem ++ ".yaml") := by
  have hyml : '.' ∉ "yml".toList := by decide
  have hyaml : '.' ∉ "yaml".toList := by decide
  simp only [isConfigName, Bool.or_eq_true, beq_iff_eq, Path.extension?_eq_some, hyml, hyaml,
    not_false_eq_true, true_and, ← exists_or, ← and_or_left, String.append_assoc]
  rfl

/-- A file of the suite in a directory, by the way to it from there. -/
structure Disk.IsSuiteFile (d : Disk) (top way : Location) : Prop where
  isFile : ∃ bytes, d.get? (top ++ way) = some (.file bytes)
  noDraft : ∀ name ∈ way, name.toList.head? ≠ some '_'
  ending : ∃ above name, way = above ++ [name] ∧
    ∃ stem, stem ≠ "" ∧ (name = stem ++ ".yml" ∨ name = stem ++ ".yaml")

namespace Disk

variable {d : Disk} {path : String} {top : Location}

theorem mem_tour_iff_isSuiteFile (hd : d.IsTree) {way : Location} :
    (∃ item, (way, item) ∈ d.tour (fun name => !isDraftName name) top ∧
      isConfigFile way item = true) ↔ d.IsSuiteFile top way := by
  have hdraft (name : String) :
      (!isDraftName name) = true ↔ name.toList.head? ≠ some '_' := by simp [isDraftName]
  simp only [hd.mem_tour, hdraft]
  constructor
  · rintro ⟨item, ⟨hway, hkeeps, hitem⟩, hfile⟩
    obtain ⟨above, name, rfl⟩ := (List.eq_nil_or_concat' way).resolve_left hway
    cases item with
    | file bytes =>
      refine ⟨⟨bytes, hitem⟩, hkeeps, above, name, rfl, isConfigName_iff.mp ?_⟩
      simpa [isConfigFile] using hfile
    | dir | link _ => simp [isConfigFile] at hfile
  · rintro ⟨⟨bytes, hitem⟩, hkeeps, above, name, rfl, hending⟩
    refine ⟨.file bytes, ⟨by simp, hkeeps, hitem⟩, ?_⟩
    simpa [isConfigFile] using isConfigName_iff.mpr hending

/-- A directory stands for its suite files and those in the directories below that are no drafts, in
the order of the names on their paths. -/
theorem configFiles_directory (hd : d.IsTree) (h : d.directory path = .ok top) :
    ∃ files, d.configFiles path = .ok files ∧ files.Nodup ∧
      files.Pairwise (fun f g => Path.nameBytes f < Path.nameBytes g) ∧
      ∀ file, file ∈ files ↔ ∃ way, d.IsSuiteFile top way ∧ file = way.foldl Path.join path ∧
        Path.names file = Path.names path ++ way := by
  have hpath : path ≠ "" := (directory_eq_ok.mp h).1.ne_empty
  have hresolve := directory_eq_ok_iff_resolve.mp h
  let found := d.tour (fun name => !isDraftName name) top
  let files := (found.filter fun e => isConfigFile e.1 e.2).map fun e => e.1.foldl Path.join path
  have hfiles : d.configFiles path = .ok files := by
    rw [configFiles, hresolve]
  have hnames {e : Location × Item} (he : e ∈ found) :
      Path.names (e.1.foldl Path.join path) = Path.names path ++ e.1 := by
    obtain ⟨hway, -, hitem⟩ := hd.mem_tour.mp he
    have hmem := mem_of_get? hitem (by simp [hway])
    exact Path.names_foldl_join
      (fun name hname => hd.named _ hmem name (List.mem_append_right _ hname)) hpath
  have hascending : files.Pairwise (fun f g => Path.nameBytes f < Path.nameBytes g) := by
    refine List.pairwise_map.mpr ((ascending_tour d _ top).filter _ |>.imp_of_mem ?_)
    intro e f he hf hlt
    rw [Path.nameBytes, Path.nameBytes, hnames (List.mem_filter.mp he).1,
      hnames (List.mem_filter.mp hf).1, List.map_append, List.map_append]
    exact List.append_left_lt (List.map_lt (fun _ _ => Utf8.bytes_lt) hlt)
  refine ⟨files, hfiles, hascending.imp fun hlt heq => ?_, hascending, fun file => ?_⟩
  · rw [heq] at hlt
    exact List.lt_irrefl _ hlt
  · constructor
    · intro hfile
      obtain ⟨e, he, rfl⟩ := List.mem_map.mp hfile
      obtain ⟨hfound, hconfig⟩ := List.mem_filter.mp he
      exact ⟨e.1, (mem_tour_iff_isSuiteFile hd).mp ⟨e.2, hfound, hconfig⟩, rfl, hnames hfound⟩
    · rintro ⟨way, hway, rfl, -⟩
      obtain ⟨item, hfound, hconfig⟩ := (mem_tour_iff_isSuiteFile hd).mpr hway
      exact List.mem_map.mpr ⟨(way, item), List.mem_filter.mpr ⟨hfound, hconfig⟩, rfl⟩

/-- A suite with drafts, a link, and directories with names of files. -/
def suiteDisk : Disk where
  items := [
    (["_suite"], .dir),
    (["_suite", "a.yml"], .file "cases: []".toUTF8),
    (["_suite", "a"], .dir),
    (["_suite", "a", "z.yml"], .file .empty),
    (["_suite", "a", "_z.yml"], .file .empty),
    (["_suite", "b.yaml"], .dir),
    (["_suite", "b.yaml", "c.yaml"], .file .empty),
    (["_suite", "b.yaml", ".yml"], .file .empty),
    (["_suite", "_drafts"], .dir),
    (["_suite", "_drafts", "d.yml"], .file .empty),
    (["_suite", "e.yml"], .link "/_suite/a/z.yml")]
  home := []

theorem isTree_suiteDisk : suiteDisk.IsTree where
  named := by
    have hnames : ∀ entry ∈ suiteDisk.items, ∀ name ∈ entry.1,
        name ≠ "" ∧ name ≠ "." ∧ '/' ∉ name.toList := by decide +kernel
    intro entry hentry name hname
    obtain ⟨hempty, hdot, hslash⟩ := hnames entry hentry name hname
    exact ⟨hempty, hdot, hslash⟩
  inside := by
    simp only [suiteDisk, List.forall_mem_cons]
    exact ⟨rfl, rfl, rfl, rfl, rfl, rfl, rfl, rfl, rfl, rfl, rfl, by simp⟩

theorem configFiles_directory_suiteDisk :
    suiteDisk.IsTree ∧ suiteDisk.directory "/_suite" = .ok ["_suite"] ∧
      ∃ files, suiteDisk.configFiles "/_suite" = .ok files ∧ files.Nodup ∧
        files.Pairwise (fun f g => Path.nameBytes f < Path.nameBytes g) ∧
        ∀ file, file ∈ files ↔ ∃ way, suiteDisk.IsSuiteFile ["_suite"] way ∧
          file = way.foldl Path.join "/_suite" ∧
          Path.names file = Path.names "/_suite" ++ way :=
  have htop : suiteDisk.directory "/_suite" = .ok ["_suite"] := rfl
  ⟨isTree_suiteDisk, htop, configFiles_directory isTree_suiteDisk htop⟩

example : (suiteDisk.configFiles "/_suite").toOption =
    some ["/_suite/a/z.yml", "/_suite/a.yml", "/_suite/b.yaml/c.yaml"] := by
  decide +kernel

end Disk

end CaseSuite
