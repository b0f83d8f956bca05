import ComponentFile.Batch
import ComponentFile.BuiltIn
import ComponentFile.Proofs.FileTrees
import Mathlib

/-!
# Files of a batch have no effect on each other

The component files below a root are compiled one by one.  If one of them is added, removed or
changed, be it to something that cannot be read or compiled, then nothing happens to the others.

**What an entry says.**  `BatchEntry.ofFile` is the entry of one file, made from the route to it and
its bytes, and from nothing else of the tree.

**What a batch is.**  `IsReport` — the entries are those of the component files below the root, in
the order of their paths.  `compileDirectory_isReport` shows that of every batch, over what is found
(`mem_findComponents_iff`, `pairwise_findComponents`) and how each file is compiled
(`compileFile_descendant`).

**Two batches.**  A report is decided by the files that it is about, because sorted lists with the
same members are equal.  So reports on trees that differ in one file differ in its entry only:
**`compileDirectory_sameBut`**.
-/

namespace ComponentFile

/-- The text of a file with the given bytes. -/
def readBytes : Option ByteArray → Except ReadError String
  | none => .error .denied
  | some bytes =>
    match String.fromUTF8? bytes with
    | some text => .ok text
    | none => .error .invalidText

section

variable (packageName : Option String) (settings : CompileSettings) (engines : Engines)

/-- The entry of a file below a root: an error if the file cannot be read as text, and otherwise
what that text is compiled to, under metadata made from it and from the file's route. -/
def BatchEntry.ofFile (root : Path) (route : Route) (bytes : Option ByteArray) : BatchEntry where
  path := root.descendant route
  result :=
    match readBytes bytes with
    | .error error => .error (.read (root.descendant route) error)
    | .ok source =>
      let metadata := Metadata.ofSource ("/".intercalate route) packageName source
      (compileSource source { metadata, settings, engines }).outcome.mapError .compile

/-- Entries for all component files below a place of a tree, in the order of their paths. -/
structure IsReport (tree : FileTree) (root : Path) (base : Route) (entries : List BatchEntry) :
    Prop where
  sorted : entries.Pairwise fun earlier later => compare earlier.path later.path = .lt
  mem_iff : ∀ entry, entry ∈ entries ↔
    ∃ route bytes, tree.node? (base ++ route) = some (.file bytes) ∧
      isComponentPath (root.descendant route) = true ∧
      entry = .ofFile packageName settings engines root route bytes

end

/-! ## Finding files -/

namespace FileTree

theorem node?_eq_file_iff {tree : FileTree} {route : Route} {bytes : Option ByteArray} :
    tree.node? route = some (.file bytes) ↔ tree.at? route = some (file bytes) := by
  rw [node?, Option.map_eq_some_iff]
  constructor
  · rintro ⟨sub, hsub, hnode⟩
    cases sub with
    | file other =>
      cases hnode
      exact hsub
    | directory entries => cases hnode
  · intro h
    exact ⟨file bytes, h, rfl⟩

theorem WellFormed.isName_of_node? {tree : FileTree} (hwf : tree.WellFormed) {base route : Route}
    {node : Node} (h : tree.node? (base ++ route) = some node) :
    ∀ name ∈ route, IsName name := by
  obtain ⟨sub, hsub, -⟩ := Option.map_eq_some_iff.1 h
  intro name hname
  exact (hwf.at? hsub).2 name (List.mem_append_right base hname)

end FileTree

/-- Files below a root are told apart by their paths. -/
theorem Path.descendant_inj {root : Path} {route other : Route}
    (hroute : ∀ name ∈ route, FileTree.IsName name) (hother : ∀ name ∈ other, FileTree.IsName name)
    (h : (root.descendant route).components = (root.descendant other).components) :
    route = other := by
  rw [components_descendant hroute, components_descendant hother] at h
  exact (List.map_inj_right fun _ _ => Step.name.inj).1 (List.append_cancel_left h)

section

variable {system : FileSystem} {root : Path} {base : Route}

/-- The component files that are found are those below what the root leads to. -/
theorem mem_findComponents_iff_at? {below : FileTree} (hwf : system.tree.WellFormed)
    (hroot : system.descend root = .ok below) {path : Path} :
    path ∈ findComponents system root ↔
      ∃ route bytes, below.at? route = some (.file bytes) ∧
        isComponentPath (root.descendant route) = true ∧ path = root.descendant route := by
  simp only [findComponents, hroot, List.mem_mergeSort, List.mem_filter, List.mem_map,
    FileTree.mem_files_iff (FileSystem.wellFormed_of_descend hwf hroot)]
  constructor
  · rintro ⟨⟨route, ⟨bytes, hbytes⟩, rfl⟩, hcomponent⟩
    exact ⟨route, bytes, hbytes, hcomponent, rfl⟩
  · rintro ⟨route, bytes, hbytes, hcomponent, rfl⟩
    exact ⟨⟨route, ⟨bytes, hbytes⟩, rfl⟩, hcomponent⟩

/-- **The component files that are found** are those that stand below the root. -/
theorem mem_findComponents_iff (hwf : system.tree.WellFormed) (hleads : system.Leads root base)
    {path : Path} :
    path ∈ findComponents system root ↔
      ∃ route bytes, system.tree.node? (base ++ route) = some (.file bytes) ∧
        isComponentPath (root.descendant route) = true ∧ path = root.descendant route := by
  simp only [FileTree.node?_eq_file_iff, FileTree.at?_append]
  cases hroot : system.descend root with
  | error error =>
    have hnone : system.tree.at? base = none := by
      cases hat : system.tree.at? base with
      | none => rfl
      | some below => rw [(hleads below).2 hat] at hroot; cases hroot
    simp [findComponents, hroot, hnone]
  | ok below =>
    simp only [mem_findComponents_iff_at? hwf hroot, (hleads below).1 hroot, Option.bind_some]

theorem pairwise_mergeSort_pathLe (paths : List Path) :
    (paths.mergeSort pathLe).Pairwise fun earlier later => (compare earlier later).isLE = true := by
  refine @List.pairwise_mergeSort _ pathLe (fun a b c h h' => ?_) (fun a b => ?_) paths
  · exact Std.TransOrd.isLE_trans (α := Path) h h'
  · rw [pathLe, pathLe, Std.OrientedOrd.eq_swap (a := b)]
    cases compare a b <;> rfl

/-- Different routes lead to different paths, so these are sorted strictly. -/
theorem pairwise_mergeSort_descendants {routes : List Route} (hnodup : routes.Nodup)
    (hnames : ∀ route ∈ routes, ∀ name ∈ route, FileTree.IsName name) :
    (((routes.map root.descendant).filter isComponentPath).mergeSort pathLe).Pairwise
      fun earlier later => compare earlier later = .lt := by
  generalize hpaths : (routes.map root.descendant).filter isComponentPath = paths
  have hdistinct : paths.Pairwise fun a b => a.components ≠ b.components := by
    rw [← hpaths]
    refine List.Pairwise.filter _ (List.pairwise_map.2 ?_)
    refine hnodup.imp_of_mem fun ha hb hne heq => ?_
    exact hne (Path.descendant_inj (hnames _ ha) (hnames _ hb) heq)
  have hdistinct' := ((List.mergeSort_perm paths pathLe).pairwise_iff fun h => Ne.symm h).2
    hdistinct
  refine ((pairwise_mergeSort_pathLe paths).and hdistinct').imp fun {earlier later} h => ?_
  obtain ⟨hle, hne⟩ := h
  rcases Ordering.isLE_iff_eq_lt_or_eq_eq.1 hle with hlt | heq
  · exact hlt
  · exact absurd (Std.LawfulEqOrd.eq_of_compare (α := List Step) heq) hne

/-- They are found in the order of their paths, each of them once. -/
theorem pairwise_findComponents (hwf : system.tree.WellFormed) :
    (findComponents system root).Pairwise fun earlier later => compare earlier later = .lt := by
  rw [findComponents]
  cases hroot : system.descend root with
  | error error => exact List.Pairwise.nil
  | ok below =>
    have hbelow := FileSystem.wellFormed_of_descend hwf hroot
    refine pairwise_mergeSort_descendants (FileTree.nodup_files below hbelow) fun route hroute => ?_
    obtain ⟨bytes, hbytes⟩ := (FileTree.mem_files_iff hbelow).1 hroute
    exact (hbelow.at? hbytes).2

/-! ## Compiling files -/

variable {packageName : Option String} {settings : CompileSettings} {engines : Engines}

theorem readText_of_descend {path : Path} {bytes : Option ByteArray}
    (h : system.descend path = .ok (.file bytes)) : system.readText path = readBytes bytes := by
  rw [FileSystem.readText, h]
  cases bytes with
  | none => rfl
  | some bytes => rfl

theorem pathInPackage_descendant {route : Route} (h : ∀ name ∈ route, FileTree.IsName name) :
    pathInPackage root (root.descendant route) = "/".intercalate route := by
  have htext : Step.text ∘ Step.name = id := rfl
  rw [pathInPackage, Path.components_descendant h, relativeTo_append, List.map_map, htext,
    List.map_id]

/-- A file is compiled from its own bytes and its route below the root. -/
theorem compileFile_descendant (hwf : system.tree.WellFormed) (hleads : system.Leads root base)
    {route : Route} {bytes : Option ByteArray}
    (h : system.tree.node? (base ++ route) = some (.file bytes)) :
    compileFile system root (root.descendant route) packageName settings engines =
      (BatchEntry.ofFile packageName settings engines root route bytes).result := by
  have hnames := hwf.isName_of_node? h
  rw [FileTree.node?_eq_file_iff, FileTree.at?_append] at h
  obtain ⟨below, hbelow, hfile⟩ := Option.bind_eq_some_iff.1 h
  have hdescend := FileSystem.descend_descendant ((hleads below).2 hbelow) hfile hnames
  rw [compileFile, readText_of_descend hdescend, pathInPackage_descendant hnames,
    BatchEntry.ofFile]
  cases readBytes bytes with
  | error error => rfl
  | ok source =>
    dsimp only
    cases (compileSource source _).outcome with
    | error error => rfl
    | ok output => rfl

/-- **Every batch is a report** on the component files below its root. -/
theorem compileDirectory_isReport (hwf : system.tree.WellFormed)
    (hleads : system.Leads root base) :
    IsReport packageName settings engines system.tree root base
      (compileDirectory system root packageName settings engines) where
  sorted := List.pairwise_map.2 (pairwise_findComponents hwf)
  mem_iff entry := by
    rw [compileDirectory, compileFiles, List.mem_map]
    constructor
    · rintro ⟨path, hpath, rfl⟩
      obtain ⟨route, bytes, hfile, hcomponent, rfl⟩ := (mem_findComponents_iff hwf hleads).1 hpath
      refine ⟨route, bytes, hfile, hcomponent, ?_⟩
      rw [compileFile_descendant hwf hleads hfile]
      rfl
    · rintro ⟨route, bytes, hfile, hcomponent, rfl⟩
      refine ⟨root.descendant route,
        (mem_findComponents_iff hwf hleads).2 ⟨route, bytes, hfile, hcomponent, rfl⟩, ?_⟩
      rw [compileFile_descendant hwf hleads hfile]
      rfl

/-! ## Two trees -/

/-- What is sorted by its paths is decided by what it is. -/
theorem eq_of_sorted {α : Type} {path : α → Path} {entries others : List α}
    (h : entries.Pairwise fun earlier later => compare (path earlier) (path later) = .lt)
    (h' : others.Pairwise fun earlier later => compare (path earlier) (path later) = .lt)
    (hmem : ∀ entry, entry ∈ entries ↔ entry ∈ others) : entries = others := by
  have hne {a b : α} (hab : compare (path a) (path b) = .lt) :
      compare (path b) (path a) ≠ .lt := Std.OrientedCmp.not_lt_of_lt hab
  have : Std.Irrefl fun a b : α => compare (path a) (path b) = .lt := ⟨fun _ h => hne h h⟩
  have : Std.Antisymm fun a b : α => compare (path a) (path b) = .lt :=
    ⟨fun _ _ hab hba => absurd hba (hne hab)⟩
  exact h.eq_of_mem_iff h' hmem

section

variable {tree : FileTree} {entries : List BatchEntry}

/-- The entry of a path below the root is that of the file there. -/
theorem IsReport.eq_ofFile (h : IsReport packageName settings engines tree root base entries)
    (hwf : tree.WellFormed) {route : Route} (hnames : ∀ name ∈ route, FileTree.IsName name)
    {entry : BatchEntry} (hmem : entry ∈ entries) (hpath : entry.path = root.descendant route) :
    ∃ bytes, tree.node? (base ++ route) = some (.file bytes) ∧
      entry = .ofFile packageName settings engines root route bytes := by
  obtain ⟨other, bytes, hfile, -, rfl⟩ := (h.mem_iff entry).1 hmem
  have hother := hwf.isName_of_node? hfile
  obtain rfl : other = route := Path.descendant_inj hother hnames (congrArg Path.components hpath)
  exact ⟨bytes, hfile, rfl⟩

/-- A component file has one entry if it is there, and none otherwise. -/
theorem IsReport.filter_path_eq (h : IsReport packageName settings engines tree root base entries)
    (hwf : tree.WellFormed) {route : Route} (hnames : ∀ name ∈ route, FileTree.IsName name)
    (hcomponent : isComponentPath (root.descendant route) = true) :
    entries.filter (·.path = root.descendant route) =
      match tree.node? (base ++ route) with
      | some (.file bytes) => [.ofFile packageName settings engines root route bytes]
      | _ => [] := by
  split
  · next bytes hfile =>
    refine eq_of_sorted (h.sorted.filter _) (List.pairwise_singleton _ _) fun entry => ?_
    rw [List.mem_filter, decide_eq_true_eq, List.mem_singleton]
    constructor
    · rintro ⟨hmem, hpath⟩
      obtain ⟨other, hother, rfl⟩ := h.eq_ofFile hwf hnames hmem hpath
      rw [hfile] at hother
      cases hother
      rfl
    · rintro rfl
      exact ⟨(h.mem_iff _).2 ⟨route, bytes, hfile, hcomponent, rfl⟩, rfl⟩
  · next hnone =>
    refine List.filter_eq_nil_iff.2 fun entry hmem hpath => ?_
    obtain ⟨bytes, hfile, -⟩ := h.eq_ofFile hwf hnames hmem (by simpa using hpath)
    exact hnone bytes hfile

/-- The entries of all other files are found in a report on the other tree. -/
theorem IsReport.mem_of_sameBut {tree' : FileTree} {entries' : List BatchEntry} {file : Route}
    (h : IsReport packageName settings engines tree root base entries)
    (h' : IsReport packageName settings engines tree' root base entries')
    (hsame : FileTree.SameBut (base ++ file) tree tree') {entry : BatchEntry}
    (hmem : entry ∈ entries) (hpath : entry.path ≠ root.descendant file) : entry ∈ entries' := by
  obtain ⟨route, bytes, hfile, hcomponent, rfl⟩ := (h.mem_iff entry).1 hmem
  have hne : base ++ route ≠ base ++ file := by
    intro heq
    exact hpath (congrArg root.descendant (List.append_cancel_left heq))
  rw [hsame.node?_eq _ hne] at hfile
  exact (h'.mem_iff _).2 ⟨route, bytes, hfile, hcomponent, rfl⟩

end

/-- **Files of a batch have no effect on each other.**  Take two file systems that differ only in
one component file below a root, which each of them may lack or hold with any bytes.  The batches
have the same entries for all other files in the same order.  Each batch reports, in the order of
their paths, on the component files of its tree; and on the one file with one entry if it is there,
and with none otherwise. -/
theorem compileDirectory_sameBut {tree' below : FileTree} {file : Route}
    (hwf : system.tree.WellFormed) (hwf' : tree'.WellFormed)
    (hsame : FileTree.SameBut (system.destination root ++ file) system.tree tree')
    (hnames : ∀ name ∈ file, FileTree.IsName name)
    (hcomponent : isComponentPath (root.descendant file) = true)
    (hroot : system.descend root = .ok below)
    (packageName : Option String) (settings : CompileSettings) (engines : Engines) :
    let base := system.destination root
    let batch (tree : FileTree) :=
      compileDirectory (system.withTree tree) root packageName settings engines
    (batch system.tree).filter (·.path ≠ root.descendant file) =
        (batch tree').filter (·.path ≠ root.descendant file) ∧
      ∀ each ∈ [system.tree, tree'],
        IsReport packageName settings engines each root base (batch each) ∧
        (batch each).filter (·.path = root.descendant file) =
          match each.node? (base ++ file) with
          | some (.file bytes) => [.ofFile packageName settings engines root file bytes]
          | _ => [] := by
  intro base batch
  have hreport : IsReport packageName settings engines system.tree root base (batch system.tree) :=
    compileDirectory_isReport hwf (FileSystem.leads_of_descend hroot)
  have hreport' : IsReport packageName settings engines tree' root base (batch tree') :=
    compileDirectory_isReport hwf' (FileSystem.leads_of_sameBut hsame hroot)
  refine ⟨?_, ?_⟩
  · refine eq_of_sorted (hreport.sorted.filter _) (hreport'.sorted.filter _) fun entry => ?_
    rw [List.mem_filter, List.mem_filter, decide_eq_true_eq]
    constructor
    · rintro ⟨hmem, hpath⟩
      exact ⟨hreport.mem_of_sameBut hreport' hsame hmem hpath, hpath⟩
    · rintro ⟨hmem, hpath⟩
      exact ⟨hreport'.mem_of_sameBut hreport hsame.symm hmem hpath, hpath⟩
  · refine List.forall_mem_cons.2 ⟨?_, List.forall_mem_singleton.2 ?_⟩
    · exact ⟨hreport, hreport.filter_path_eq hwf hnames hcomponent⟩
    · exact ⟨hreport', hreport'.filter_path_eq hwf' hnames hcomponent⟩

/-- A directory with the given entries, next to a file. -/
def sourceTree (entries : List (String × FileTree)) : FileTree :=
  .directory [("index.vue", .file none), ("src", .directory entries)]

/-- A file whose only byte is no text, beside one that is empty and one that may not be read; the
root goes up from the place where paths begin, further than there are directories, and back there.
-/
theorem compileDirectory_sameBut_invalidText :
    let other : List (String × FileTree) :=
      [("A.vue", .file (some ByteArray.empty)), ("Z.vue", .file none)]
    let system : FileSystem := ⟨sourceTree (("M.vue", .file (some ⟨#[0xff]⟩)) :: other), ["src"]⟩
    let tree' := sourceTree other
    let root : Path := ⟨["..", "..", "src", ""]⟩
    let path := root.descendant ["M.vue"]
    let batch (tree : FileTree) :=
      compileDirectory (system.withTree tree) root none { } .builtIn
    (system.tree.WellFormed ∧ tree'.WellFormed ∧
        FileTree.SameBut (system.destination root ++ ["M.vue"]) system.tree tree' ∧
        isComponentPath path = true ∧ system.destination root = ["src"]) ∧
      (batch system.tree).filter (·.path ≠ path) = (batch tree').filter (·.path ≠ path) ∧
      (batch system.tree).filter (·.path = path) = [⟨path, .error (.read path .invalidText)⟩] ∧
      (batch tree').filter (·.path = path) = [] := by
  intro other system tree' root path batch
  have hwf : system.tree.WellFormed := by
    simp [system, other, sourceTree, FileTree.WellFormed, FileTree.WellFormedIn, FileTree.IsName,
      Path.isIdle]
  have hwf' : tree'.WellFormed := by
    simp [tree', other, sourceTree, FileTree.WellFormed, FileTree.WellFormedIn, FileTree.IsName,
      Path.isIdle]
  have hbase : system.destination root = ["src"] := by cbv
  have hsame : FileTree.SameBut (system.destination root ++ ["M.vue"]) system.tree tree' := by
    rw [hbase]
    exact (FileTree.sameBut_cons rfl _).inside [("index.vue", .file none)] [] rfl
  have hnames : ∀ name ∈ ["M.vue"], FileTree.IsName name := by
    simp [FileTree.IsName, Path.isIdle]
  have hcomponent : isComponentPath path = true := by cbv
  obtain ⟨hother, hfile⟩ :=
    compileDirectory_sameBut hwf hwf' hsame hnames hcomponent rfl none { } .builtIn
  refine ⟨⟨hwf, hwf', hsame, hcomponent, hbase⟩, hother, ?_, ?_⟩
  · exact (hfile system.tree (by simp)).2
  · exact (hfile tree' (by simp)).2

end

end ComponentFile
