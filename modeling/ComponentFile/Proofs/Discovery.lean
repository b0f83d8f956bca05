import ComponentFile.Proofs.BatchIsolation
import Mathlib

/-!
# Which files are found, and in which order

Component files are found by walking over all that is below a root.  What is found does not depend
on the walk: it is decided by the tree alone, down to the order of the list.

**Order.**  Paths are compared component by component, and names by their characters.  In UTF-8
that is the order of their bytes, because a greater character has a greater byte where the bytes of
the two first differ (`utf8EncodeChar_append_lt`); so paths that are sorted are sorted by bytes
(`utf8_lt_utf8`).

**Names.**  A component file is recognised by its name, which has something in front of the suffix
(`isComponentName_iff`).

**Walks.**  `IsWalk` is all that is known of a walk: each entry once, in any order.  There is one
over every tree (`exists_isWalk`), and the files on it are those of the tree
(`IsWalk.mem_filter_iff`).

**Trees.**  A directory may list its entries in another order.  `Reordered` trees are `Alike`, which
means that the same stands in them at every route, and a path leads to the same in trees that are
alike (`Alike.follow`).

**`findComponents_exact`** says what is found, and that neither the walk nor the order in
directories has a part in it.
-/

namespace ComponentFile

/-! ## Order -/

/-- The bytes of a text. -/
def utf8 (text : String) : List UInt8 := text.toUTF8.data.toList

theorem utf8_eq_flatMap (text : String) :
    utf8 text = text.toList.flatMap String.utf8EncodeChar := by
  rw [utf8, String.toUTF8, ← String.ofList_toList (s := text), String.toByteArray_ofList,
    List.utf8Encode, List.toList_data_toByteArray, String.toList_ofList]

/-- The bytes of a greater character are greater, whatever follows. -/
theorem utf8EncodeChar_append_lt {c d : Char} (h : c < d) (s t : List UInt8) :
    String.utf8EncodeChar c ++ s < String.utf8EncodeChar d ++ t := by
  have hlt : c.val.toNat < d.val.toNat := h
  have hbound : d.val.toNat < 0x110000 := by
    rcases d.valid with hlow | ⟨-, hhigh⟩
    · omega
    · exact hhigh
  unfold String.utf8EncodeChar
  generalize c.val.toNat = v at *
  generalize d.val.toNat = w at *
  dsimp only
  -- one case for each pair of lengths; the bytes are compared as numbers
  split_ifs
  all_goals
    simp (disch := omega) only [List.cons_append, List.nil_append, List.cons_lt_cons_iff,
      UInt8.lt_iff_toNat_lt, ← UInt8.toNat_inj, UInt8.toNat_ofNat', Nat.mod_eq_of_lt]
    omega

theorem flatMap_utf8EncodeChar_lt {text other : List Char} (h : text < other) :
    text.flatMap String.utf8EncodeChar < other.flatMap String.utf8EncodeChar := by
  induction h with
  | @nil c cs =>
    rw [List.flatMap_nil, List.flatMap_cons]
    cases hbytes : String.utf8EncodeChar c with
    | nil => exact absurd hbytes String.utf8EncodeChar_ne_nil
    | cons byte bytes => exact List.nil_lt_cons _ _
  | rel hlt =>
    rw [List.flatMap_cons, List.flatMap_cons]
    exact utf8EncodeChar_append_lt hlt _ _
  | cons _ ih =>
    rw [List.flatMap_cons, List.flatMap_cons]
    exact List.append_left_lt ih

/-- The order of texts is that of their bytes. -/
theorem utf8_lt_utf8 {text other : String} (h : text < other) : utf8 text < utf8 other := by
  rw [utf8_eq_flatMap, utf8_eq_flatMap]
  exact flatMap_utf8EncodeChar_lt (String.lt_iff_toList_lt.1 h)

theorem map_utf8_lt {route other : Route} (h : compare route other = .lt) :
    route.map utf8 < other.map utf8 := by
  rw [List.compare_eq_compareLex] at h
  induction route generalizing other with
  | nil =>
    cases other with
    | nil => cases h
    | cons name other => exact List.nil_lt_cons _ _
  | cons name route ih =>
    cases other with
    | nil => cases h
    | cons name' other =>
      rw [List.compareLex_cons_cons, Ordering.then_eq_lt] at h
      rw [List.map_cons, List.map_cons, List.cons_lt_cons_iff]
      rcases h with hlt | ⟨heq, hrest⟩
      · exact .inl (utf8_lt_utf8 (compare_lt_iff_lt.1 hlt))
      · exact .inr ⟨congrArg utf8 (Std.LawfulEqOrd.eq_of_compare heq), ih hrest⟩

/-- Below a root, paths that are sorted are sorted by the bytes of their components. -/
theorem map_utf8_lt_of_compare {root : Path} {route other : Route}
    (hroute : ∀ name ∈ route, FileTree.IsName name) (hother : ∀ name ∈ other, FileTree.IsName name)
    (h : compare (root.descendant route) (root.descendant other) = .lt) :
    (root.descendant route).components.map (utf8 ·.text) <
      (root.descendant other).components.map (utf8 ·.text) := by
  have hcompare : compare (root.descendant route).components
      (root.descendant other).components = .lt := h
  rw [Path.components_descendant hroute, Path.components_descendant hother,
    compare_append_left, compare_map_name] at hcompare
  rw [Path.components_descendant hroute, Path.components_descendant hother, List.map_append,
    List.map_append, List.map_map, List.map_map]
  exact List.append_left_lt (map_utf8_lt hcompare)

/-! ## Names -/

theorem isComponentName_iff {name : String} :
    isComponentName name = true ↔ ∃ stem, stem ≠ "" ∧ name = stem ++ componentSuffix := by
  rw [isComponentName, Bool.and_eq_true, List.isSuffixOf_iff_suffix, decide_eq_true_iff]
  constructor
  · rintro ⟨⟨stem, hstem⟩, hlength⟩
    have hname : name = String.ofList stem ++ componentSuffix := by
      rw [← String.toList_inj, String.toList_append, String.toList_ofList, hstem]
    refine ⟨String.ofList stem, ?_, hname⟩
    intro hempty
    rw [hempty, String.empty_append] at hname
    rw [hname] at hlength
    exact lt_irrefl _ hlength
  · rintro ⟨stem, hstem, rfl⟩
    rw [String.toList_append, String.length_append]
    refine ⟨List.suffix_append _ _, ?_⟩
    have hpos : 0 < stem.length := Nat.pos_of_ne_zero fun h => hstem (String.length_eq_zero_iff.1 h)
    omega

theorem isComponentPath_iff {path : Path} :
    isComponentPath path = true ↔
      ∃ stem, stem ≠ "" ∧ path.components.getLast? = some (.name (stem ++ componentSuffix)) := by
  rw [isComponentPath]
  constructor
  · intro h
    split at h
    · next name hlast =>
      obtain ⟨stem, hstem, rfl⟩ := isComponentName_iff.1 h
      exact ⟨stem, hstem, hlast⟩
    · cases h
  · rintro ⟨stem, hstem, hlast⟩
    rw [hlast]
    exact isComponentName_iff.2 ⟨stem, hstem, rfl⟩

namespace FileTree

/-! ## Walks -/

/-- A walk over all that is below a place, and the place itself: the route to each, once, in any
order. -/
structure IsWalk (below : FileTree) (walk : List Route) : Prop where
  nodup : walk.Nodup
  mem_iff : ∀ route, route ∈ walk ↔ (below.at? route).isSome = true

/-- Behind a file there is nothing. -/
theorem isSome_at?_file {bytes : Option ByteArray} {route : Route} :
    ((file bytes).at? route).isSome = true ↔ route = [] := by
  cases route with
  | nil => simp
  | cons name rest => simp [at?]

theorem isSome_at?_cons {entries : List (String × FileTree)} (h : (entries.map Prod.fst).Nodup)
    {name : String} {rest : Route} :
    ((directory entries).at? (name :: rest)).isSome = true ↔
      ∃ tree, (name, tree) ∈ entries ∧ (tree.at? rest).isSome = true := by
  rw [at?, Option.isSome_bind, Option.any_eq_true]
  simp only [lookup_eq_some_iff_mem h]

mutual

/-- Every tree can be walked over. -/
theorem exists_isWalk : (tree : FileTree) → tree.WellFormed → ∃ walk, tree.IsWalk walk
  | file bytes, _ => ⟨[[]], List.nodup_singleton _, fun route => by
      rw [isSome_at?_file, List.mem_singleton]⟩
  | directory entries, h => by
    obtain ⟨walk, hnodup, hmem⟩ := exists_isWalkIn entries h.1 h.2
    refine ⟨[] :: walk, List.nodup_cons.2 ⟨?_, hnodup⟩, ?_⟩
    · rw [hmem]
      rintro ⟨name, tree, rest, hroute, -⟩
      cases hroute
    · rintro ⟨⟩
      · simp
      · next name rest =>
        rw [List.mem_cons, hmem, isSome_at?_cons h.1]
        simp

/-- So can the entries of a directory, one after the other. -/
theorem exists_isWalkIn : (entries : List (String × FileTree)) → (entries.map Prod.fst).Nodup →
    WellFormedIn entries → ∃ walk : List Route, walk.Nodup ∧ ∀ route, route ∈ walk ↔
      ∃ name tree rest, route = name :: rest ∧ (name, tree) ∈ entries ∧
        (tree.at? rest).isSome = true
  | [], _, _ => ⟨[], List.nodup_nil, by simp⟩
  | (name, tree) :: entries, hnodup, h => by
    obtain ⟨hname, hrest⟩ := List.nodup_cons.1 hnodup
    obtain ⟨inner, hinner⟩ := exists_isWalk tree h.2.1
    obtain ⟨walk, hwalk, hmem⟩ := exists_isWalkIn entries hrest h.2.2
    refine ⟨inner.map (name :: ·) ++ walk, ?_, fun route => ?_⟩
    · refine List.nodup_append.2 ⟨hinner.nodup.map List.cons_injective, hwalk, ?_⟩
      -- a route in both would begin with the name of two entries
      intro route hroute other hother heq
      obtain ⟨rest, -, rfl⟩ := List.mem_map.1 hroute
      obtain ⟨name', tree', rest', hother, hentry, -⟩ := (hmem other).1 hother
      obtain ⟨rfl, -⟩ := List.cons.inj (heq.trans hother)
      exact hname (List.mem_map.2 ⟨_, hentry, rfl⟩)
    · rw [List.mem_append, List.mem_map, hmem]
      constructor
      · rintro (⟨rest, hrest, rfl⟩ | ⟨name', tree', rest, rfl, hentry, hat⟩)
        · exact ⟨name, tree, rest, rfl, List.mem_cons_self, (hinner.mem_iff rest).1 hrest⟩
        · exact ⟨name', tree', rest, rfl, List.mem_cons_of_mem _ hentry, hat⟩
      · rintro ⟨name', tree', rest, rfl, hentry, hat⟩
        rcases List.mem_cons.1 hentry with heq | hentry
        · obtain ⟨rfl, rfl⟩ := Prod.mk.inj heq
          exact .inl ⟨rest, (hinner.mem_iff rest).2 hat, rfl⟩
        · exact .inr ⟨name', tree', rest, rfl, hentry, hat⟩

end

/-- Whether a route leads to a file. -/
def isFileAt (below : FileTree) (route : Route) : Bool :=
  match below.at? route with
  | some (file _) => true
  | _ => false

theorem isFileAt_iff {below : FileTree} {route : Route} :
    below.isFileAt route = true ↔ ∃ bytes, below.at? route = some (file bytes) := by
  rw [isFileAt]
  split
  · next bytes hat => exact ⟨fun _ => ⟨bytes, hat⟩, fun _ => rfl⟩
  · next hnone => exact ⟨(nomatch ·), fun ⟨bytes, hat⟩ => absurd hat (hnone bytes)⟩

/-- What a walk comes to: the component files on it as paths from a root, sorted. -/
def findOn (below : FileTree) (root : Path) (walk : List Route) : List Path :=
  (((walk.filter below.isFileAt).map root.descendant).filter isComponentPath).mergeSort pathLe

/-- The files of a walk are those of the tree. -/
theorem IsWalk.mem_filter_iff {below : FileTree} {walk : List Route} (h : below.IsWalk walk)
    {route : Route} :
    route ∈ walk.filter below.isFileAt ↔ ∃ bytes, below.at? route = some (file bytes) := by
  rw [List.mem_filter, isFileAt_iff, h.mem_iff]
  constructor
  · exact And.right
  · rintro ⟨bytes, hat⟩
    exact ⟨by rw [hat]; rfl, bytes, hat⟩

/-! ## Trees that are listed in another order -/

/-- The same stands in two trees at every route. -/
def Alike (tree tree' : FileTree) : Prop := ∀ route, tree.node? route = tree'.node? route

/-- A tree whose directories list the same entries in another order. -/
inductive Reordered : FileTree → FileTree → Prop where
  | refl (tree : FileTree) : Reordered tree tree
  | perm {entries entries' : List (String × FileTree)} (h : entries.Perm entries') :
      Reordered (directory entries) (directory entries')
  | inside {tree tree' : FileTree} (before after : List (String × FileTree)) (name : String)
      (h : Reordered tree tree') :
      Reordered (directory (before ++ (name, tree) :: after))
        (directory (before ++ (name, tree') :: after))
  | trans {tree tree' tree'' : FileTree} (h : Reordered tree tree') (h' : Reordered tree' tree'') :
      Reordered tree tree''

theorem lookup_eq_of_perm {entries entries' : List (String × FileTree)}
    (hnodup : (entries.map Prod.fst).Nodup) (h : entries.Perm entries') (name : String) :
    entries.lookup name = entries'.lookup name := by
  refine Option.ext fun tree => ?_
  have hnodup' : (entries'.map Prod.fst).Nodup := (h.map Prod.fst).nodup_iff.1 hnodup
  rw [lookup_eq_some_iff_mem hnodup, lookup_eq_some_iff_mem hnodup', h.mem_iff]

theorem Reordered.wellFormed {tree tree' : FileTree} (h : Reordered tree tree')
    (hwf : tree.WellFormed) : tree'.WellFormed := by
  induction h with
  | refl => exact hwf
  | perm h =>
    obtain ⟨hnodup, hentries⟩ := hwf
    refine ⟨(h.map Prod.fst).nodup_iff.1 hnodup, ?_⟩
    rw [wellFormedIn_iff] at hentries ⊢
    exact fun entry hentry => hentries entry (h.mem_iff.2 hentry)
  | inside before after name _ ih =>
    obtain ⟨hnodup, hentries⟩ := hwf
    refine ⟨by simpa using hnodup, ?_⟩
    simp only [wellFormedIn_iff, List.forall_mem_append, List.forall_mem_cons] at hentries ⊢
    obtain ⟨hbefore, ⟨hname, htree⟩, hafter⟩ := hentries
    exact ⟨hbefore, ⟨hname, ih htree⟩, hafter⟩
  | trans _ _ ih ih' => exact ih' (ih hwf)

theorem Reordered.alike {tree tree' : FileTree} (h : Reordered tree tree')
    (hwf : tree.WellFormed) : Alike tree tree' := by
  induction h with
  | refl => exact fun route => rfl
  | perm h =>
    rintro ⟨⟩
    · rfl
    · rw [node?_cons, node?_cons, lookup_eq_of_perm hwf.1 h]
  | inside before after name _ ih =>
    obtain ⟨-, hentries⟩ := hwf
    rw [wellFormedIn_iff, List.forall_mem_append, List.forall_mem_cons] at hentries
    obtain ⟨-, ⟨-, htree⟩, -⟩ := hentries
    rintro ⟨⟩
    · rfl
    · next other rest =>
      rw [node?_cons, node?_cons, List.lookup_append, List.lookup_append, List.lookup_cons,
        List.lookup_cons]
      cases before.lookup other with
      | some sub => rfl
      | none =>
        by_cases hname : other = name
        · subst hname
          rw [beq_self_eq_true]
          exact ih htree rest
        · rw [beq_false_of_ne hname]
  | trans h h' ih ih' => exact fun route => (ih hwf route).trans (ih' (h.wellFormed hwf) route)

section

variable {tree tree' below : FileTree}

/-- A directory is like directories only. -/
theorem Alike.exists_directory {entries : List (String × FileTree)}
    (h : Alike (directory entries) tree') : ∃ entries', tree' = directory entries' := by
  have hnode := h []
  cases tree' with
  | file bytes => cases hnode
  | directory entries' => exact ⟨entries', rfl⟩

/-- An entry of a directory has one like it in a directory that is alike. -/
theorem Alike.exists_lookup {entries entries' : List (String × FileTree)}
    (h : Alike (directory entries) (directory entries')) {name : String}
    (hlookup : entries.lookup name = some tree) :
    ∃ tree', entries'.lookup name = some tree' ∧ Alike tree tree' := by
  have hnode (rest : Route) : tree.node? rest = (entries'.lookup name).bind (·.node? rest) := by
    have := h (name :: rest)
    rwa [node?_cons, node?_cons, hlookup, Option.bind_some] at this
  cases hlookup' : entries'.lookup name with
  | none =>
    have := hnode []
    rw [hlookup', node?, at?_nil] at this
    cases this
  | some tree' => exact ⟨tree', rfl, fun rest => by rw [hnode, hlookup', Option.bind_some]⟩

/-- **What a path leads to** is alike in trees that are alike. -/
theorem Alike.follow {above above' : List FileTree} {parts : List String} (htree : Alike tree tree')
    (habove : List.Forall₂ Alike above above') (h : FileTree.follow above tree parts = .ok below) :
    ∃ below', FileTree.follow above' tree' parts = .ok below' ∧ Alike below below' := by
  induction parts generalizing above above' tree tree' with
  | nil =>
    rw [follow_nil] at h
    cases h
    exact ⟨tree', follow_nil _ _, htree⟩
  | cons part rest ih =>
    cases tree with
    | file bytes => cases h
    | directory entries =>
      obtain ⟨entries', rfl⟩ := htree.exists_directory
      rcases isIdle_or_isName part with hidle | rfl | hname
      · rw [follow_idle hidle] at h ⊢
        exact ih htree habove h
      · cases habove with
        | nil =>
          rw [follow_outside] at h ⊢
          exact ih htree .nil h
        | cons hparent habove =>
          rw [follow_back] at h ⊢
          exact ih hparent habove h
      · rw [follow_name hname] at h ⊢
        cases hlookup : entries.lookup part with
        | none =>
          rw [hlookup] at h
          cases h
        | some sub =>
          obtain ⟨sub', hlookup', hsub⟩ := htree.exists_lookup hlookup
          rw [hlookup] at h
          rw [hlookup']
          exact ih hsub (.cons htree habove) h

/-- A path leads to alike places, whichever of the two trees the files are in. -/
theorem Alike.descend {system : FileSystem} {path : Path} (halike : Alike system.tree tree')
    (h : system.descend path = .ok below) :
    ∃ below', (system.withTree tree').descend path = .ok below' ∧ Alike below below' := by
  obtain ⟨hempty, hfollow⟩ := FileSystem.descend_eq_ok_iff.1 h
  obtain ⟨below', hfollow', hbelow⟩ := halike.follow .nil hfollow
  exact ⟨below', FileSystem.descend_eq_ok_iff.2 ⟨hempty, hfollow'⟩, hbelow⟩

theorem Alike.at?_file_iff (h : Alike tree tree') {route : Route} {bytes : Option ByteArray} :
    tree.at? route = some (file bytes) ↔ tree'.at? route = some (file bytes) := by
  rw [← node?_eq_file_iff, ← node?_eq_file_iff, h route]

end

end FileTree

open FileTree

/-- **What is found is decided by the tree.**  For every file system of well-formed directories and
every root in it, the component files found are the files below the root, or the root itself, whose
name is something followed by the suffix.  They are sorted strictly as paths, and that is by the
bytes of their components.  There are walks over what is below the root, and any of them gives the
same list; so does any tree whose directories list their entries in another order. -/
theorem findComponents_exact {system : FileSystem} {below : FileTree} {root : Path}
    (hwf : system.tree.WellFormed) (hroot : system.descend root = .ok below) :
    (∀ path, path ∈ findComponents system root ↔
      ∃ route bytes, below.at? route = some (.file bytes) ∧ path = root.descendant route ∧
        ∃ stem, stem ≠ "" ∧ path.components.getLast? = some (.name (stem ++ ".vue"))) ∧
    (findComponents system root).Pairwise
      (fun earlier later => compare earlier later = .lt ∧
        earlier.components.map (utf8 ·.text) < later.components.map (utf8 ·.text)) ∧
    (∃ walk, below.IsWalk walk) ∧
    (∀ walk, below.IsWalk walk → below.findOn root walk = findComponents system root) ∧
    ∀ tree', Reordered system.tree tree' →
      findComponents (system.withTree tree') root = findComponents system root := by
  have hbelow : below.WellFormed := FileSystem.wellFormed_of_descend hwf hroot
  refine ⟨fun path => ?_, ?_, exists_isWalk below hbelow, fun walk hwalk => ?_,
    fun tree' hreordered => ?_⟩
  · rw [mem_findComponents_iff_at? hwf hroot]
    constructor
    · rintro ⟨route, bytes, hat, hcomponent, rfl⟩
      exact ⟨route, bytes, hat, rfl, isComponentPath_iff.1 hcomponent⟩
    · rintro ⟨route, bytes, hat, rfl, hname⟩
      exact ⟨route, bytes, hat, isComponentPath_iff.2 hname, rfl⟩
  · refine (pairwise_findComponents hwf).imp_of_mem fun {earlier later} hearlier hlater hlt => ?_
    obtain ⟨route, bytes, hat, -, rfl⟩ := (mem_findComponents_iff_at? hwf hroot).1 hearlier
    obtain ⟨route', bytes', hat', -, rfl⟩ := (mem_findComponents_iff_at? hwf hroot).1 hlater
    exact ⟨hlt, map_utf8_lt_of_compare (hbelow.at? hat).2 (hbelow.at? hat').2 hlt⟩
  · have hnames : ∀ route ∈ walk.filter below.isFileAt, ∀ name ∈ route, IsName name := by
      intro route hroute
      obtain ⟨bytes, hat⟩ := hwalk.mem_filter_iff.1 hroute
      exact (hbelow.at? hat).2
    refine eq_of_sorted (pairwise_mergeSort_descendants (hwalk.nodup.filter _) hnames)
      (pairwise_findComponents hwf) fun path => ?_
    rw [mem_findComponents_iff_at? hwf hroot, findOn, List.mem_mergeSort, List.mem_filter,
      List.mem_map]
    simp only [hwalk.mem_filter_iff]
    constructor
    · rintro ⟨⟨route, ⟨bytes, hat⟩, rfl⟩, hcomponent⟩
      exact ⟨route, bytes, hat, hcomponent, rfl⟩
    · rintro ⟨route, bytes, hat, hcomponent, rfl⟩
      exact ⟨⟨route, ⟨bytes, hat⟩, rfl⟩, hcomponent⟩
  · have hwf' : (system.withTree tree').tree.WellFormed := hreordered.wellFormed hwf
    obtain ⟨below', hroot', halike⟩ := (hreordered.alike hwf).descend hroot
    refine eq_of_sorted (pairwise_findComponents hwf') (pairwise_findComponents hwf) fun path => ?_
    simp only [mem_findComponents_iff_at? hwf hroot, mem_findComponents_iff_at? hwf' hroot',
      halike.at?_file_iff]

/-- Files beside a directory and in it; a file without a stem is none. -/
theorem findComponents_exact_nested :
    let inner : FileTree := .directory [("b.vue", .file none)]
    let entries : List (String × FileTree) :=
      [("a-b.vue", .file none), (".vue", .file none), ("a", inner)]
    let system : FileSystem := ⟨.directory [("src", .directory entries)], []⟩
    let tree' : FileTree := .directory [("src", .directory entries.reverse)]
    let root : Path := ⟨[".", "src"]⟩
    system.tree.WellFormed ∧ system.descend root = .ok (.directory entries) ∧
      (∃ walk, (directory entries).IsWalk walk ∧
        (directory entries).findOn root walk = findComponents system root) ∧
      Reordered system.tree tree' ∧
      findComponents (system.withTree tree') root = findComponents system root ∧
      ⟨[".", "src", "a", "b.vue"]⟩ ∈ findComponents system root ∧
      ⟨[".", "src", ".vue"]⟩ ∉ findComponents system root := by
  intro inner entries system tree' root
  have hwf : system.tree.WellFormed := by
    simp [system, entries, inner, WellFormed, WellFormedIn, IsName, Path.isIdle]
  have hroot : system.descend root = .ok (.directory entries) := rfl
  have hreordered : Reordered system.tree tree' :=
    .inside [] [] "src" (.perm (List.reverse_perm entries).symm)
  obtain ⟨hexact, -, ⟨walk, hwalk⟩, hfound, hsame⟩ := findComponents_exact hwf hroot
  refine ⟨hwf, hroot, ⟨walk, hwalk, hfound walk hwalk⟩, hreordered, hsame tree' hreordered, ?_, ?_⟩
  · exact (hexact _).2 ⟨["a", "b.vue"], none, rfl, rfl, "b", by decide, by decide⟩
  · intro hmem
    obtain ⟨route, bytes, -, -, stem, hstem, hlast⟩ := (hexact _).1 hmem
    have hname : ".vue" = stem ++ ".vue" := Step.name.inj (Option.some.inj hlast)
    have hlength := congrArg String.length hname
    rw [String.length_append] at hlength
    exact hstem (String.length_eq_zero_iff.1 (by omega))

end ComponentFile
