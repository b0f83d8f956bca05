import ComponentFile.Files
import Mathlib

/-!
# Where paths lead

A tree is walked in two ways.  Its files are listed with the routes to them, and a path as it is
written is followed part by part, perhaps up and down again.  Both come to the same: what stands at
a route.

**Trees.**  `FileTree.at?` is what stands at a route.  In a well-formed tree, whose directories have
entries of different names, the files are listed once each, with exactly the routes that lead to
them (`mem_files_iff`, `nodup_files`).

**Paths.**  `FileSystem.destination` is the route that a path comes to if it leads anywhere.  A path
that is extended by a route has its names as further components (`components_descendant`), and leads
further along it (`descend_descendant`).

**Two trees.**  `FileTree.SameBut` says that two trees differ at most in one file.  Then a path that
leads to something in one of them leads to the same place in the other (`leads_of_sameBut`): what it
passes through are directories, and these are the same.
-/

namespace ComponentFile

namespace FileTree

/-! ## Routes in a tree -/

/-- Whether a text can name an entry of a directory. -/
def IsName (name : String) : Prop := Path.isIdle name = false ∧ name ≠ ".."

mutual

/-- Whether all directories have proper entries of different names. -/
def WellFormed : FileTree → Prop
  | file _ => True
  | directory entries => (entries.map Prod.fst).Nodup ∧ WellFormedIn entries

/-- Whether entries have proper names and lead to well-formed trees. -/
def WellFormedIn : List (String × FileTree) → Prop
  | [] => True
  | (name, tree) :: rest => IsName name ∧ tree.WellFormed ∧ WellFormedIn rest

end

/-- What stands at a route. -/
def at? : FileTree → Route → Option FileTree
  | tree, [] => some tree
  | file _, _ :: _ => none
  | directory entries, name :: rest => (entries.lookup name).bind (·.at? rest)

@[simp] theorem at?_nil (tree : FileTree) : tree.at? [] = some tree := by
  cases tree <;> rfl

theorem at?_append (tree : FileTree) (route further : Route) :
    tree.at? (route ++ further) = (tree.at? route).bind (·.at? further) := by
  induction route generalizing tree with
  | nil => simp
  | cons name route ih =>
    cases tree with
    | file bytes => rfl
    | directory entries =>
      rw [List.cons_append, at?, at?, Option.bind_assoc]
      exact Option.bind_congr fun tree _ => ih tree

theorem wellFormedIn_iff {entries : List (String × FileTree)} :
    WellFormedIn entries ↔ ∀ entry ∈ entries, IsName entry.1 ∧ entry.2.WellFormed := by
  induction entries with
  | nil => simp [WellFormedIn]
  | cons entry entries ih => rw [WellFormedIn, ih, List.forall_mem_cons, and_assoc]

/-- Where names are different, the entry of a name is the one that is found. -/
theorem lookup_eq_some_iff_mem {entries : List (String × FileTree)}
    (h : (entries.map Prod.fst).Nodup) {name : String} {tree : FileTree} :
    entries.lookup name = some tree ↔ (name, tree) ∈ entries := by
  rw [List.lookup_eq_some_iff]
  constructor
  · rintro ⟨before, after, rfl, -⟩
    simp
  · intro hmem
    obtain ⟨before, after, rfl⟩ := List.append_of_mem hmem
    refine ⟨before, after, rfl, fun entry hentry => ?_⟩
    rw [List.map_append, List.nodup_append] at h
    have hne := h.2.2 entry.1 (List.mem_map_of_mem hentry) name (by simp)
    simpa using Ne.symm hne

theorem WellFormed.at? {tree sub : FileTree} (h : tree.WellFormed) {route : Route}
    (hat : tree.at? route = some sub) : sub.WellFormed ∧ ∀ name ∈ route, IsName name := by
  induction route generalizing tree with
  | nil =>
    rw [at?_nil, Option.some.injEq] at hat
    subst hat
    exact ⟨h, by simp⟩
  | cons name route ih =>
    cases tree with
    | file bytes => cases hat
    | directory entries =>
      obtain ⟨below, hlookup, hbelow⟩ := Option.bind_eq_some_iff.1 hat
      obtain ⟨hnodup, hentries⟩ := h
      have hentry := wellFormedIn_iff.1 hentries _ ((lookup_eq_some_iff_mem hnodup).1 hlookup)
      obtain ⟨hsub, hnames⟩ := ih hentry.2 hbelow
      exact ⟨hsub, List.forall_mem_cons.2 ⟨hentry.1, hnames⟩⟩

theorem mem_filesIn_iff {entries : List (String × FileTree)} {route : Route} :
    route ∈ filesIn entries ↔
      ∃ name tree rest, (name, tree) ∈ entries ∧ rest ∈ tree.files ∧ route = name :: rest := by
  induction entries with
  | nil => simp [filesIn]
  | cons entry entries ih =>
    obtain ⟨name, tree⟩ := entry
    rw [filesIn, List.mem_append, ih, List.mem_map]
    constructor
    · rintro (⟨rest, hrest, rfl⟩ | ⟨name', tree', rest, hmem, hrest, rfl⟩)
      · exact ⟨name, tree, rest, List.mem_cons_self, hrest, rfl⟩
      · exact ⟨name', tree', rest, List.mem_cons_of_mem _ hmem, hrest, rfl⟩
    · rintro ⟨name', tree', rest, hmem, hrest, rfl⟩
      rcases List.mem_cons.1 hmem with heq | hmem
      · obtain ⟨rfl, rfl⟩ := Prod.mk.inj heq
        exact .inl ⟨rest, hrest, rfl⟩
      · exact .inr ⟨name', tree', rest, hmem, hrest, rfl⟩

/-- **The files of a tree are where routes lead to files.** -/
theorem mem_files_iff {tree : FileTree} (h : tree.WellFormed) {route : Route} :
    route ∈ tree.files ↔ ∃ bytes, tree.at? route = some (.file bytes) := by
  induction route generalizing tree with
  | nil =>
    cases tree with
    | file bytes => simp [files]
    | directory entries => simp [files, mem_filesIn_iff]
  | cons name rest ih =>
    cases tree with
    | file bytes => simp [files, at?]
    | directory entries =>
      obtain ⟨hnodup, hentries⟩ := h
      rw [files, mem_filesIn_iff]
      constructor
      · rintro ⟨name', tree, rest', hmem, hrest, heq⟩
        obtain ⟨rfl, rfl⟩ := List.cons.inj heq
        obtain ⟨bytes, hbytes⟩ := (ih (wellFormedIn_iff.1 hentries _ hmem).2).1 hrest
        refine ⟨bytes, ?_⟩
        rw [at?, (lookup_eq_some_iff_mem hnodup).2 hmem, Option.bind_some, hbytes]
      · rintro ⟨bytes, hbytes⟩
        obtain ⟨tree, hlookup, htree⟩ := Option.bind_eq_some_iff.1 hbytes
        have hmem := (lookup_eq_some_iff_mem hnodup).1 hlookup
        exact ⟨name, tree, rest, hmem,
          (ih (wellFormedIn_iff.1 hentries _ hmem).2).2 ⟨bytes, htree⟩, rfl⟩

mutual

/-- No file is listed twice. -/
theorem nodup_files : (tree : FileTree) → tree.WellFormed → tree.files.Nodup
  | file _, _ => List.nodup_singleton _
  | directory entries, h => nodup_filesIn entries h.1 h.2

theorem nodup_filesIn : (entries : List (String × FileTree)) → (entries.map Prod.fst).Nodup →
    WellFormedIn entries → (filesIn entries).Nodup
  | [], _, _ => List.nodup_nil
  | (name, tree) :: rest, hnodup, h => by
    obtain ⟨hname, hrest⟩ := List.nodup_cons.1 hnodup
    have htree := nodup_files tree h.2.1
    refine List.nodup_append.2 ⟨htree.map (List.cons_injective), nodup_filesIn rest hrest h.2.2, ?_⟩
    -- a route in both would begin with the name of two entries
    intro route hroute other hother heq
    obtain ⟨inner, -, rfl⟩ := List.mem_map.1 hroute
    obtain ⟨name', tree', rest', hmem, -, hother⟩ := mem_filesIn_iff.1 hother
    obtain ⟨rfl, -⟩ := List.cons.inj (heq.trans hother)
    exact hname (List.mem_map.2 ⟨_, hmem, rfl⟩)

end

end FileTree

/-! ## Extending a path -/

namespace Path

theorem parts_eq_of_getLast? {path : Path} {part : String}
    (h : path.parts.getLast? = some part) : path.parts = path.parts.dropLast ++ [part] :=
  (List.dropLast_append_getLast? part h).symm

theorem isAbsolute_cons {part : String} {rest : List String} (h : rest ≠ []) :
    (⟨part :: rest⟩ : Path).isAbsolute = (part == "") := by
  obtain ⟨next, rest, rfl⟩ := List.exists_cons_of_ne_nil h
  by_cases hpart : part = ""
  · subst hpart
    rfl
  · simp [isAbsolute, hpart]

theorem isAbsolute_singleton (part : String) : (⟨[part]⟩ : Path).isAbsolute = false := by
  simp [isAbsolute]

theorem child_eq (path : Path) (name : String) :
    path.child name =
      if path.parts.getLast? = some "" then ⟨path.parts.dropLast ++ [name]⟩
      else ⟨path.parts ++ [name]⟩ := by
  rw [child, join, isAbsolute_singleton, if_neg Bool.false_ne_true]

/-- The path of an entry begins like that of the directory, unless that one is empty. -/
theorem child_cases (path : Path) (name : String) :
    path.isEmpty = true ∧ path.child name = ⟨[name]⟩ ∨
      ∃ part rest rest', path = ⟨part :: rest⟩ ∧ path.child name = ⟨part :: rest'⟩ ∧ rest' ≠ [] ∧
        (rest = [] → part ≠ "") := by
  obtain ⟨parts⟩ := path
  rw [child_eq]
  match parts with
  | [] => exact .inl ⟨rfl, by simp⟩
  | [part] =>
    by_cases hpart : part = ""
    · exact .inl ⟨by simp [isEmpty, hpart], by simp [hpart]⟩
    · exact .inr ⟨part, [], [name], rfl, by simp [hpart], by simp, fun _ => hpart⟩
  | part :: next :: rest =>
    refine .inr ⟨part, next :: rest, ?_⟩
    split
    · exact ⟨(next :: rest).dropLast ++ [name], rfl, rfl, by simp, by simp⟩
    · exact ⟨(next :: rest) ++ [name], rfl, rfl, by simp, by simp⟩

theorem isAbsolute_of_isEmpty {path : Path} (h : path.isEmpty = true) :
    path.isAbsolute = false := by
  unfold isEmpty at h
  unfold isAbsolute
  split at h <;> simp_all

theorem isAbsolute_child (path : Path) (name : String) :
    (path.child name).isAbsolute = path.isAbsolute := by
  rcases path.child_cases name with ⟨hempty, hchild⟩ | ⟨part, rest, rest', rfl, hchild, hrest', h⟩
  · rw [hchild, isAbsolute_singleton, isAbsolute_of_isEmpty hempty]
  · rw [hchild, isAbsolute_cons hrest']
    cases rest with
    | nil => rw [isAbsolute_singleton, beq_false_of_ne (h rfl)]
    | cons next rest => rw [isAbsolute_cons (List.cons_ne_nil next rest)]

theorem isEmpty_child {path : Path} {name : String} (h : name ≠ "") :
    (path.child name).isEmpty = false := by
  rcases path.child_cases name with ⟨-, hchild⟩ | ⟨part, -, rest', -, hchild, hrest', -⟩
  · simp [hchild, isEmpty, h]
  · obtain ⟨next, rest', rfl⟩ := List.exists_cons_of_ne_nil hrest'
    simp [hchild, isEmpty]

theorem start_child {path : Path} {name : String} (h : FileTree.IsName name) :
    (path.child name).start = path.start := by
  rw [start, start, isAbsolute_child]
  congr 1
  rcases path.child_cases name with ⟨hempty, hchild⟩ | ⟨part, rest, rest', rfl, hchild, -⟩
  · have hname : name ≠ "." := by
      rintro rfl
      cases h.1
    have hhead : path.parts.head? ≠ some "." := by
      unfold isEmpty at hempty
      split at hempty <;> simp_all
    rw [hchild, if_neg hhead, List.head?_cons, if_neg (by simpa using hname)]
  · rw [hchild]
    rfl

theorem step?_name {name : String} (h : FileTree.IsName name) : step? name = some (.name name) := by
  simp [step?, h.1, h.2]

/-- An entry of a directory has one component more. -/
theorem components_child {path : Path} {name : String} (h : FileTree.IsName name) :
    (path.child name).components = path.components ++ [.name name] := by
  have hparts : (path.child name).parts.filterMap step? =
      path.parts.filterMap step? ++ [.name name] := by
    rw [child_eq]
    split
    · next hlast =>
      have hempty : step? "" = none := rfl
      rw [parts_eq_of_getLast? hlast]
      simp [step?_name h, hempty]
    · simp [step?_name h]
  rw [components, components, start_child h, hparts, List.append_assoc]

theorem components_descendant {path : Path} {route : Route}
    (h : ∀ name ∈ route, FileTree.IsName name) :
    (path.descendant route).components = path.components ++ route.map .name := by
  induction route generalizing path with
  | nil => simp [descendant]
  | cons name route ih =>
    obtain ⟨hname, hroute⟩ := List.forall_mem_cons.1 h
    calc ((path.child name).descendant route).components
        = (path.child name).components ++ route.map .name := ih hroute
      _ = path.components ++ (name :: route).map .name := by
        rw [components_child hname, List.append_assoc, List.singleton_append, List.map_cons]

end Path

/-! ## The order of paths -/

section

open Std

theorem Step.compare_name (a b : String) : compare (name a) (name b) = compare a b :=
  Ordering.then_eq

instance : TransOrd Step where
  eq_swap {a b} := by
    cases a <;> cases b <;> first | rfl | skip
    rw [Step.compare_name, Step.compare_name]
    exact OrientedCmp.eq_swap
  isLE_trans {a b c} h h' := by
    -- of different kinds the order is fixed, and two names are compared as texts
    cases a <;> cases b <;> cases c <;> first | rfl | (cases h; done) | cases h' | skip
    rw [Step.compare_name] at *
    exact TransCmp.isLE_trans h h'

instance : LawfulEqOrd Step where
  compare_self {a} := by
    cases a <;> first | rfl | skip
    rw [Step.compare_name]
    exact ReflCmp.compare_self
  eq_of_compare {a b} h := by
    cases a <;> cases b <;> first | rfl | cases h | skip
    rw [Step.compare_name] at h
    rw [LawfulEqCmp.eq_of_compare h]

instance : TransOrd Path where
  eq_swap := OrientedOrd.eq_swap (α := List Step)
  isLE_trans h h' := TransOrd.isLE_trans (α := List Step) h h'

/-- What lists have in common at the front does not count. -/
theorem compare_append_left {α : Type} [Ord α] [ReflOrd α] (front a b : List α) :
    compare (front ++ a) (front ++ b) = compare a b := by
  induction front with
  | nil => rfl
  | cons x front ih =>
    rw [List.compare_eq_compareLex] at ih ⊢
    have hx : compare x x = .eq := ReflCmp.compare_self
    rw [List.cons_append, List.cons_append, List.compareLex_cons_cons, hx, ih]
    rfl

/-- Names are compared as texts. -/
theorem compare_map_name (route other : Route) :
    compare (route.map Step.name) (other.map .name) = compare route other := by
  simp only [List.compare_eq_compareLex]
  induction route generalizing other with
  | nil => cases other <;> rfl
  | cons name route ih =>
    cases other with
    | nil => rfl
    | cons name' other =>
      rw [List.map_cons, List.map_cons, List.compareLex_cons_cons, List.compareLex_cons_cons,
        Step.compare_name, ih]

end
namespace FileTree

/-! ## Following a path

Following a path goes by the kind of its next part. -/

theorem isIdle_or_isName (part : String) :
    Path.isIdle part = true ∨ part = ".." ∨ IsName part := by
  by_cases hidle : Path.isIdle part = true
  · exact .inl hidle
  · by_cases hback : part = ".."
    · exact .inr (.inl hback)
    · exact .inr (.inr ⟨by simpa using hidle, hback⟩)

theorem follow_nil (above : List FileTree) (tree : FileTree) : follow above tree [] = .ok tree := by
  cases tree <;> rfl

theorem follow_idle {part : String} (h : Path.isIdle part = true) (above : List FileTree)
    (entries : List (String × FileTree)) (rest : List String) :
    follow above (directory entries) (part :: rest) = follow above (directory entries) rest := by
  simp [follow, h]

theorem follow_back (parent : FileTree) (above : List FileTree)
    (entries : List (String × FileTree)) (rest : List String) :
    follow (parent :: above) (directory entries) (".." :: rest) = follow above parent rest := by
  simp [follow, Path.isIdle]

theorem follow_outside (entries : List (String × FileTree)) (rest : List String) :
    follow [] (directory entries) (".." :: rest) = follow [] (directory entries) rest := by
  simp [follow, Path.isIdle]

theorem follow_name {name : String} (h : IsName name) (above : List FileTree)
    (entries : List (String × FileTree)) (rest : List String) :
    follow above (directory entries) (name :: rest) =
      match entries.lookup name with
      | none => .error .notFound
      | some tree => follow (directory entries :: above) tree rest := by
  cases hlookup : entries.lookup name with
  | none => simp [follow, h.1, h.2, hlookup]
  | some tree => simp [follow, h.1, h.2, hlookup]

/-- Whatever is passed through, a path leads to something well-formed. -/
theorem WellFormed.follow {tree below : FileTree} {above : List FileTree} {parts : List String}
    (htree : tree.WellFormed) (habove : ∀ parent ∈ above, parent.WellFormed)
    (h : FileTree.follow above tree parts = .ok below) : below.WellFormed := by
  induction parts generalizing above tree with
  | nil =>
    rw [follow_nil] at h
    cases h
    exact htree
  | cons part rest ih =>
    cases tree with
    | file bytes => cases h
    | directory entries =>
      rcases isIdle_or_isName part with hidle | rfl | hname
      · rw [follow_idle hidle] at h
        exact ih htree habove h
      · cases above with
        | nil =>
          rw [follow_outside] at h
          exact ih htree habove h
        | cons parent above =>
          rw [follow_back] at h
          obtain ⟨hparent, habove⟩ := List.forall_mem_cons.1 habove
          exact ih hparent habove h
      · rw [follow_name hname] at h
        cases hlookup : entries.lookup part with
        | none =>
          rw [hlookup] at h
          cases h
        | some sub =>
          rw [hlookup] at h
          have hsub := wellFormedIn_iff.1 htree.2 _ ((lookup_eq_some_iff_mem htree.1).1 hlookup)
          exact ih hsub.2 (List.forall_mem_cons.2 ⟨htree, habove⟩) h

/-- The last part of a path is looked at from where the others lead to, unless it leads back. -/
theorem follow_concat {part : String} (h : part ≠ "..") (above : List FileTree) (tree : FileTree)
    (parts : List String) :
    follow above tree (parts ++ [part]) =
      (follow above tree parts).bind fun reached => follow [] reached [part] := by
  induction parts generalizing above tree with
  | nil =>
    rw [List.nil_append, follow_nil, Except.bind]
    cases tree with
    | file bytes => rfl
    | directory entries => simp [follow, h]
  | cons next rest ih =>
    rw [List.cons_append]
    cases tree with
    | file bytes => rfl
    | directory entries =>
      rcases isIdle_or_isName next with hidle | rfl | hname
      · rw [follow_idle hidle, follow_idle hidle, ih]
      · cases above with
        | nil => rw [follow_outside, follow_outside, ih]
        | cons parent above => rw [follow_back, follow_back, ih]
      · rw [follow_name hname, follow_name hname]
        cases entries.lookup next with
        | none => rfl
        | some sub => exact ih _ sub

end FileTree

/-! ## Where a path leads to -/

namespace FileSystem

open FileTree

section

variable {system : FileSystem} {path : Path} {below : FileTree}

theorem descend_eq_ok_iff : system.descend path = .ok below ↔
    path.isEmpty = false ∧ follow [] system.tree (system.way path) = .ok below := by
  rw [descend]
  cases path.isEmpty with
  | true => simp
  | false => simp

/-- A path leads to something well-formed. -/
theorem wellFormed_of_descend (hwf : system.tree.WellFormed) (h : system.descend path = .ok below) :
    below.WellFormed :=
  hwf.follow (by simp) (descend_eq_ok_iff.1 h).2

/-- The way to an entry goes by one name more, in place of the slash if there is one at the end. -/
theorem way_child (system : FileSystem) (path : Path) (name : String) :
    (∃ parts, system.way path = parts ++ [""] ∧ system.way (path.child name) = parts ++ [name]) ∨
      system.way (path.child name) = system.way path ++ [name] := by
  rw [way, way, Path.isAbsolute_child, Path.child_eq]
  generalize (if path.isAbsolute then [] else system.place) = before
  by_cases hlast : path.parts.getLast? = some ""
  · refine .inl ⟨before ++ path.parts.dropLast, ?_, ?_⟩
    · rw [List.append_assoc, ← Path.parts_eq_of_getLast? hlast]
    · rw [if_pos hlast, List.append_assoc]
  · rw [if_neg hlast, List.append_assoc]
    exact .inr rfl

/-- Behind where a path leads to, one more name leads to the entry of that name. -/
theorem descend_child {name : String} (h : system.descend path = .ok below) (hname : IsName name) :
    system.descend (path.child name) = follow [] below [name] := by
  have hne : name ≠ "" := by
    rintro rfl
    cases hname.1
  obtain ⟨-, hfollow⟩ := descend_eq_ok_iff.1 h
  rw [descend, Path.isEmpty_child hne, if_neg Bool.false_ne_true]
  rcases system.way_child path name with ⟨parts, hway, hchild⟩ | hchild
  · -- the slash at the end needs a directory, and leads nowhere from it
    rw [hway, follow_concat (by decide)] at hfollow
    rw [hchild, follow_concat hname.2]
    match hinit : follow [] system.tree parts with
    | .error error =>
      rw [hinit] at hfollow
      cases hfollow
    | .ok (file bytes) =>
      rw [hinit] at hfollow
      cases hfollow
    | .ok (directory entries) =>
      rw [hinit] at hfollow
      cases hfollow
      rfl
  · rw [hchild, follow_concat hname.2, hfollow]
    rfl

/-- **A path that is extended by a route leads further along it.** -/
theorem descend_descendant {sub : FileTree} {route : Route} (h : system.descend path = .ok below)
    (hat : below.at? route = some sub) (hnames : ∀ name ∈ route, IsName name) :
    system.descend (path.descendant route) = .ok sub := by
  induction route generalizing path below with
  | nil =>
    rw [at?_nil, Option.some.injEq] at hat
    subst hat
    exact h
  | cons name route ih =>
    obtain ⟨hname, hroute⟩ := List.forall_mem_cons.1 hnames
    cases below with
    | file bytes => cases hat
    | directory entries =>
      obtain ⟨next, hlookup, hnext⟩ := Option.bind_eq_some_iff.1 hat
      refine ih ?_ hnext hroute
      rw [descend_child h hname, follow_name hname, hlookup]
      exact follow_nil _ next

end

end FileSystem

namespace Path

/-- The route that the parts of a path come to from a place, whose own route is given backwards. -/
def arrive : (back : Route) → List String → Route
  | back, [] => back.reverse
  | back, part :: rest =>
    if isIdle part then arrive back rest
    else if part == ".." then arrive back.tail rest
    else arrive (part :: back) rest

theorem arrive_idle {part : String} (h : isIdle part = true) (back : Route) (rest : List String) :
    arrive back (part :: rest) = arrive back rest := by
  simp [arrive, h]

theorem arrive_back (back : Route) (rest : List String) :
    arrive back (".." :: rest) = arrive back.tail rest := by
  simp [arrive, isIdle]

theorem arrive_name {name : String} (h : FileTree.IsName name) (back : Route)
    (rest : List String) : arrive back (name :: rest) = arrive (name :: back) rest := by
  simp [arrive, h.1, h.2]

end Path

/-- The route that a path comes to, if it leads anywhere. -/
def FileSystem.destination (system : FileSystem) (path : Path) : Route :=
  Path.arrive [] (system.way path)

namespace FileTree

/-- A place in a tree: the route to it, backwards, the directories on the way, and what stands
there. -/
inductive Spine (top : FileTree) : (back : Route) → (above : List FileTree) → FileTree → Prop where
  | top : Spine top [] [] top
  | down {back : Route} {above : List FileTree} {entries : List (String × FileTree)}
      {name : String} {tree : FileTree} (h : Spine top back above (directory entries))
      (hlookup : entries.lookup name = some tree) :
      Spine top (name :: back) (directory entries :: above) tree

theorem Spine.at?_eq {top tree : FileTree} {back : Route} {above : List FileTree}
    (h : Spine top back above tree) : top.at? back.reverse = some tree := by
  induction h with
  | top => exact at?_nil top
  | down _ hlookup ih =>
    rw [List.reverse_cons, at?_append, ih, Option.bind_some, at?, hlookup, Option.bind_some,
      at?_nil]

/-- What is found behind the parts of a path stands at the route that they come to. -/
theorem Spine.at?_of_follow {top tree below : FileTree} {back : Route} {above : List FileTree}
    {parts : List String} (h : Spine top back above tree)
    (hfollow : follow above tree parts = .ok below) :
    top.at? (Path.arrive back parts) = some below := by
  induction parts generalizing back above tree with
  | nil =>
    rw [follow_nil] at hfollow
    cases hfollow
    exact h.at?_eq
  | cons part rest ih =>
    cases tree with
    | file bytes => cases hfollow
    | directory entries =>
      rcases isIdle_or_isName part with hidle | rfl | hname
      · rw [follow_idle hidle] at hfollow
        rw [Path.arrive_idle hidle]
        exact ih h hfollow
      · rw [Path.arrive_back]
        cases h with
        | top =>
          rw [follow_outside] at hfollow
          exact ih .top hfollow
        | down hparent _ =>
          rw [follow_back] at hfollow
          exact ih hparent hfollow
      · rw [follow_name hname] at hfollow
        rw [Path.arrive_name hname]
        cases hlookup : entries.lookup part with
        | none =>
          rw [hlookup] at hfollow
          cases hfollow
        | some sub =>
          rw [hlookup] at hfollow
          exact ih (h.down hlookup) hfollow

/-! ## Trees that differ in one file -/

/-- What stands at a route, without what is below it. -/
inductive Node where
  | file (bytes : Option ByteArray)
  | directory

/-- What a tree is, without what is below it. -/
def node : FileTree → Node
  | file bytes => .file bytes
  | directory _ => .directory

def node? (tree : FileTree) (route : Route) : Option Node := (tree.at? route).map node

/-- Two trees differ at most in the file at a route: everywhere else the same stands in both, and
there each has a file or nothing. -/
structure SameBut (file : Route) (tree tree' : FileTree) : Prop where
  node?_eq : ∀ route, route ≠ file → tree.node? route = tree'.node? route
  isFile : tree.node? file ≠ some .directory
  isFile' : tree'.node? file ≠ some .directory

theorem SameBut.symm {file : Route} {tree tree' : FileTree} (h : SameBut file tree tree') :
    SameBut file tree' tree :=
  ⟨fun route hne => (h.node?_eq route hne).symm, h.isFile', h.isFile⟩

theorem node?_cons (entries : List (String × FileTree)) (name : String) (rest : Route) :
    (directory entries).node? (name :: rest) = (entries.lookup name).bind (·.node? rest) := by
  rw [node?, at?, Option.map_bind]
  rfl

/-- A directory that gets one more file. -/
theorem sameBut_cons {entries : List (String × FileTree)} {name : String}
    (h : entries.lookup name = none) (bytes : Option ByteArray) :
    SameBut [name] (directory ((name, file bytes) :: entries)) (directory entries) where
  node?_eq route hne := by
    match route with
    | [] => rfl
    | other :: rest =>
      rw [node?_cons, node?_cons, List.lookup_cons]
      by_cases hname : other = name
      · subst hname
        cases rest with
        | nil => exact absurd rfl hne
        | cons next rest =>
          rw [h, beq_self_eq_true]
          rfl
      · rw [beq_false_of_ne hname]
  isFile := by
    rw [node?_cons, List.lookup_cons_self, Option.bind_some]
    simp [node?, node]
  isFile' := by simp [node?_cons, h]

/-- Trees that differ in one file still do so as entries of directories that are otherwise the
same. -/
theorem SameBut.inside {file : Route} {tree tree' : FileTree} (hsame : SameBut file tree tree')
    (before after : List (String × FileTree)) {name : String}
    (h : before.lookup name = none) :
    SameBut (name :: file) (directory (before ++ (name, tree) :: after))
      (directory (before ++ (name, tree') :: after)) where
  node?_eq route hne := by
    match route with
    | [] => rfl
    | other :: rest =>
      rw [node?_cons, node?_cons, List.lookup_append, List.lookup_append, List.lookup_cons,
        List.lookup_cons]
      by_cases hname : other = name
      · subst hname
        have hrest : rest ≠ file := fun heq => hne (congrArg _ heq)
        rw [h, beq_self_eq_true]
        exact hsame.node?_eq rest hrest
      · rw [beq_false_of_ne hname]
  isFile := by
    rw [node?_cons, List.lookup_append, h, List.lookup_cons_self]
    exact hsame.isFile
  isFile' := by
    rw [node?_cons, List.lookup_append, h, List.lookup_cons_self]
    exact hsame.isFile'

/-- Where one tree has a directory the other has one. -/
theorem SameBut.exists_directory {file route : Route} {tree tree' : FileTree}
    (h : SameBut file tree tree') {entries : List (String × FileTree)}
    (hat : tree.at? route = some (directory entries)) :
    ∃ entries', tree'.at? route = some (directory entries') := by
  have hnode : tree.node? route = some .directory := by
    rw [node?, hat]
    rfl
  have hne : route ≠ file := by
    rintro rfl
    exact h.isFile hnode
  rw [h.node?_eq route hne, node?, Option.map_eq_some_iff] at hnode
  obtain ⟨sub, hsub, hdirectory⟩ := hnode
  cases sub with
  | file bytes => cases hdirectory
  | directory entries' => exact ⟨entries', hsub⟩

/-- What the parts of a path lead to in one tree they lead to in the other, if there is anything. -/
theorem SameBut.follow_eq {file : Route} {top top' tree tree' below below' : FileTree}
    {back : Route} {above above' : List FileTree} {parts : List String}
    (hsame : SameBut file top top') (h : Spine top back above tree)
    (h' : Spine top' back above' tree') (hfollow : follow above tree parts = .ok below)
    (hat : top'.at? (Path.arrive back parts) = some below') :
    follow above' tree' parts = .ok below' := by
  induction parts generalizing back above above' tree tree' with
  | nil =>
    rw [Path.arrive, h'.at?_eq] at hat
    cases hat
    exact follow_nil above' _
  | cons part rest ih =>
    cases tree with
    | file bytes => cases hfollow
    | directory entries =>
      obtain ⟨entries', rfl⟩ : ∃ entries', tree' = directory entries' := by
        obtain ⟨entries', hentries'⟩ := hsame.exists_directory h.at?_eq
        rw [h'.at?_eq] at hentries'
        exact ⟨entries', Option.some.inj hentries'⟩
      rcases isIdle_or_isName part with hidle | rfl | hname
      · rw [Path.arrive_idle hidle] at hat
        rw [follow_idle hidle] at hfollow ⊢
        exact ih h h' hfollow hat
      · rw [Path.arrive_back] at hat
        cases h with
        | top =>
          cases h' with
          | top =>
            rw [follow_outside] at hfollow ⊢
            exact ih .top .top hfollow hat
        | down hparent _ =>
          cases h' with
          | down hparent' _ =>
            rw [follow_back] at hfollow ⊢
            exact ih hparent hparent' hfollow hat
      · rw [Path.arrive_name hname] at hat
        rw [follow_name hname] at hfollow ⊢
        cases hlookup : entries.lookup part with
        | none =>
          rw [hlookup] at hfollow
          cases hfollow
        | some sub =>
          rw [hlookup] at hfollow
          have hsub := h.down hlookup
          cases hlookup' : entries'.lookup part with
          | some sub' => exact ih hsub (h'.down hlookup') hfollow hat
          | none =>
            -- only a file can be missing, and behind a file no path goes on
            have hnone : top'.at? (part :: back).reverse = none := by
              rw [List.reverse_cons, at?_append, h'.at?_eq, Option.bind_some, at?, hlookup']
              rfl
            cases sub with
            | directory inside =>
              obtain ⟨inside', hinside'⟩ := hsame.exists_directory hsub.at?_eq
              rw [hnone] at hinside'
              cases hinside'
            | file bytes =>
              cases rest with
              | cons next rest => cases hfollow
              | nil =>
                rw [Path.arrive, hnone] at hat
                cases hat

end FileTree

/-! ## File systems that differ in one file -/

namespace FileSystem

open FileTree

/-- A path leads to a route if it leads to what stands there, and to nothing where nothing does. -/
def Leads (system : FileSystem) (path : Path) (route : Route) : Prop :=
  ∀ below, system.descend path = .ok below ↔ system.tree.at? route = some below

variable {system : FileSystem} {path : Path} {below : FileTree}

/-- What a path leads to stands at its destination. -/
theorem at?_of_descend (h : system.descend path = .ok below) :
    system.tree.at? (system.destination path) = some below :=
  Spine.top.at?_of_follow (descend_eq_ok_iff.1 h).2

theorem leads_of_descend (h : system.descend path = .ok below) :
    system.Leads path (system.destination path) := by
  intro below'
  rw [h, at?_of_descend h, Except.ok.injEq, Option.some.injEq]

/-- The same file system with other files. -/
def withTree (system : FileSystem) (tree : FileTree) : FileSystem := { system with tree }

/-- **A path leads to the same place with other files**, if it leads anywhere and only one file is
another. -/
theorem leads_of_sameBut {file : Route} {tree' : FileTree}
    (hsame : SameBut file system.tree tree') (h : system.descend path = .ok below) :
    (system.withTree tree').Leads path (system.destination path) := by
  obtain ⟨hempty, hfollow⟩ := descend_eq_ok_iff.1 h
  refine fun below' => ⟨at?_of_descend, fun hat => ?_⟩
  exact descend_eq_ok_iff.2 ⟨hempty, hsame.follow_eq .top .top hfollow hat⟩

end FileSystem

end ComponentFile
