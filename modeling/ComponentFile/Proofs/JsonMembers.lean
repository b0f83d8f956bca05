import ComponentFile.Json.Basic
import Mathlib

/-!
# Members of objects

The members of an object are found by their names.  As long as an object is as it was written, it
may have several members of one name; once it is merged, the last of them counts.

**Merging.**  `Json.settled` are the members of an object once it is merged.  They have distinct
names (`nodup_settled`).  Where some of the names stand `Once`, looking them up does not need
merging (`lookup_settled_of_once`).
-/

namespace ComponentFile

/-! ## Members by name -/

section

variable {α : Type} {members : List (String × α)} {name : String}

theorem lookup_eq_none_iff_notMem : members.lookup name = none ↔ name ∉ members.map Prod.fst := by
  rw [List.lookup_eq_none_iff, List.mem_map]
  constructor
  · rintro h ⟨member, hmember, rfl⟩
    simpa using h member hmember
  · intro h member hmember
    rw [bne_iff_ne]
    rintro rfl
    exact h ⟨member, hmember, rfl⟩

theorem mem_of_lookup_eq_some {value : α} (h : members.lookup name = some value) :
    (name, value) ∈ members := by
  obtain ⟨before, after, rfl, -⟩ := List.lookup_eq_some_iff.1 h
  simp

/-- Where members are kept by their names, those of a name are all kept or all dropped. -/
theorem lookup_filter_names (keep : String → Bool) (members : List (String × α)) (name : String) :
    (members.filter fun member => keep member.1).lookup name =
      if keep name then members.lookup name else none := by
  induction members with
  | nil => simp
  | cons member members ih =>
    obtain ⟨other, value⟩ := member
    rw [List.filter_cons]
    by_cases hname : name = other
    · subst hname
      cases hkeep : keep name with
      | true => simp
      | false => simpa [hkeep] using ih
    · have hne : (name == other) = false := beq_false_of_ne hname
      cases keep other with
      | true => simp [List.lookup_cons, hne, ih]
      | false => simp [List.lookup_cons, hne, ih]

end

namespace Json

/-! ## One name, several members -/

section

variable {names : List String} {members : List (String × Json)} {name other : String}
  {value : Json}

theorem names_setMember (members : List (String × Json)) (name : String) (value : Json) :
    (setMember members name value).map Prod.fst =
      if name ∈ members.map Prod.fst then members.map Prod.fst
      else members.map Prod.fst ++ [name] := by
  induction members with
  | nil => rfl
  | cons member members ih =>
    obtain ⟨other, old⟩ := member
    rw [setMember]
    by_cases hname : other = name
    · simp [hname]
    · rw [if_neg hname, List.map_cons, ih, List.map_cons]
      by_cases hmem : name ∈ members.map Prod.fst
      · rw [if_pos hmem, if_pos (List.mem_cons_of_mem _ hmem)]
      · rw [if_neg hmem, if_neg (by simpa [Ne.symm hname] using hmem), List.cons_append]

theorem nodup_setMember (h : (members.map Prod.fst).Nodup) :
    ((setMember members name value).map Prod.fst).Nodup := by
  rw [names_setMember]
  split
  · exact h
  · next hname =>
    rw [← List.concat_eq_append]
    exact h.concat hname

theorem mem_names_setMember :
    other ∈ (setMember members name value).map Prod.fst ↔
      other ∈ members.map Prod.fst ∨ other = name := by
  rw [names_setMember]
  split
  · next hname =>
    refine ⟨.inl, ?_⟩
    rintro (h | rfl)
    · exact h
    · exact hname
  · rw [List.mem_append, List.mem_singleton]

theorem setMember_of_notMem (h : name ∉ members.map Prod.fst) :
    setMember members name value = members ++ [(name, value)] := by
  induction members with
  | nil => rfl
  | cons member members ih =>
    obtain ⟨other, old⟩ := member
    rw [List.map_cons, List.mem_cons, not_or] at h
    rw [setMember, if_neg (Ne.symm h.1), ih h.2, List.cons_append]

theorem mem_setMember_iff_of_ne {member : String × Json} (h : member.1 ≠ name) :
    member ∈ setMember members name value ↔ member ∈ members := by
  have hne : member ≠ (name, value) := fun heq => h (congrArg Prod.fst heq)
  induction members with
  | nil => simp [setMember, hne]
  | cons head members ih =>
    obtain ⟨other, old⟩ := head
    rw [setMember]
    split
    · next heq =>
      have hne' : member ≠ (other, old) := fun hmember => h (hmember ▸ heq)
      rw [List.mem_cons, List.mem_cons, or_iff_right hne, or_iff_right hne']
    · rw [List.mem_cons, List.mem_cons]
      exact or_congr_right ih

theorem lookup_setMember :
    (setMember members name value).lookup other =
      if other = name then some value else members.lookup other := by
  induction members with
  | nil =>
    by_cases h : other = name
    · simp [setMember, h]
    · simp [setMember, List.lookup_cons, h, beq_false_of_ne h]
  | cons head members ih =>
    obtain ⟨first, old⟩ := head
    rw [setMember]
    by_cases hfirst : first = name
    · subst hfirst
      by_cases h : other = first
      · simp [h]
      · simp [List.lookup_cons, h, beq_false_of_ne h]
    · rw [if_neg hfirst]
      by_cases h : other = first
      · subst h
        simp [hfirst]
      · simp only [List.lookup_cons, beq_false_of_ne h, ih]

/-- Each of some names stands at most once among the members. -/
def Once (names : List String) (members : List (String × Json)) : Prop :=
  ∀ name ∈ names, (members.map Prod.fst).count name ≤ 1

instance : Decidable (Once names members) :=
  inferInstanceAs (Decidable (∀ name ∈ names, _))

theorem once_nil (names : List String) : Once names [] := fun _ _ => Nat.zero_le _

theorem once_of_notMem (h : name ∉ members.map Prod.fst) : Once [name] members := by
  intro other hother
  rw [List.mem_singleton.1 hother, List.count_eq_zero.2 h]
  exact Nat.zero_le _

theorem once_cons :
    Once names ((name, value) :: members) ↔
      (name ∈ names → name ∉ members.map Prod.fst) ∧ Once names members := by
  simp only [Once, List.map_cons, List.count_cons, beq_iff_eq, ← List.count_eq_zero]
  constructor
  · intro h
    refine ⟨fun hname => ?_, fun other hother => ?_⟩
    · have hcount := h name hname
      rw [if_pos rfl] at hcount
      omega
    · exact Nat.le_of_add_right_le (h other hother)
  · rintro ⟨hnew, h⟩ other hother
    split_ifs with heq
    · subst heq
      rw [hnew hother]
    · exact h other hother

theorem once_concat :
    Once names (members ++ [(name, value)]) ↔
      Once names members ∧ (name ∈ names → name ∉ members.map Prod.fst) := by
  have hperm : ((members ++ [(name, value)]).map Prod.fst).Perm
      (((name, value) :: members).map Prod.fst) :=
    (List.perm_append_singleton _ _).map _
  have hcount : Once names (members ++ [(name, value)]) ↔
      Once names ((name, value) :: members) := by
    simp only [Once, hperm.count_eq]
  rw [hcount, once_cons, and_comm]

/-- The members of an object in which the last of several members of one name counts, each value
merged. -/
def settled (members : List (String × Json)) : List (String × Json) :=
  members.foldl (fun done (name, value) => setMember done name value.merged) []

theorem settled_concat (members : List (String × Json)) (name : String) (value : Json) :
    settled (members ++ [(name, value)]) = setMember (settled members) name value.merged :=
  List.foldl_append

theorem merged_obj (members : List (String × Json)) :
    (obj members).merged = obj (settled members) := by
  have hmap (done : List (String × Json)) :
      (mergedMembers members).foldl (fun done (name, value) => setMember done name value) done =
        members.foldl (fun done (name, value) => setMember done name value.merged) done := by
    induction members generalizing done with
    | nil => rw [mergedMembers, List.foldl_nil, List.foldl_nil]
    | cons member members ih => rw [mergedMembers, List.foldl_cons, List.foldl_cons, ih]
  rw [merged, ofMembers, hmap, settled]

theorem mem_names_settled :
    name ∈ (settled members).map Prod.fst ↔ name ∈ members.map Prod.fst := by
  induction members using List.reverseRecOn with
  | nil => rfl
  | append_singleton members member ih =>
    rw [settled_concat, mem_names_setMember, ih, List.map_append, List.mem_append,
      List.map_singleton, List.mem_singleton]

theorem nodup_settled (members : List (String × Json)) :
    ((settled members).map Prod.fst).Nodup := by
  induction members using List.reverseRecOn with
  | nil => exact List.nodup_nil
  | append_singleton members member ih =>
    rw [settled_concat]
    exact nodup_setMember ih

/-- A name that stands once has the same value before and after. -/
theorem lookup_settled_of_once (h : Once names members) (hname : name ∈ names) :
    (settled members).lookup name = (members.lookup name).map merged := by
  induction members using List.reverseRecOn with
  | nil => rfl
  | append_singleton members member ih =>
    obtain ⟨other, value⟩ := member
    obtain ⟨honce, hnew⟩ := once_concat.1 h
    rw [settled_concat, lookup_setMember, List.lookup_append]
    split_ifs with heq
    · subst heq
      rw [lookup_eq_none_iff_notMem.2 (hnew hname), Option.none_or, List.lookup_cons_self,
        Option.map_some]
    · rw [ih honce, List.lookup_cons, beq_false_of_ne heq]
      simp

/-! ## Kinds of values -/

/-- The members of an object; other values are none. -/
def object? : Json → Option (List (String × Json))
  | obj members => some members
  | _ => none

/-- A merged object has each name once. -/
theorem nodup_of_object?_merged (h : value.merged.object? = some members) :
    (members.map Prod.fst).Nodup := by
  cases value with
  | obj raw =>
    rw [merged_obj] at h
    cases h
    exact nodup_settled raw
  | _ => cases h

/-- Neither an array nor an object. -/
def IsScalar : Json → Prop
  | arr _ => False
  | obj _ => False
  | _ => True

theorem IsScalar.merged_eq (h : value.IsScalar) : value.merged = value := by
  cases value with
  | arr items => exact h.elim
  | obj members => exact h.elim
  | _ => rfl

end

end Json

end ComponentFile
