import ComponentFile.Proofs.JsonReading
import ComponentFile.Proofs.SettingsObject

/-!
# Settings in a text and in its value

Settings are read from a text in one go, member by member, and no value of the text is built.  Where
the text can be read as a value, the two agree: the settings are those that the value describes.

**The script settings.**  What is done with one member is `addMember`, and the reader follows it
(`readMember_follows`).  Done with all of them, it leaves the members of the merged object, provided
that the known names stand once and all members have values that they may have
(`foldlM_addMember_eq_some_iff`).

**The outermost object.**  Here the step is `addScript`.  The other members are passed over, which
works because they can be read.  `Holds` says what a value, as it is written, has to do with
settings, and **`parse_eq_ok_iff`** that the settings which are read are those.

**Texts that hold more.**  What is passed over may be more than could be read.  Even then the
settings are described by some object (`exists_describes_of_parse`).
-/

namespace ComponentFile

namespace ScriptSettings

/-! ## The script settings -/

section

variable {depth : Nat} {name : String} {value found : Json} {done next : List (String × Json)}
  {text rest after : List Char} {settings : ScriptSettings}

/-- The members read so far with one more: a known member is new and has a value that it may
have. -/
def addMember (done : List (String × Json)) : String × Json → Option (List (String × Json))
  | (name, value) =>
    if name ∈ knownNames → name ∉ done.map Prod.fst ∧ accepts name value = true then
      some (Json.setMember done name value.merged)
    else none

theorem addMember_eq_some_iff :
    addMember done (name, value) = some next ↔
      (name ∈ knownNames → name ∉ done.map Prod.fst ∧ accepts name value = true) ∧
        next = Json.setMember done name value.merged := by
  rw [addMember, Option.ite_none_right_eq_some, Option.some.injEq]
  exact and_congr_right fun _ => eq_comm

theorem accepts_merged (name : String) (value : Json) :
    accepts name value.merged = accepts name value := by
  cases value with
  | arr items => simp [Json.merged, accepts, Json.bool?]
  | obj members => simp [Json.merged_obj, accepts, Json.bool?]
  | _ => simp only [Json.merged]

theorem isScalar_of_accepts (hname : name ∈ knownNames) (h : accepts name value = true) :
    value.IsScalar := by
  cases value with
  | arr items => simp [accepts, hname, Json.bool?] at h
  | obj members => simp [accepts, hname, Json.bool?] at h
  | _ => trivial

theorem forall_accepts_setMember_iff (h : name ∈ knownNames → name ∉ done.map Prod.fst) :
    (∀ member ∈ Json.setMember done name value, accepts member.1 member.2 = true) ↔
      (∀ member ∈ done, accepts member.1 member.2 = true) ∧ accepts name value = true := by
  by_cases hname : name ∈ knownNames
  · rw [Json.setMember_of_notMem (h hname), List.forall_mem_append, List.forall_mem_singleton]
  · rw [and_iff_left (accepts_of_notMem hname value)]
    -- the members of that name have any value, and the others are the same
    have hsame (member : String × Json) (hne : member.1 ≠ name) :
        member ∈ Json.setMember done name value ↔ member ∈ done :=
      Json.mem_setMember_iff_of_ne hne
    constructor
    all_goals
      intro h member hmember
      by_cases hne : member.1 = name
      · exact accepts_of_notMem (hne ▸ hname) member.2
      · first
        | exact h member ((hsame member hne).1 hmember)
        | exact h member ((hsame member hne).2 hmember)

/-- **Reading all members.**  The known names stand once, and all members have values that they may
have. -/
theorem foldlM_addMember_eq_some_iff {raw members : List (String × Json)} :
    raw.foldlM addMember [] = some members ↔
      Json.Once knownNames raw ∧
        (∀ member ∈ Json.settled raw, accepts member.1 member.2 = true) ∧
        members = Json.settled raw := by
  induction raw using List.reverseRecOn generalizing members with
  | nil =>
    constructor
    · rintro ⟨⟩
      exact ⟨Json.once_nil _, List.forall_mem_nil _, rfl⟩
    · rintro ⟨-, -, rfl⟩
      rfl
  | append_singleton raw member ih =>
    obtain ⟨name, value⟩ := member
    simp only [List.foldlM_append, List.foldlM_cons, List.foldlM_nil, bind_pure,
      Option.bind_eq_bind, Option.bind_eq_some_iff, ih, addMember_eq_some_iff,
      Json.once_concat, Json.settled_concat]
    constructor
    · rintro ⟨_, ⟨honce, haccepts, rfl⟩, hnew, rfl⟩
      have hnew' (hname : name ∈ knownNames) : name ∉ raw.map Prod.fst :=
        mt Json.mem_names_settled.2 (hnew hname).1
      have hvalue : accepts name value.merged = true := by
        rw [accepts_merged]
        by_cases hname : name ∈ knownNames
        · exact (hnew hname).2
        · exact accepts_of_notMem hname value
      exact ⟨⟨honce, hnew'⟩,
        (forall_accepts_setMember_iff fun hname => (hnew hname).1).2 ⟨haccepts, hvalue⟩, rfl⟩
    · rintro ⟨⟨honce, hnew⟩, haccepts, rfl⟩
      have hnew' (hname : name ∈ knownNames) : name ∉ (Json.settled raw).map Prod.fst :=
        mt Json.mem_names_settled.1 (hnew hname)
      obtain ⟨haccepts, hvalue⟩ := (forall_accepts_setMember_iff hnew').1 haccepts
      rw [accepts_merged] at hvalue
      exact ⟨_, ⟨honce, haccepts, rfl⟩, fun hname => ⟨hnew' hname, hvalue⟩, rfl⟩

/-- A known member is read if its value can be read and is one that it may have. -/
theorem readKnown_eq_ok_iff (hname : name ∈ knownNames)
    (h : Reader.value .keep depth text = .ok (value, rest)) :
    readKnown name text = .ok (found, after) ↔
      accepts name value = true ∧ found = value ∧ after = rest := by
  rcases Reader.value_eq_ok_iff.1 h with ⟨_, behind, items, -, hhere, -, rfl⟩ |
    ⟨_, behind, members, -, hhere, -, rfl⟩ | ⟨harr, hobj, hscalar⟩
  · rw [readKnown, hhere]
    exact ⟨nofun, fun h => (isScalar_of_accepts hname h.1).elim⟩
  · rw [readKnown, hhere]
    exact ⟨nofun, fun h => (isScalar_of_accepts hname h.1).elim⟩
  · unfold readKnown
    split
    case h_1 hhere => exact absurd hhere (harr _)
    case h_2 hhere => exact absurd hhere (hobj _)
    case h_3 =>
      simp only [hscalar, bind, Except.bind, pure, Except.pure]
      split_ifs with haccepts
      · simp [haccepts, eq_comm]
      · exact ⟨nofun, fun h => absurd h.1 haccepts⟩

/-- **Reading one member.** -/
theorem readMember_follows (depth : Nat) :
    Reader.Follows (Reader.value .keep depth) (readMember depth) addMember := by
  intro done name text afterSign value rest next after hsign hvalue
  rw [addMember_eq_some_iff]
  unfold readMember
  split_ifs with hname hset
  · have hmem : name ∈ done.map Prod.fst := by
      by_contra hnew
      rw [lookup_eq_none_iff_notMem.2 hnew] at hset
      cases hset
    exact ⟨nofun, fun h => absurd hmem (h.1.1 hname).1⟩
  · have hnew : name ∉ done.map Prod.fst :=
      lookup_eq_none_iff_notMem.1 (Option.not_isSome_iff_eq_none.1 hset)
    constructor
    · intro h
      obtain ⟨⟨_, _⟩, hsign', h⟩ := Except.bind_eq_ok_iff.1 h
      obtain ⟨-, rfl⟩ := Prod.mk.inj (Except.ok.inj (hsign.symm.trans hsign'))
      obtain ⟨⟨_, _⟩, hknown, h⟩ := Except.bind_eq_ok_iff.1 h
      obtain ⟨haccepts, rfl, rfl⟩ := (readKnown_eq_ok_iff hname hvalue).1 hknown
      cases h
      rw [(isScalar_of_accepts hname haccepts).merged_eq, Json.setMember_of_notMem hnew]
      exact ⟨⟨fun _ => ⟨hnew, haccepts⟩, rfl⟩, rfl⟩
    · rintro ⟨⟨h, rfl⟩, rfl⟩
      have haccepts := (h hname).2
      have hknown := (readKnown_eq_ok_iff hname hvalue).2 ⟨haccepts, rfl, rfl⟩
      rw [(isScalar_of_accepts hname haccepts).merged_eq, Json.setMember_of_notMem hnew]
      simp only [hsign, hknown, bind, Except.bind, pure, Except.pure]
  · simp only [hsign, hvalue, bind, Except.bind, pure, Except.pure, Except.ok.injEq,
      Prod.mk.injEq]
    constructor
    · rintro ⟨rfl, rfl⟩
      exact ⟨⟨fun h => absurd h hname, rfl⟩, rfl⟩
    · rintro ⟨⟨-, rfl⟩, rfl⟩
      exact ⟨rfl, rfl⟩

/-- What is wrong is not read. -/
theorem wrongKind_ne_ok {α : Type} {value : α} : wrongKind text ≠ .ok (value, rest) := by
  intro h
  unfold wrongKind at h
  split at h
  · cases h
  · cases h
  · split at h <;> cases h

/-- The settings that a value describes as it is written, each known name once. -/
def ofWritten? (value : Json) : Option ScriptSettings :=
  if Json.Once knownNames value.members then ofJson? value.merged else none

theorem ofWritten?_eq_some_iff :
    ofWritten? value = some settings ↔
      Json.Once knownNames value.members ∧
        ∃ caller, value.merged.object? = some caller ∧ Describes caller settings := by
  rw [ofWritten?, Option.ite_none_right_eq_some]
  refine and_congr_right fun _ => ⟨fun h => ?_, ?_⟩
  · cases hmerged : value.merged with
    | obj caller =>
      have hobject : value.merged.object? = some caller := by rw [hmerged, Json.object?]
      rw [hmerged] at h
      exact ⟨caller, rfl, Json.nodup_of_object?_merged hobject, h⟩
    | _ =>
      rw [hmerged] at h
      cases h
  · rintro ⟨caller, hcaller, hdescribes⟩
    cases hmerged : value.merged with
    | obj members =>
      rw [hmerged] at hcaller
      cases hcaller
      exact hdescribes.decodes
    | _ =>
      rw [hmerged] at hcaller
      cases hcaller

theorem ofWritten?_obj_eq_some_iff {raw : List (String × Json)} :
    ofWritten? (.obj raw) = some settings ↔
      ∃ members, raw.foldlM addMember [] = some members ∧ ofMembers members = settings := by
  rw [ofWritten?, Json.merged_obj, Option.ite_none_right_eq_some, ofJson?_obj_eq_some_iff]
  constructor
  · rintro ⟨honce, haccepts, rfl⟩
    exact ⟨_, foldlM_addMember_eq_some_iff.2 ⟨honce, haccepts, rfl⟩, rfl⟩
  · rintro ⟨members, hfold, rfl⟩
    obtain ⟨honce, haccepts, rfl⟩ := foldlM_addMember_eq_some_iff.1 hfold
    exact ⟨honce, haccepts, rfl⟩

theorem ofWritten?_eq_none (h : ∀ raw, value ≠ .obj raw) : ofWritten? value = none := by
  cases value with
  | obj raw => exact absurd rfl (h raw)
  | arr items => exact ite_self none
  | _ => exact ite_self none

/-- **Reading script settings.** -/
theorem read_eq_ok_iff (h : Reader.value .keep (depth + 1) text = .ok (value, rest)) :
    read depth text = .ok (settings, after) ↔ ofWritten? value = some settings ∧ after = rest := by
  have hwrong {text : List Char} (hvalue : ∀ raw, value ≠ .obj raw) :
      wrongKind text = .ok (settings, after) ↔
        ofWritten? value = some settings ∧ after = rest := by
    rw [ofWritten?_eq_none hvalue]
    exact ⟨fun h => absurd h wrongKind_ne_ok, nofun⟩
  rcases Reader.value_eq_ok_iff.1 h with ⟨_, behind, items, -, hhere, -, rfl⟩ |
    ⟨inner, behind, raw, hinner, hhere, hmembers, rfl⟩ | ⟨-, hobj, hscalar⟩
  · rw [read, hhere]
    exact hwrong nofun
  · obtain rfl : depth = inner := Nat.succ.inj hinner
    obtain ⟨_, rfl, hread⟩ := (readMember_follows depth).members_eq_ok_iff hmembers
    rw [read, hhere, ofWritten?_obj_eq_some_iff]
    constructor
    · intro hok
      obtain ⟨⟨members, _⟩, hmembers, hok⟩ := Except.bind_eq_ok_iff.1 hok
      obtain ⟨hfold, rfl⟩ := hread.1 hmembers
      obtain ⟨rfl, rfl⟩ := Prod.mk.inj (Except.ok.inj hok)
      exact ⟨⟨members, hfold, rfl⟩, rfl⟩
    · rintro ⟨⟨members, hfold, rfl⟩, rfl⟩
      exact Except.bind_eq_ok_iff.2 ⟨(members, after), hread.2 ⟨hfold, rfl⟩, rfl⟩
  · unfold read
    split
    case h_1 hhere => exact absurd hhere (hobj _)
    case h_2 =>
      refine hwrong fun raw hraw => ?_
      subst hraw
      exact Reader.isScalar_of_scalar hscalar

end

end ScriptSettings

namespace CompileSettings

/-! ## The outermost object -/

open ScriptSettings

section

variable {name : String} {value raw : Json} {script last : Option ScriptSettings}
  {outer : List (String × Json)} {text rest after : List Char} {settings : CompileSettings}

/-- The script settings read so far after one more member. -/
def addScript (script : Option ScriptSettings) : String × Json → Option (Option ScriptSettings)
  | (name, value) =>
    if name = "script" then
      if script.isSome then none else (ofWritten? value).map some
    else some script

theorem addScript_none (value : Json) :
    addScript none ("script", value) = (ofWritten? value).map some := rfl

theorem addScript_of_ne (h : name ≠ "script") (script : Option ScriptSettings) (value : Json) :
    addScript script (name, value) = some script := if_neg h

theorem foldlM_addScript_some {found : ScriptSettings} :
    outer.foldlM addScript (some found) = some last ↔
      "script" ∉ outer.map Prod.fst ∧ last = some found := by
  induction outer with
  | nil => simp [eq_comm]
  | cons member outer ih =>
    obtain ⟨name, value⟩ := member
    rw [List.foldlM_cons, List.map_cons, List.mem_cons, not_or]
    by_cases hname : name = "script"
    · subst hname
      exact ⟨nofun, fun h => absurd rfl h.1.1⟩
    · rw [addScript_of_ne hname, and_iff_right (Ne.symm hname)]
      exact ih

/-- **Reading all members of the outermost object.** -/
theorem foldlM_addScript_none :
    outer.foldlM addScript none = some last ↔
      Json.Once ["script"] outer ∧ (outer.lookup "script").mapM ofWritten? = some last := by
  induction outer with
  | nil =>
    constructor
    · rintro ⟨⟩
      exact ⟨Json.once_nil _, rfl⟩
    · rintro ⟨-, ⟨⟩⟩
      rfl
  | cons member outer ih =>
    obtain ⟨name, value⟩ := member
    rw [List.foldlM_cons, Json.once_cons, List.mem_singleton]
    by_cases hname : name = "script"
    · subst hname
      rw [addScript_none, List.lookup_cons_self, Option.mapM_some]
      cases hvalue : ofWritten? value with
      | none => exact ⟨nofun, fun h => nomatch h.2⟩
      | some found =>
        refine foldlM_addScript_some.trans ⟨?_, ?_⟩
        · rintro ⟨hnew, rfl⟩
          exact ⟨⟨fun _ => hnew, Json.once_of_notMem hnew⟩, rfl⟩
        · rintro ⟨⟨hnew, -⟩, ⟨⟩⟩
          exact ⟨hnew rfl, rfl⟩
    · rw [addScript_of_ne hname, List.lookup_cons, beq_false_of_ne (Ne.symm hname),
        and_iff_right fun h => absurd h hname]
      exact ih

theorem readMember_follows :
    Reader.Follows (Reader.value .keep (Json.maxDepth - 1)) readMember addScript := by
  intro script name text afterSign value rest next after hsign hvalue
  by_cases hname : name = "script"
  · subst hname
    unfold readMember
    rw [if_pos rfl]
    cases script with
    | some found => exact ⟨nofun, fun h => nomatch h.1⟩
    | none =>
      rw [addScript_none, Option.map_eq_some_iff]
      constructor
      · intro h
        obtain ⟨⟨_, _⟩, hsign', h⟩ := Except.bind_eq_ok_iff.1 h
        obtain ⟨-, rfl⟩ := Prod.mk.inj (Except.ok.inj (hsign.symm.trans hsign'))
        obtain ⟨⟨found, _⟩, hfound, h⟩ := Except.bind_eq_ok_iff.1 h
        obtain ⟨rfl, rfl⟩ := Prod.mk.inj (Except.ok.inj h)
        obtain ⟨hfound, rfl⟩ := (ScriptSettings.read_eq_ok_iff hvalue).1 hfound
        exact ⟨⟨found, hfound, rfl⟩, rfl⟩
      · rintro ⟨⟨found, hfound, rfl⟩, rfl⟩
        have hread := (ScriptSettings.read_eq_ok_iff hvalue).2 ⟨hfound, rfl⟩
        exact Except.bind_eq_ok_iff.2 ⟨_, hsign, Except.bind_eq_ok_iff.2 ⟨_, hread, rfl⟩⟩
  · rw [addScript_of_ne hname]
    unfold readMember
    simp only [if_neg hname, hsign, Reader.skipValue_eq_ok hvalue, bind, Except.bind, pure,
      Except.pure, Except.ok.injEq, Prod.mk.injEq, Option.some.injEq]
    exact and_congr_right fun _ => eq_comm

/-- The members of the object with the script settings, in the value of a whole text.  Without one,
it is the empty object. -/
def callerObject? : Json → Option (List (String × Json))
  | .obj members =>
    match members.lookup "script" with
    | none => some []
    | some value => value.object?
  | .arr [] => some []
  | .arr [value] => value.object?
  | _ => none

/-- In a value as it is written, no name that has a meaning stands twice in its object. -/
def Unambiguous : Json → Prop
  | .obj members =>
    Json.Once ["script"] members ∧
      ∀ value ∈ members.lookup "script", Json.Once knownNames value.members
  | .arr items => ∀ value ∈ items, Json.Once knownNames value.members
  | _ => True

/-- The settings that a value holds, as it is written. -/
def Holds (value : Json) (settings : CompileSettings) : Prop :=
  Unambiguous value ∧
    ∃ caller, callerObject? value.merged = some caller ∧ Describes caller settings.script

theorem describes_nil : Describes [] {} := ⟨List.nodup_nil, rfl⟩

theorem holds_obj_iff :
    Holds (.obj outer) settings ↔
      ∃ script, outer.foldlM addScript none = some script ∧ settings = ⟨script.getD {}⟩ := by
  have hlookup (h : Json.Once ["script"] outer) :=
    Json.lookup_settled_of_once h (List.mem_singleton_self _)
  simp only [Holds, Unambiguous, callerObject?, Json.merged_obj, foldlM_addScript_none]
  cases hscript : outer.lookup "script" with
  | none =>
    rw [hscript, Option.map_none] at hlookup
    constructor
    · rintro ⟨⟨honce, -⟩, caller, hcaller, hdescribes⟩
      rw [hlookup honce] at hcaller
      cases hcaller
      obtain ⟨script⟩ := settings
      exact ⟨none, ⟨honce, rfl⟩, congrArg mk hdescribes.eq⟩
    · rintro ⟨script, ⟨honce, ⟨⟩⟩, rfl⟩
      exact ⟨⟨honce, nofun⟩, [], by rw [hlookup honce], describes_nil⟩
  | some value =>
    rw [hscript, Option.map_some] at hlookup
    rw [Option.mapM_some]
    constructor
    · rintro ⟨⟨honce, hvalue⟩, caller, hcaller, hdescribes⟩
      rw [hlookup honce] at hcaller
      have hwritten := ofWritten?_eq_some_iff.2 ⟨hvalue value rfl, caller, hcaller, hdescribes⟩
      exact ⟨some settings.script, ⟨honce, Option.map_eq_some_iff.2 ⟨_, hwritten, rfl⟩⟩, rfl⟩
    · rintro ⟨script, ⟨honce, hlast⟩, rfl⟩
      obtain ⟨found, hfound, rfl⟩ := Option.map_eq_some_iff.1 hlast
      obtain ⟨hvalue, caller, hcaller, hdescribes⟩ := ofWritten?_eq_some_iff.1 hfound
      refine ⟨⟨honce, ?_⟩, caller, ?_, hdescribes⟩
      · rintro _ ⟨⟩
        exact hvalue
      · rw [hlookup honce]
        exact hcaller

theorem holds_arr_singleton_iff :
    Holds (.arr [value]) settings ↔ ofWritten? value = some settings.script := by
  rw [ofWritten?_eq_some_iff, Holds, Unambiguous, List.forall_mem_singleton]
  rfl

theorem not_holds_arr {first second : Json} {others : List Json} :
    ¬ Holds (.arr (first :: second :: others)) settings := by
  rintro ⟨-, caller, hcaller, -⟩
  cases hcaller

theorem not_holds_of_isScalar (h : value.IsScalar) : ¬ Holds value settings := by
  rintro ⟨-, caller, hcaller, -⟩
  rw [h.merged_eq] at hcaller
  cases value with
  | arr items => exact h
  | obj members => exact h
  | _ => cases hcaller

theorem readObject_eq_ok_iff
    (h : Reader.members .keep (Reader.collect (Reader.value .keep (Json.maxDepth - 1))) true
      (text.length + 1) [] text = .ok (outer, rest)) :
    readObject text = .ok (settings, after) ↔ Holds (.obj outer) settings ∧ after = rest := by
  obtain ⟨_, rfl, hread⟩ := readMember_follows.members_eq_ok_iff h
  rw [holds_obj_iff, readObject, Except.bind_eq_ok_iff]
  constructor
  · rintro ⟨⟨script, _⟩, hscript, ⟨⟩⟩
    obtain ⟨hfold, rfl⟩ := hread.1 hscript
    exact ⟨⟨script, hfold, rfl⟩, rfl⟩
  · rintro ⟨⟨script, hfold, rfl⟩, rfl⟩
    exact ⟨(script, after), hread.2 ⟨hfold, rfl⟩, rfl⟩

/-- Behind an item of an array stands its bracket if that was the last one. -/
theorem sign_of_items {item : Reader Json} {limit : Nat} {items : List Json}
    (h : Reader.items item false limit text = .ok (items, rest)) :
    Reader.sign ']' text = .ok ((), after) ↔ items = [] ∧ after = rest := by
  have hsign (h : Reader.sign ']' text = .ok ((), after)) :
      Reader.skipBlanks text = ']' :: after := (Reader.eq_of_word h).2
  cases limit with
  | zero => cases h
  | succ limit =>
    rcases Reader.items_succ_eq_ok_iff.1 h with ⟨hclose, rfl⟩ | ⟨here, hentry, _, _, _, -, -, rfl⟩
    · constructor
      · intro h
        obtain ⟨-, rfl⟩ := List.cons.inj ((hsign h).symm.trans hclose)
        exact ⟨rfl, rfl⟩
      · rintro ⟨-, rfl⟩
        rw [Reader.sign, hclose]
        rfl
    · have hcomma : Reader.skipBlanks text = ',' :: here := hentry
      refine ⟨fun h => ?_, fun h => nomatch h.1⟩
      have hsame := (hsign h).symm.trans hcomma
      cases hsame

theorem readArray_eq_ok_iff {items : List Json}
    (h : Reader.items (Reader.value .keep (Json.maxDepth - 1)) true (text.length + 1) text =
      .ok (items, rest)) :
    readArray text = .ok (settings, after) ↔ Holds (.arr items) settings ∧ after = rest := by
  unfold readArray
  rcases Reader.items_succ_eq_ok_iff.1 h with ⟨hclose, rfl⟩ |
    ⟨here, ⟨rfl, hempty, hclose⟩, head, afterHead, tail, hhead, htail, rfl⟩
  · rw [hclose]
    constructor
    · rintro ⟨⟩
      exact ⟨⟨nofun, [], rfl, describes_nil⟩, rfl⟩
    · rintro ⟨⟨-, caller, ⟨⟩, hdescribes⟩, rfl⟩
      obtain ⟨script⟩ := settings
      obtain rfl : script = {} := hdescribes.eq
      rfl
  · split
    case h_1 hhere => exact absurd hhere hempty
    case h_2 hhere => exact absurd hhere (hclose _)
    case h_3 =>
      constructor
      · intro hok
        obtain ⟨⟨script, _⟩, hscript, hok⟩ := Except.bind_eq_ok_iff.1 hok
        obtain ⟨⟨⟨⟩, _⟩, hsign, hok⟩ := Except.bind_eq_ok_iff.1 hok
        obtain ⟨rfl, rfl⟩ := Prod.mk.inj (Except.ok.inj hok)
        obtain ⟨hscript, rfl⟩ := (ScriptSettings.read_eq_ok_iff hhead).1 hscript
        obtain ⟨rfl, rfl⟩ := (sign_of_items htail).1 hsign
        exact ⟨holds_arr_singleton_iff.2 hscript, rfl⟩
      · rintro ⟨hholds, rfl⟩
        cases tail with
        | nil =>
          have hscript := (ScriptSettings.read_eq_ok_iff hhead).2
            ⟨holds_arr_singleton_iff.1 hholds, rfl⟩
          have hsign := (sign_of_items htail).2 ⟨rfl, rfl⟩
          exact Except.bind_eq_ok_iff.2 ⟨_, hscript, Except.bind_eq_ok_iff.2 ⟨_, hsign, rfl⟩⟩
        | cons second others => exact absurd hholds not_holds_arr

/-- **Reading settings.** -/
theorem read_eq_ok_iff (h : Reader.value .keep Json.maxDepth text = .ok (raw, rest)) :
    read text = .ok (settings, after) ↔ Holds raw settings ∧ after = rest := by
  rcases Reader.value_eq_ok_iff.1 h with ⟨inner, behind, items, hinner, hhere, hitems, rfl⟩ |
    ⟨inner, behind, outer, hinner, hhere, hmembers, rfl⟩ | ⟨harr, hobj, hscalar⟩
  · obtain rfl : Json.maxDepth - 1 = inner := Nat.succ.inj hinner
    rw [read, hhere]
    exact readArray_eq_ok_iff hitems
  · obtain rfl : Json.maxDepth - 1 = inner := Nat.succ.inj hinner
    rw [read, hhere]
    exact readObject_eq_ok_iff hmembers
  · unfold read
    split
    case h_1 hhere => exact absurd hhere (hobj _)
    case h_2 hhere => exact absurd hhere (harr _)
    case h_3 =>
      exact ⟨fun h => absurd h wrongKind_ne_ok,
        fun h => absurd h.1 (not_holds_of_isScalar (Reader.isScalar_of_scalar hscalar))⟩

/-- **The settings in a text are those that its value describes.** -/
theorem parse_eq_ok_iff {text : String} (h : Json.read text = .ok raw) :
    parse text = .ok settings ↔ Holds raw settings := by
  obtain ⟨⟨_, rest⟩, hraw, h⟩ := Except.bind_eq_ok_iff.1 h
  obtain ⟨⟨⟩, hend, h⟩ := Except.bind_eq_ok_iff.1 h
  cases h
  rw [parse, Except.bind_eq_ok_iff]
  constructor
  · rintro ⟨⟨found, after⟩, hread, h⟩
    obtain ⟨_, -, h⟩ := Except.bind_eq_ok_iff.1 h
    cases h
    exact ((read_eq_ok_iff hraw).1 hread).1
  · intro hholds
    exact ⟨_, (read_eq_ok_iff hraw).2 ⟨hholds, rfl⟩, Except.bind_eq_ok_iff.2 ⟨(), hend, rfl⟩⟩

end

end CompileSettings

/-! ## Texts that hold more -/

namespace ScriptSettings

/-- Members that describe settings: of different names, each with a value that it may have. -/
structure Acceptable (members : List (String × Json)) : Prop where
  distinct : (members.map Prod.fst).Nodup
  accepts : ∀ member ∈ members, accepts member.1 member.2 = true

theorem Acceptable.nil : Acceptable [] := ⟨List.nodup_nil, by simp⟩

theorem Acceptable.describes {members : List (String × Json)} (h : Acceptable members) :
    Describes members (ofMembers members) :=
  ⟨h.distinct, ofJson?_obj_eq_some_iff.2 ⟨h.accepts, rfl⟩⟩

theorem accepts_of_readKnown {name : String} {text rest : List Char} {value : Json}
    (h : readKnown name text = .ok (value, rest)) : accepts name value = true := by
  rw [readKnown] at h
  split at h
  · cases h
  · cases h
  · obtain ⟨⟨found, after⟩, -, h⟩ := Except.bind_eq_ok_iff.1 h
    dsimp only at h
    split at h
    · next haccepts =>
      cases h
      exact haccepts
    · cases h

theorem Acceptable.setMember {done : List (String × Json)} {name : String} {value : Json}
    (h : Acceptable done) (hnew : name ∈ knownNames → name ∉ done.map Prod.fst)
    (hvalue : ScriptSettings.accepts name value = true) :
    Acceptable (Json.setMember done name value) :=
  ⟨Json.nodup_setMember h.distinct, (forall_accepts_setMember_iff hnew).2 ⟨h.accepts, hvalue⟩⟩

/-- A member that is read keeps the members acceptable. -/
theorem acceptable_readMember {depth : Nat} {done next : List (String × Json)} {name : String}
    {text rest : List Char} (hdone : Acceptable done)
    (h : readMember depth done name text = .ok (next, rest)) : Acceptable next := by
  unfold readMember at h
  split_ifs at h with hname hset
  · have hnew : name ∉ done.map Prod.fst :=
      lookup_eq_none_iff_notMem.1 (Option.not_isSome_iff_eq_none.1 hset)
    obtain ⟨⟨_, afterSign⟩, -, h⟩ := Except.bind_eq_ok_iff.1 h
    obtain ⟨⟨value, afterValue⟩, hvalue, h⟩ := Except.bind_eq_ok_iff.1 h
    cases h
    rw [← Json.setMember_of_notMem hnew]
    exact hdone.setMember (fun _ => hnew) (accepts_of_readKnown hvalue)
  · obtain ⟨⟨_, afterSign⟩, -, h⟩ := Except.bind_eq_ok_iff.1 h
    obtain ⟨⟨value, afterValue⟩, -, h⟩ := Except.bind_eq_ok_iff.1 h
    cases h
    exact hdone.setMember (fun h => absurd h hname) (accepts_of_notMem hname _)

/-- Settings that are read from a text are described by an object. -/
theorem exists_describes_of_read {depth : Nat} {text rest : List Char} {settings : ScriptSettings}
    (h : read depth text = .ok (settings, rest)) : ∃ caller, Describes caller settings := by
  unfold read at h
  split at h
  · obtain ⟨⟨members, after⟩, hmembers, h⟩ := Except.bind_eq_ok_iff.1 h
    cases h
    have hacceptable : Acceptable members :=
      Reader.invariant_members acceptable_readMember .nil hmembers
    exact ⟨members, hacceptable.describes⟩
  · exact absurd h wrongKind_ne_ok

end ScriptSettings

namespace CompileSettings

open ScriptSettings

/-- The script settings that a text holds, or none of them, are described by an object. -/
theorem exists_describes_of_readMember {script next : Option ScriptSettings} {name : String}
    {text rest : List Char} (hscript : ∀ settings ∈ script, ∃ caller, Describes caller settings)
    (h : readMember script name text = .ok (next, rest)) :
    ∀ settings ∈ next, ∃ caller, Describes caller settings := by
  unfold readMember at h
  split at h
  · split at h
    · cases h
    · obtain ⟨⟨_, afterSign⟩, _, h⟩ := Except.bind_eq_ok_iff.1 h
      obtain ⟨⟨settings, afterValue⟩, hsettings, h⟩ := Except.bind_eq_ok_iff.1 h
      cases h
      rintro _ ⟨⟩
      exact exists_describes_of_read hsettings
  · obtain ⟨⟨_, afterSign⟩, _, h⟩ := Except.bind_eq_ok_iff.1 h
    obtain ⟨⟨_, afterValue⟩, _, h⟩ := Except.bind_eq_ok_iff.1 h
    cases h
    exact hscript

theorem exists_describes_of_readObject {text rest : List Char} {settings : CompileSettings}
    (h : readObject text = .ok (settings, rest)) : ∃ caller, Describes caller settings.script := by
  obtain ⟨⟨script, after⟩, hscript, h⟩ := Except.bind_eq_ok_iff.1 h
  cases h
  have hinvariant := Reader.invariant_members exists_describes_of_readMember (by simp) hscript
  cases script with
  | none => exact ⟨[], describes_nil⟩
  | some script => exact hinvariant script rfl

theorem exists_describes_of_readArray {text rest : List Char} {settings : CompileSettings}
    (h : readArray text = .ok (settings, rest)) : ∃ caller, Describes caller settings.script := by
  unfold readArray at h
  split at h
  · cases h
  · cases h
    exact ⟨[], describes_nil⟩
  · obtain ⟨⟨script, after⟩, hscript, h⟩ := Except.bind_eq_ok_iff.1 h
    obtain ⟨_, -, h⟩ := Except.bind_eq_ok_iff.1 h
    cases h
    exact exists_describes_of_read hscript

/-- **Whatever is read from a text is described by an object**; without any settings it is the empty
one. -/
theorem exists_describes_of_parse {text : String} {settings : CompileSettings}
    (h : parse text = .ok settings) : ∃ caller, Describes caller settings.script := by
  obtain ⟨⟨found, rest⟩, hread, h⟩ := Except.bind_eq_ok_iff.1 h
  obtain ⟨_, _, h⟩ := Except.bind_eq_ok_iff.1 h
  cases h
  unfold read at hread
  split at hread
  · exact exists_describes_of_readObject hread
  · exact exists_describes_of_readArray hread
  · exact absurd hread wrongKind_ne_ok

end CompileSettings

end ComponentFile
