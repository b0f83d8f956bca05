import ComponentFile.Proofs.JsonMembers
import ComponentFile.Settings

/-!
# Settings and their objects

The settings of the script engine stand for a flat object.  Five of its members have a meaning here,
and all the others belong to the engine.

**Encoding.**  `setting?` is what settings hold under a name, and `Apart.lookup_members` says that
their object has the same under it, provided that the members left to the engine are `Apart` from
the known ones.

**Decoding.**  `ofJson?` says which settings a JSON value describes.  The settings of an object are
apart (`apart_ofMembers`), and for those decoding takes back what encoding does
(`Apart.ofMembers_members`).  `Describes` is what an object and its settings have to do with each
other; the object that settings are encoded as describes them (`Apart.describes_members`).
-/

namespace ComponentFile

namespace ScriptSettings

/-! ## Encoding -/

/-- What settings hold under a name. -/
def setting? (settings : ScriptSettings) : String → Option Json
  | "sourceMap" => some (.bool settings.sourceMap)
  | "filename" => settings.filename.map .str
  | "sourceFileName" => settings.sourceFileName.map .str
  | "sourceMapTarget" => settings.sourceMapTarget.map .str
  | "lang" => settings.lang.map .str
  | name => settings.extra.lookup name

/-- The members left to the engine have names of their own. -/
def Apart (settings : ScriptSettings) : Prop :=
  ∀ name ∈ settings.extra.map Prod.fst, name ∉ knownNames

/-- The members that have a meaning here. -/
def knownMembers (settings : ScriptSettings) : List (String × Json) :=
  ("sourceMap", .bool settings.sourceMap) ::
    (textMember "filename" settings.filename ++
      textMember "sourceFileName" settings.sourceFileName ++
      textMember "sourceMapTarget" settings.sourceMapTarget ++
      textMember "lang" settings.lang)

section

variable {settings : ScriptSettings}

theorem members_eq (settings : ScriptSettings) :
    settings.members = settings.knownMembers ++ settings.extra := rfl

theorem notMem_knownNames {name : String} (hmap : name ≠ "sourceMap") (hfile : name ≠ "filename")
    (hsource : name ≠ "sourceFileName") (htarget : name ≠ "sourceMapTarget")
    (hlang : name ≠ "lang") : name ∉ knownNames := by
  simp [knownNames, hmap, hfile, hsource, htarget, hlang]

theorem setting?_of_notMem {name : String} (h : name ∉ knownNames) :
    settings.setting? name = settings.extra.lookup name := by
  fun_cases setting? settings name with
  | case1 | case2 | case3 | case4 | case5 => exact absurd (by decide) h
  | case6 => rfl

theorem names_textMember_sublist (name : String) (value : Option String) :
    ((textMember name value).map Prod.fst).Sublist [name] := by
  cases value with
  | none => exact List.nil_sublist _
  | some text => exact List.Sublist.refl _

theorem names_knownMembers_sublist (settings : ScriptSettings) :
    (settings.knownMembers.map Prod.fst).Sublist knownNames := by
  simp only [knownMembers, List.map_cons, List.map_append]
  refine .cons_cons "sourceMap" ?_
  exact (((names_textMember_sublist _ _).append (names_textMember_sublist _ _)).append
    (names_textMember_sublist _ _)).append (names_textMember_sublist _ _)

theorem name_mem_of_mem_knownMembers {member : String × Json}
    (h : member ∈ settings.knownMembers) : member.1 ∈ knownNames :=
  (names_knownMembers_sublist settings).subset (List.mem_map_of_mem h)

theorem lookup_textMember (name : String) (value : Option String) (other : String) :
    (textMember name value).lookup other = if other = name then value.map .str else none := by
  by_cases h : other = name
  · cases value <;> simp [textMember, h]
  · have hne : (other == name) = false := beq_false_of_ne h
    cases value <;> simp [textMember, List.lookup_cons, h, hne]

/-- A name that is known is looked up among the known members. -/
theorem Apart.lookup_members_of_mem (h : settings.Apart) {name : String}
    (hname : name ∈ knownNames) :
    settings.members.lookup name = settings.knownMembers.lookup name := by
  have hnone : settings.extra.lookup name = none :=
    lookup_eq_none_iff_notMem.2 fun hmem => h name hmem hname
  rw [members_eq, List.lookup_append, hnone, Option.or_none]

/-- The object of settings has what the settings hold. -/
theorem Apart.lookup_members (h : settings.Apart) (name : String) :
    settings.members.lookup name = settings.setting? name := by
  by_cases hname : name ∈ knownNames
  · rw [h.lookup_members_of_mem hname]
    fun_cases setting? settings name with
    | case1 => rfl
    | case2 | case3 | case4 | case5 =>
      simp [knownMembers, List.lookup_append, List.lookup_cons, lookup_textMember]
    | case6 => exact absurd hname (notMem_knownNames ‹_› ‹_› ‹_› ‹_› ‹_›)
  · have hnone : settings.knownMembers.lookup name = none :=
      lookup_eq_none_iff_notMem.2 fun hmem => hname ((names_knownMembers_sublist _).subset hmem)
    rw [setting?_of_notMem hname, members_eq, List.lookup_append, hnone, Option.none_or]

/-- The object of settings has each of their names once. -/
theorem Apart.nodup_members (h : settings.Apart) (hextra : (settings.extra.map Prod.fst).Nodup) :
    (settings.members.map Prod.fst).Nodup := by
  rw [members_eq, List.map_append]
  refine List.nodup_append.2
    ⟨(names_knownMembers_sublist settings).nodup (by decide), hextra, ?_⟩
  rintro name hname other hother rfl
  exact h name hother ((names_knownMembers_sublist settings).subset hname)

end

/-! ## Decoding -/

theorem extra_ofMembers (caller : List (String × Json)) :
    (ofMembers caller).extra = caller.filter fun member => decide (member.1 ∉ knownNames) := rfl

/-- What is decoded leaves to the engine only what has no meaning here. -/
theorem apart_ofMembers (caller : List (String × Json)) : (ofMembers caller).Apart := by
  intro name hname
  obtain ⟨member, hmember, rfl⟩ := List.mem_map.1 hname
  simpa using (List.mem_filter.1 hmember).2

/-- All of it, and nothing else. -/
theorem lookup_extra_ofMembers {name : String} (h : name ∉ knownNames)
    (caller : List (String × Json)) :
    (ofMembers caller).extra.lookup name = caller.lookup name := by
  rw [extra_ofMembers, lookup_filter_names fun name => decide (name ∉ knownNames),
    if_pos (decide_eq_true h)]

/-- **Decoding takes back what encoding does.** -/
theorem Apart.ofMembers_members {settings : ScriptSettings} (h : settings.Apart) :
    ofMembers settings.members = settings := by
  have htext (value : Option String) : (value.map Json.str).bind Json.str? = value := by
    cases value <;> rfl
  have hextra : (ofMembers settings.members).extra = settings.extra := by
    have hdropped : settings.knownMembers.filter (fun member => decide (member.1 ∉ knownNames)) =
        [] :=
      List.filter_eq_nil_iff.2 fun member hmember => by
        simpa using name_mem_of_mem_knownMembers hmember
    have hkept : settings.extra.filter (fun member => decide (member.1 ∉ knownNames)) =
        settings.extra :=
      List.filter_eq_self.2 fun member hmember =>
        decide_eq_true (h member.1 (List.mem_map_of_mem hmember))
    rw [extra_ofMembers, members_eq, List.filter_append, hdropped, hkept, List.nil_append]
  obtain ⟨sourceMap, filename, sourceFileName, sourceMapTarget, lang, extra⟩ := settings
  rw [ofMembers, mk.injEq]
  simp only [text?, h.lookup_members, setting?, htext]
  exact ⟨rfl, trivial, trivial, trivial, trivial, hextra⟩

/-- The settings that a JSON value describes: those of an object whose members have values that they
may have. -/
def ofJson? : Json → Option ScriptSettings
  | .obj members =>
    if members.all fun (name, value) => accepts name value then some (ofMembers members) else none
  | _ => none

theorem ofJson?_obj_eq_some_iff {caller : List (String × Json)} {settings : ScriptSettings} :
    ofJson? (.obj caller) = some settings ↔
      (∀ member ∈ caller, accepts member.1 member.2 = true) ∧ settings = ofMembers caller := by
  have hdecode : ofJson? (.obj caller) =
      if caller.all (fun member => accepts member.1 member.2) then some (ofMembers caller)
      else none := rfl
  rw [hdecode, Option.ite_none_right_eq_some, List.all_eq_true, Option.some.injEq, eq_comm]

theorem accepts_of_notMem {name : String} (h : name ∉ knownNames) (value : Json) :
    accepts name value = true := by
  have hname : name ≠ "sourceMap" := by
    rintro rfl
    exact h (by decide)
  simp [accepts, h, hname]

/-- The value of a known member other than the source map switch. -/
theorem null_or_str_of_accepts {name : String} (hknown : name ∈ knownNames)
    (hname : name ≠ "sourceMap") {value : Json} (h : accepts name value = true) :
    value = .null ∨ ∃ text, value = .str text := by
  unfold accepts at h
  rw [if_neg hname, if_pos hknown] at h
  cases value with
  | null => exact .inl rfl
  | str text => exact .inr ⟨text, rfl⟩
  | _ => cases h

theorem accepts_of_mem_textMember {name : String} (h : name ≠ "sourceMap") {value : Option String}
    {member : String × Json} (hmember : member ∈ textMember name value) :
    accepts member.1 member.2 = true := by
  cases value with
  | none => cases hmember
  | some text =>
    obtain rfl := List.mem_singleton.1 hmember
    simp [accepts, h]

theorem Apart.accepts_members {settings : ScriptSettings} (h : settings.Apart) :
    ∀ member ∈ settings.members, accepts member.1 member.2 = true := by
  intro member hmember
  rw [members_eq, List.mem_append] at hmember
  rcases hmember with hknown | hextra
  · simp only [knownMembers, List.mem_cons, List.mem_append] at hknown
    rcases hknown with rfl | ((htext | htext) | htext) | htext
    · rfl
    all_goals exact accepts_of_mem_textMember (by decide) htext
  · exact accepts_of_notMem (h member.1 (List.mem_map_of_mem hextra)) member.2

/-- The members of an object that describes settings. -/
structure Describes (caller : List (String × Json)) (settings : ScriptSettings) : Prop where
  distinct : (caller.map Prod.fst).Nodup
  decodes : ofJson? (.obj caller) = some settings

theorem Describes.eq {caller : List (String × Json)} {settings : ScriptSettings}
    (h : Describes caller settings) : settings = ofMembers caller :=
  (ofJson?_obj_eq_some_iff.1 h.decodes).2

theorem Describes.apart {caller : List (String × Json)} {settings : ScriptSettings}
    (h : Describes caller settings) : settings.Apart := by
  rw [h.eq]
  exact apart_ofMembers caller

theorem Describes.nodup_extra {caller : List (String × Json)} {settings : ScriptSettings}
    (h : Describes caller settings) : (settings.extra.map Prod.fst).Nodup := by
  rw [h.eq, extra_ofMembers]
  exact (List.filter_sublist.map Prod.fst).nodup h.distinct

/-- Settings describe themselves. -/
theorem Apart.describes_members {settings : ScriptSettings} (h : settings.Apart)
    (hextra : (settings.extra.map Prod.fst).Nodup) : Describes settings.members settings :=
  ⟨h.nodup_members hextra,
    ofJson?_obj_eq_some_iff.2 ⟨h.accepts_members, h.ofMembers_members.symm⟩⟩

end ScriptSettings

end ComponentFile
