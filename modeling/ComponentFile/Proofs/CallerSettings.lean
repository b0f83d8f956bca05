import ComponentFile.Module
import ComponentFile.Proofs.SettingsText

/-!
# The caller's settings on their way to the script engine

A caller's settings are read from a text, changed for each script, and encoded again for the engine.
Nothing that belongs to the engine gets lost or mixed up on the way.

**In.**  The settings are those that the value of the text describes
(`CompileSettings.parse_eq_ok_iff`).

**Changed.**  Only members that have a meaning here are set for a script, so that the settings stay
apart from what they leave to the engine, and what they hold is known under each name
(`setting?_scriptSettings`).

**Out.**  `engineMember` is what the engine should get under each name, given the caller's object.
**`callerSettings_reach_engine`** says that it does.
-/

namespace ComponentFile

/-- What the script engine should find under a name, given the members of the caller's object, the
metadata of the document and the tag of the script: a source map is always asked for, the file names
are those of the document, a dialect that the caller sets counts before the one on the tag, and all
else is the caller's. -/
def engineMember (caller : List (String × Json)) (metadata : Metadata) (script : Tag) :
    String → Option Json
  | "sourceMap" => some (.bool true)
  | "filename" => some (.str metadata.virtualPath)
  | "sourceFileName" => some (.str metadata.virtualPath)
  | "sourceMapTarget" => some (.str (metadata.virtualPath ++ ".map"))
  | "lang" =>
    match caller.lookup "lang" with
    | none | some .null => (script.attributes.value? "lang").map .str
    | some lang => some lang
  | name => caller.lookup name

open ScriptSettings

theorem setting?_scriptSettings {caller : List (String × Json)} {settings : ScriptSettings}
    (h : Describes caller settings) (metadata : Metadata) (script : Tag) (name : String) :
    (scriptSettings settings metadata script).setting? name =
      engineMember caller metadata script name := by
  obtain ⟨haccepts, rfl⟩ := ofJson?_obj_eq_some_iff.1 h.decodes
  fun_cases engineMember caller metadata script name with
  | case1 | case2 | case3 | case4 => rfl
  | case5 hnone => simp [setting?, scriptSettings, ofMembers, text?, hnone]
  | case6 hnull => simp [setting?, scriptSettings, ofMembers, text?, hnull, Json.str?]
  | case7 lang hnull hlang =>
    have haccepted : accepts "lang" lang = true := haccepts _ (mem_of_lookup_eq_some hlang)
    obtain rfl | ⟨text, rfl⟩ := null_or_str_of_accepts (by decide) (by decide) haccepted
    · exact absurd rfl hnull
    · simp [setting?, scriptSettings, ofMembers, text?, hlang, Json.str?]
  | case8 =>
    have hname : name ∉ knownNames := notMem_knownNames ‹_› ‹_› ‹_› ‹_› ‹_›
    rw [setting?_of_notMem hname]
    exact lookup_extra_ofMembers hname caller

theorem calls_assembleModule (script : Tag) (literal : Option String) (settings : ScriptSettings)
    (metadata : Metadata) (engine : ScriptEngine) :
    (assembleModule (some script) literal settings metadata engine).calls =
      [.script (rewriteDefaultExport script.contents)
        (scriptSettings settings metadata script)] := by
  cases h : engine (rewriteDefaultExport script.contents)
      (scriptSettings settings metadata script) with
  | ok output => simp [assembleModule, Traced.callScript, h, bind, Traced.bind, Traced.lift, pure]
  | error error => simp [assembleModule, Traced.callScript, h, bind, Traced.bind, Traced.lift]

/-- **The caller's settings reach the engine.**  A text that can be read as a value gives settings
if no name with a meaning stands twice in its object there and the value, once merged, has an object
with the script settings that describes them; and then it gives no others.  Whatever text settings
are read from, some object describes them.

Whatever settings an object describes: no member that they leave to the engine has a meaning here,
and decoding their own object gives them back.  For every document and script, the settings that the
engine is asked with have an object without a name twice, are given back by it too, and have under
each name what they should: a value of the document's under the known names, and under all others
exactly what the caller's object has. -/
theorem callerSettings_reach_engine :
    (∀ text raw, Json.read text = .ok raw → ∀ settings,
      CompileSettings.parse text = .ok settings ↔
        CompileSettings.Unambiguous raw ∧
          ∃ caller, CompileSettings.callerObject? raw.merged = some caller ∧
            Describes caller settings.script) ∧
    (∀ text settings, CompileSettings.parse text = .ok settings →
      ∃ caller, Describes caller settings.script) ∧
    ∀ caller settings, Describes caller settings →
      (∀ name ∈ settings.extra.map Prod.fst, name ∉ knownNames) ∧
      ofJson? settings.toJson = some settings ∧
      ∀ (metadata : Metadata) (script : Tag),
        let sent := scriptSettings settings metadata script
        (∀ literal engine, (assembleModule (some script) literal settings metadata engine).calls =
          [.script (rewriteDefaultExport script.contents) sent]) ∧
        Describes sent.toJson.members sent ∧
        ∀ name, sent.toJson.member? name = engineMember caller metadata script name := by
  refine ⟨fun text raw h settings => CompileSettings.parse_eq_ok_iff h,
    fun text settings h => CompileSettings.exists_describes_of_parse h, ?_⟩
  intro caller settings h
  refine ⟨h.apart, (h.apart.describes_members h.nodup_extra).decodes, fun metadata script => ?_⟩
  -- only known members are set, so what is left to the engine is the same
  have hapart : (scriptSettings settings metadata script).Apart := h.apart
  refine ⟨?_, hapart.describes_members h.nodup_extra, fun name => ?_⟩
  · exact fun literal engine => calls_assembleModule script literal settings metadata engine
  · exact (hapart.lookup_members name).trans (setting?_scriptSettings h metadata script name)

/-- A caller that sets the dialect to `null` and wants no source map, and a script with a dialect on
its tag.  The caller's text holds `compact` twice, and the last one counts. -/
theorem callerSettings_reach_engine_nullDialect :
    let text := "\x7b\"script\":\x7b\"lang\":null,\"compact\":1," ++
      "\"sourceMap\":false,\"compact\":true\x7d\x7d"
    let caller : List (String × Json) :=
      [("lang", .null), ("compact", .bool true), ("sourceMap", .bool false)]
    let script : Tag :=
      ⟨"script", "", Attributes.empty.insert "lang" (.text "ts"), 0, 0⟩
    let sent := scriptSettings (ofMembers caller) ⟨"B.vue", some "acme:ui", "1"⟩ script
    CompileSettings.parse text = .ok ⟨ofMembers caller⟩ ∧
      Describes caller (ofMembers caller) ∧ Describes sent.toJson.members sent ∧
      sent.toJson.member? "sourceMap" = some (.bool true) ∧
      sent.toJson.member? "sourceMapTarget" = some (.str "/packages/acme:ui/B.vue.map") ∧
      sent.toJson.member? "lang" = some (.str "ts") ∧
      sent.toJson.member? "compact" = some (.bool true) ∧
      sent.toJson.member? "presets" = none := by
  intro text caller script sent
  let written : List (String × Json) :=
    [("lang", .null), ("compact", .int 1), ("sourceMap", .bool false), ("compact", .bool true)]
  have hread : Json.read text = .ok (.obj [("script", .obj written)]) := by
    dsimp only [text]
    rfl
  have h : Describes caller (ofMembers caller) := ⟨by decide, rfl⟩
  obtain ⟨hparse, -, hsent⟩ := callerSettings_reach_engine
  obtain ⟨-, -, hsent⟩ := hsent caller _ h
  obtain ⟨-, hdescribes, hmember⟩ := hsent ⟨"B.vue", some "acme:ui", "1"⟩ script
  have hclear : CompileSettings.Unambiguous (.obj [("script", .obj written)]) := by
    refine ⟨by decide, ?_⟩
    rintro _ ⟨⟩
    decide
  refine ⟨(hparse text _ hread _).2 ⟨hclear, caller, rfl, h⟩, h, hdescribes, ?_, ?_, ?_, ?_, ?_⟩
  all_goals exact (hmember _).trans rfl

end ComponentFile
