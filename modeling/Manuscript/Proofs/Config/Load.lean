import Manuscript.Config.Load
import Manuscript.Proofs.Config.Build

/-!
# What loading a configuration file comes to

A file is meant to be loaded, or refused with a fault of validation. It is, but for three kinds of
files that break loading down, whatever the loader of YAML:

* `projectSection_breakdown_iff`: a project file whose bytes are no text, or whose entry `tool` is
  no table;
* `decodeWith_of_decodingBreaks`: a file of another format whose bytes are no text, or a YAML file
  that the loader breaks down on;
* `validated_loadWith_iff`: a file that is named or was found is loaded or refused unless it is of
  such a kind.
-/

namespace Manuscript.Config

/-! ### Outcomes of reading a file -/

/-- A refusal of a file for what it is, not for what it holds. -/
inductive RefusesFile : ValidationCause → Prop
  | missing (path : String) : RefusesFile (.configMissing path)
  | format (extension : String) : RefusesFile (.configFormat extension)

/-- **An outcome is judged**: it is a result with a property, a refusal for what the file holds, or
a breakdown of a certain kind. -/
def Judged {α : Type} (p : α → Prop) (breaks : Breakdown → Prop) (r : Outcome α) : Prop :=
  (∃ a, r = .ok a ∧ p a) ∨ (∃ cause, r = invalid cause ∧ ¬ RefusesFile cause) ∨
    ∃ b, r = .error (.breakdown b) ∧ breaks b

namespace Judged

variable {α β : Type} {p : α → Prop} {q : β → Prop} {breaks : Breakdown → Prop} {r : Outcome α}

theorem ok {a : α} (h : p a) : Judged p breaks (.ok a) := .inl ⟨a, rfl, h⟩

theorem refused {cause : ValidationCause} (h : ¬ RefusesFile cause) :
    Judged p breaks (invalid cause) := .inr (.inl ⟨cause, rfl, h⟩)

theorem broken {b : Breakdown} (h : breaks b) : Judged p breaks (.error (.breakdown b)) :=
  .inr (.inr ⟨b, rfl, h⟩)

theorem bind {f : α → Outcome β} (h : Judged p breaks r) (hf : ∀ a, p a → Judged q breaks (f a)) :
    Judged q breaks (r >>= f) := by
  obtain ⟨a, rfl, ha⟩ | ⟨cause, rfl, hcause⟩ | ⟨b, rfl, hb⟩ := h
  · exact hf a ha
  · exact refused hcause
  · exact broken hb

theorem map {f : α → β} (h : Judged p breaks r) (hf : ∀ a, p a → q (f a)) :
    Judged q breaks (r.map f) := by
  obtain ⟨a, rfl, ha⟩ | ⟨cause, rfl, hcause⟩ | ⟨b, rfl, hb⟩ := h
  · exact ok (hf a ha)
  · exact refused hcause
  · exact broken hb

theorem widen {wider : Breakdown → Prop} (h : Judged p breaks r)
    (hb : ∀ b, breaks b → wider b) : Judged p wider r := by
  obtain ⟨a, rfl, ha⟩ | ⟨cause, rfl, hcause⟩ | ⟨b, rfl, hbreaks⟩ := h
  · exact ok ha
  · exact refused hcause
  · exact broken (hb b hbreaks)

/-- A judged outcome breaks down in no other way than it may. -/
theorem of_breakdown {b : Breakdown} (h : Judged p breaks (.error (.breakdown b))) : breaks b := by
  obtain ⟨a, ha, -⟩ | ⟨cause, hcause, -⟩ | ⟨c, hc, hbreaks⟩ := h
  · cases ha
  · cases hcause
  · cases hc
    exact hbreaks

end Judged

/-! ### Project files -/

/-- A project file holds a configuration section. -/
def HoldsSection (data : ByteArray) (entries : Entries) : Prop :=
  ∃ text tables tool, String.fromUTF8? data = some text ∧ Toml.read? text = some tables ∧
    Value.field? "tool" tables = some (.map tool) ∧
    Value.field? "md2latex" tool = some (.map entries)

/-- What looking for the section of a project file breaks down with. -/
inductive SectionBreaks (data : ByteArray) : Breakdown → Prop
  | undecodable (h : String.fromUTF8? data = none) : SectionBreaks data .undecodableBytes
  | toolNotTable {text : String} {tables : Entries} {v : Value}
      (decoded : String.fromUTF8? data = some text) (read : Toml.read? text = some tables)
      (found : Value.field? "tool" tables = some v) (notTable : ∀ tool, v ≠ .map tool) :
      SectionBreaks data .missingAttribute

section Project

variable {shown : String} {data : ByteArray} {entries : Entries} {b : Breakdown}

/-- An entry is looked for in a table only. -/
theorem subtable_cases (name : String) (v : Value) :
    (∃ table, v = .map table ∧
        subtable name v = .ok ((Value.field? name table).getD (.map []))) ∨
      (∀ table, v ≠ .map table) ∧ subtable name v = .error (.breakdown .missingAttribute) := by
  cases v with
  | map table => exact .inl ⟨table, rfl, rfl⟩
  | _ => exact .inr ⟨by simp, rfl⟩

/-- The entry of a table that is one itself is an empty table, or the table that stands there. -/
theorem getD_field?_eq_map {name : String} {table : Entries}
    (h : (Value.field? name table).getD (.map []) = .map entries) :
    entries = [] ∨ Value.field? name table = some (.map entries) := by
  cases hfield : Value.field? name table with
  | none =>
    rw [hfield] at h
    exact .inl (Value.map.inj h).symm
  | some v =>
    rw [hfield] at h
    exact .inr (congrArg some h)

theorem projectSection_judged (shown : String) (data : ByteArray) :
    Judged (fun entries => entries = [] ∨ HoldsSection data entries) (SectionBreaks data)
      (projectSection shown data) := by
  unfold projectSection
  cases hdecoded : String.fromUTF8? data with
  | none => exact .broken (.undecodable hdecoded)
  | some text =>
    dsimp only
    cases hread : Toml.read? text with
    | none => exact .refused (by rintro ⟨⟩)
    | some tables =>
      obtain ⟨v, hv, htop⟩ : ∃ v, (Value.field? "tool" tables).getD (.map []) = v ∧
          subtable "tool" (.map tables) = .ok v := ⟨_, rfl, rfl⟩
      simp only [htop, bind, Except.bind]
      obtain ⟨tool, rfl, hsection⟩ | ⟨hnot, hbroken⟩ := subtable_cases "md2latex" v
      · rw [hsection]
        dsimp only
        split
        next entries hentries =>
          refine .ok ((getD_field?_eq_map hentries).imp_right fun hfield => ?_)
          obtain rfl | hfound := getD_field?_eq_map hv
          · cases hfield
          · exact ⟨text, tables, tool, hdecoded, hread, hfound, hfield⟩
        next => exact .refused (by rintro ⟨⟩)
      · rw [hbroken]
        refine .broken ?_
        cases hfound : Value.field? "tool" tables with
        | none => exact absurd (by rw [← hv, hfound]; rfl) (hnot [])
        | some u =>
          obtain rfl : u = v := by rw [← hv, hfound]; rfl
          exact .toolNotTable hdecoded hread hfound hnot

theorem projectSection_of_holdsSection (shown : String) (h : HoldsSection data entries) :
    projectSection shown data = .ok entries := by
  obtain ⟨text, tables, tool, hdecoded, hread, htool, hsection⟩ := h
  simp only [projectSection, hdecoded, hread, subtable, htool, hsection, Option.getD_some, bind,
    Except.bind]
  rfl

theorem projectSection_of_sectionBreaks (shown : String) (h : SectionBreaks data b) :
    projectSection shown data = .error (.breakdown b) := by
  cases h with
  | undecodable hdecoded => simp only [projectSection, hdecoded]
  | @toolNotTable text tables v hdecoded hread hfound hnot =>
    have htool : subtable "tool" (.map tables) = .ok v := by rw [subtable, hfound]; rfl
    obtain ⟨table, hv, -⟩ | ⟨-, hbroken⟩ := subtable_cases "md2latex" v
    · exact absurd hv (hnot table)
    · simp only [projectSection, hdecoded, hread, htool, bind, Except.bind, hbroken]

theorem projectSection_ok_iff (hne : entries ≠ []) :
    projectSection shown data = .ok entries ↔ HoldsSection data entries := by
  refine ⟨fun h => ?_, projectSection_of_holdsSection shown⟩
  obtain ⟨found, hok, hfound⟩ | ⟨cause, hinvalid, -⟩ | ⟨b, herror, -⟩ :=
    projectSection_judged shown data
  · obtain rfl := Except.ok.inj (h.symm.trans hok)
    exact hfound.resolve_left hne
  · cases h.symm.trans hinvalid
  · cases h.symm.trans herror

/-- **What looking for the section of a project file breaks down with.** -/
theorem projectSection_breakdown_iff :
    projectSection shown data = .error (.breakdown b) ↔ SectionBreaks data b := by
  refine ⟨fun h => ?_, projectSection_of_sectionBreaks shown⟩
  have hjudged := projectSection_judged shown data
  rw [h] at hjudged
  exact hjudged.of_breakdown

theorem not_sectionBreaks_of_validated
    (h : Validated (fun _ => True) (projectSection shown data)) : ¬ SectionBreaks data b :=
  fun hb => h.ne_breakdown b (projectSection_of_sectionBreaks shown hb)

end Project

/-! ### Files of every format -/

/-- What reading a configuration file of a format breaks down with, with a loader for YAML. -/
inductive DecodingBreaks {α : Type} (l : Yaml.Loader α) (data : ByteArray) :
    Format → Breakdown → Prop
  | undecodable {format : Format} (ne_yaml : format ≠ .yaml) (h : String.fromUTF8? data = none) :
      DecodingBreaks l data format .undecodableBytes
  | yaml {b : Breakdown} (h : l.loadFile data = .error (.breakdown b)) :
      DecodingBreaks l data .yaml b
  | project {b : Breakdown} (h : SectionBreaks data b) : DecodingBreaks l data .project b

section Decode

variable {α : Type} {l : Yaml.Loader α} {shown : String} {data : ByteArray} {format : Format}
  {b : Breakdown}

theorem textOfBytes?_eq_none_iff : textOfBytes? data = none ↔ String.fromUTF8? data = none := by
  simp [textOfBytes?]

theorem decodeWith_judged (l : Yaml.Loader α) (shown : String) (data : ByteArray)
    (format : Format) :
    Judged (fun _ => True) (DecodingBreaks l data format) (decodeWith l shown data format) := by
  cases format with
  | project =>
    rw [decodeWith]
    exact ((projectSection_judged shown data).widen fun _ => .project).map fun _ _ => trivial
  | toml =>
    rw [decodeWith]
    cases hdecoded : String.fromUTF8? data with
    | none => exact .broken (.undecodable nofun hdecoded)
    | some text =>
      dsimp only
      cases Toml.read? text with
      | none => exact .refused (by rintro ⟨⟩)
      | some tables => exact .ok trivial
  | yaml =>
    rw [decodeWith]
    cases hload : l.loadFile data with
    | ok root => exact .ok trivial
    | error problem =>
      cases problem with
      | malformed => exact .refused (by rintro ⟨⟩)
      | breakdown b => exact .broken (.yaml hload)
  | json =>
    rw [decodeWith, configText]
    cases hdecoded : textOfBytes? data with
    | none => exact .broken (.undecodable nofun (textOfBytes?_eq_none_iff.mp hdecoded))
    | some text =>
      simp only [bind, Except.bind]
      cases Json.read? text with
      | none => exact .refused (by rintro ⟨⟩)
      | some v => exact .ok trivial

theorem decodeWith_of_decodingBreaks (shown : String) (h : DecodingBreaks l data format b) :
    decodeWith l shown data format = .error (.breakdown b) := by
  cases h with
  | undecodable ne_yaml hdecoded =>
    cases format with
    | project =>
      rw [decodeWith, projectSection_of_sectionBreaks shown (.undecodable hdecoded)]
      rfl
    | toml => simp only [decodeWith, hdecoded]
    | yaml => exact absurd rfl ne_yaml
    | json =>
      rw [decodeWith, configText, textOfBytes?_eq_none_iff.mpr hdecoded]
      rfl
  | yaml hbreaks => simp only [decodeWith, hbreaks]
  | project hsection =>
    rw [decodeWith, projectSection_of_sectionBreaks shown hsection]
    rfl

end Decode

/-! ### Loading -/

/-- What loading a configuration file breaks down with, with a loader for YAML. -/
def LoadingBreaks {α : Type} (l : Yaml.Loader α) (t : FileTree) (here : Location) (f : ConfigFile)
    (b : Breakdown) : Prop :=
  ∃ data format, f.content? t here = some data ∧ formatOf? f.name = some format ∧
    DecodingBreaks l data format b

section Loading

variable {α : Type} {l : Yaml.Loader α} {t : FileTree} {here : Location} {f : ConfigFile}
  {b : Breakdown}

theorem loadWith_of_format {data : ByteArray} {format : Format}
    (hdata : f.content? t here = some data) (hformat : formatOf? f.name = some format) :
    loadWith l t here f = decodeWith l f.text data format >>= rootMapping l f.text := by
  simp only [loadWith, hdata, hformat]

theorem rootMapping_judged (l : Yaml.Loader α) (shown : String) (root : Root α)
    (breaks : Breakdown → Prop) : Judged (fun _ => True) breaks (rootMapping l shown root) := by
  unfold rootMapping
  split
  · exact .ok trivial
  · exact .ok trivial
  · exact .refused (by rintro ⟨⟩)

/-- A configuration file that is there and has a format is loaded or refused for what it holds, or
loading it breaks down. -/
theorem loadWith_judged {data : ByteArray} {format : Format}
    (hdata : f.content? t here = some data) (hformat : formatOf? f.name = some format) :
    Judged (fun _ => True) (DecodingBreaks l data format) (loadWith l t here f) := by
  rw [loadWith_of_format hdata hformat]
  exact (decodeWith_judged l f.text data format).bind fun root _ =>
    rootMapping_judged l f.text root _

/-- A configuration file is loaded or refused, or loading it breaks down as it may. -/
theorem loadWith_cases (l : Yaml.Loader α) (t : FileTree) (here : Location) (f : ConfigFile) :
    Validated (fun _ => True) (loadWith l t here f) ∨ ∃ b, LoadingBreaks l t here f b := by
  cases hdata : f.content? t here with
  | none => exact .inl (.inr ⟨.configMissing f.text, by simp only [loadWith, hdata]; rfl⟩)
  | some data =>
    cases hformat : formatOf? f.name with
    | none => exact .inl (.inr ⟨_, by simp only [loadWith, hdata, hformat]; rfl⟩)
    | some format =>
      obtain ⟨fields, hok, -⟩ | ⟨cause, hinvalid, -⟩ | ⟨b, -, hbreaks⟩ :=
        loadWith_judged hdata hformat
      · exact .inl (.inl ⟨fields, hok, trivial⟩)
      · exact .inl (.inr ⟨cause, hinvalid⟩)
      · exact .inr ⟨b, data, format, hdata, hformat, hbreaks⟩

theorem loadWith_of_loadingBreaks (h : LoadingBreaks l t here f b) :
    loadWith l t here f = .error (.breakdown b) := by
  obtain ⟨data, format, hdata, hformat, hbreaks⟩ := h
  rw [loadWith_of_format hdata hformat, decodeWith_of_decodingBreaks f.text hbreaks]
  rfl

/-- **A configuration file is loaded or refused** unless loading it breaks down, which it does as
`LoadingBreaks` tells. -/
theorem validated_loadWith_iff (l : Yaml.Loader α) (t : FileTree) (here : Location)
    (f : ConfigFile) :
    (Validated (fun _ => True) (loadWith l t here f) ↔ ∀ b, ¬ LoadingBreaks l t here f b) ∧
      ∀ b, loadWith l t here f = .error (.breakdown b) ↔ LoadingBreaks l t here f b :=
  Outcome.settled_iff_of_cases (loadWith_cases l t here f) Validated.ne_breakdown
    fun _ => loadWith_of_loadingBreaks

end Loading

end Manuscript.Config
