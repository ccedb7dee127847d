import Manuscript.Config.Build
import Manuscript.Proofs.Options.Update
import Manuscript.Proofs.Outcome

/-!
# What a configuration is built to

A configuration is meant to be built to options in which every field has the value that the table of
its section gives to it, or its default (`Describes`), or to be refused with a fault of validation.
`build_validated_iff` tells exactly when this is so. Two kinds of values slip through (`Escapes`):

* a key that is no section and not even a text, since unknown keys are put in order and joined
  before they are refused;
* an image width that is neither a text nor bytes, in a table that is sound otherwise.
-/

namespace Manuscript

/-! ### Outcomes of validation -/

/-- A result with a property, or a fault of validation. -/
def Validated {α : Type} (p : α → Prop) (r : Outcome α) : Prop :=
  (∃ a, r = .ok a ∧ p a) ∨ ∃ cause, r = .error (.fault (.validation cause))

namespace Validated

variable {α β : Type} {p : α → Prop} {q : β → Prop} {r : Outcome α}

theorem ok {a : α} (h : p a) : Validated p (.ok a) := .inl ⟨a, rfl, h⟩

theorem fault (cause : ValidationCause) : Validated p (.error (.fault (.validation cause))) :=
  .inr ⟨cause, rfl⟩

theorem ne_breakdown (h : Validated p r) (b : Breakdown) : r ≠ .error (.breakdown b) := by
  obtain ⟨a, rfl, -⟩ | ⟨cause, rfl⟩ := h <;> nofun

theorem bind {f : α → Outcome β} (h : Validated p r) (hf : ∀ a, p a → Validated q (f a)) :
    Validated q (r >>= f) := by
  obtain ⟨a, rfl, ha⟩ | ⟨cause, rfl⟩ := h
  · exact hf a ha
  · exact fault cause

end Validated

open AnyOptions

namespace Config

/-! ### Sections -/

/-- The table of a section; a section that is left out is an empty one. -/
def table? (given : Entries) (name : String) : Option Entries :=
  match Value.field? name given with
  | none => some []
  | some (.map table) => some table
  | some _ => none

/-- The options of a section are built from its table. -/
def SectionBuilt (given : Entries) (name : String) (kind : OptionsKind) (o : AnyOptions) : Prop :=
  ∃ table, table? given name = some table ∧ KnownKeys kind table ∧ o.kind = kind ∧
    o.fields = filled (default kind).fields table

theorem buildSection_of_table {given table : Entries} {name : String}
    (h : table? given name = some table) (kind : OptionsKind) : buildSection given name kind =
      match AnyOptions.ofMapping kind table with
      | .error (.rejection r) => invalid (.invalidSection name (.map table) r.message)
      | .error (.breakdown .wrongType) =>
        invalid (.unnamedKeys name table ((AnyOptions.default kind).unknownKeys table))
      | other => other := by
  unfold table? at h
  unfold buildSection
  split at h
  · rename_i hnone
    obtain rfl := Option.some.inj h
    rw [hnone]
    rfl
  · rename_i entries hsome
    obtain rfl := Option.some.inj h
    rw [hsome]
    rfl
  · cases h

theorem buildSection_of_no_table {given : Entries} {name : String} (h : table? given name = none)
    (kind : OptionsKind) :
    ∃ v, buildSection given name kind = invalid (.sectionNotTable name v) := by
  unfold table? at h
  unfold buildSection
  split at h
  · cases h
  · cases h
  · rename_i v hmap hsome
    rw [hsome, Option.getD_some]
    refine ⟨v, ?_⟩
    split
    · exact absurd rfl (hmap _)
    · rfl

/-- A section is built or refused, but for a width that slips through. -/
theorem buildSection_validated {given : Entries} {name : String} {kind : OptionsKind}
    (h : ∀ table, table? given name = some table → ¬ ShapelessWidth kind table) :
    Validated (SectionBuilt given name kind) (buildSection given name kind) := by
  cases htable : table? given name with
  | none =>
    obtain ⟨v, hv⟩ := buildSection_of_no_table htable kind
    rw [hv]
    exact .fault _
  | some table =>
    rw [buildSection_of_table htable]
    obtain ⟨o, ho, hknown, hkind, hfields⟩ | ⟨r, hr⟩ | ⟨-, hwrong⟩ | ⟨hshape, -⟩ :=
      ofMapping_cases kind table
    · rw [ho]
      exact .ok ⟨table, htable, hknown, hkind, hfields⟩
    · rw [hr]
      exact .fault _
    · rw [hwrong]
      exact .fault _
    · exact absurd hshape (h table htable)

theorem buildSection_validated_of_ne {given : Entries} {name : String} {kind : OptionsKind}
    (h : kind ≠ .renderer) :
    Validated (SectionBuilt given name kind) (buildSection given name kind) :=
  buildSection_validated fun _ _ hshape => h hshape.1

theorem buildSection_of_shapelessWidth {given table : Entries} {name : String} {kind : OptionsKind}
    (htable : table? given name = some table) (h : ShapelessWidth kind table) :
    buildSection given name kind = .error (.breakdown .missingAttribute) := by
  rw [buildSection_of_table htable, ofMapping_of_shapelessWidth h]

/-- A section whose options are not checked is built iff it is a table of known fields. -/
theorem buildSection_parser_ok_iff {given : Entries} {name : String} :
    (∃ o, buildSection given name .parser = .ok o) ↔
      ∃ table, table? given name = some table ∧ KnownKeys .parser table := by
  constructor
  · rintro ⟨o, ho⟩
    have hvalid : Validated (SectionBuilt given name .parser) (buildSection given name .parser) :=
      buildSection_validated_of_ne (by decide)
    rw [ho] at hvalid
    obtain ⟨_, -, table, htable, hknown, -⟩ | ⟨cause, h⟩ := hvalid
    · exact ⟨table, htable, hknown⟩
    · cases h
  · rintro ⟨table, htable, hknown⟩
    rw [buildSection_of_table htable, ofMapping_of_knownKeys hknown]
    exact ⟨_, rfl⟩

/-! ### Whole configurations -/

/-- The options of one stage. -/
def options (c : Config) : OptionsKind → AnyOptions
  | .parser => .parser c.parser
  | .renderer => .renderer c.renderer
  | .template => .template c.template

/-- **A configuration describes options** when every field of a section has the value that the
section's table gives to it, or its default. -/
def Describes (given : Entries) (c : Config) : Prop :=
  ∀ s ∈ sections, ∃ table, table? given s.1 = some table ∧
    (c.options s.2).fields = filled (default s.2).fields table

/-- **What slips through validation**, and how building the configuration breaks down for it. -/
inductive Escapes (given : Entries) : Breakdown → Prop
  | unnamedSection {k : Value} (mem : k ∈ unknownSections given) (unnamed : ∀ s, k ≠ .str s) :
      Escapes given .wrongType
  | shapelessWidth {parsing rendering : Entries} (known : unknownSections given = [])
      (parsed : table? given "markdown" = some parsing) (parsingKnown : KnownKeys .parser parsing)
      (rendered : table? given "latex" = some rendering)
      (shapeless : ShapelessWidth .renderer rendering) : Escapes given .missingAttribute

/-- At most one breakdown slips through. -/
theorem Escapes.unique {given : Entries} {b c : Breakdown} (hb : Escapes given b)
    (hc : Escapes given c) : b = c := by
  cases hb with
  | unnamedSection mem _ =>
    cases hc with
    | unnamedSection _ _ => rfl
    | shapelessWidth known _ _ _ _ => simp [known] at mem
  | shapelessWidth known _ _ _ _ =>
    cases hc with
    | unnamedSection mem _ => simp [known] at mem
    | shapelessWidth _ _ _ _ _ => rfl

theorem build_eq (given : Entries) : build given = do
    checkSections given
    let p ← buildSection given "markdown" .parser
    let r ← buildSection given "latex" .renderer
    let t ← buildSection given "template" .template
    return ((({} : Config).withOptions p).withOptions r).withOptions t := by
  unfold build sections
  cases checkSections given with
  | error e => rfl
  | ok u =>
    show List.foldlM _ _ _ = _
    cases hp : buildSection given "markdown" .parser with
    | error e => simp [hp]; rfl
    | ok p =>
      cases hr : buildSection given "latex" .renderer with
      | error e => simp [hp, hr]; rfl
      | ok r =>
        cases ht : buildSection given "template" .template with
        | error e => simp [hp, hr, ht]; rfl
        | ok t => simp [hp, hr, ht]; rfl

/-- The check of the sections admits the known ones, and breaks down for a key that is no text. -/
theorem checkSections_cases (given : Entries) :
    (checkSections given = .ok () ∧ unknownSections given = []) ∨
      ((∀ b, ¬ Escapes given b) ∧ ∃ cause, checkSections given = invalid cause) ∨
      (Escapes given .wrongType ∧ checkSections given = .error (.breakdown .wrongType)) := by
  unfold checkSections
  dsimp only
  split_ifs with hempty
  · exact .inl ⟨rfl, List.isEmpty_iff.mp hempty⟩
  · have hunknown : unknownSections given ≠ [] := by simpa using hempty
    cases htexts : texts? (unknownSections given) with
    | some names =>
      refine .inr (.inl ⟨?_, _, rfl⟩)
      rintro b (⟨hmem, hunnamed⟩ | ⟨hknown, -, -, -, -⟩)
      · cases htexts.symm.trans (texts?_eq_none_iff.mpr ⟨_, hmem, hunnamed⟩)
      · exact hunknown hknown
    | none =>
      obtain ⟨k, hmem, hunnamed⟩ := texts?_eq_none_iff.mp htexts
      exact .inr (.inr ⟨.unnamedSection hmem hunnamed, rfl⟩)

/-- Options of all stages, each built from its table, are what the configuration describes. -/
theorem describes_of_sectionBuilt {given : Entries} {p r t : AnyOptions}
    (hp : SectionBuilt given "markdown" .parser p) (hr : SectionBuilt given "latex" .renderer r)
    (ht : SectionBuilt given "template" .template t) :
    Describes given (((({} : Config).withOptions p).withOptions r).withOptions t) := by
  obtain ⟨parsing, hparsing, -, hpkind, hpfields⟩ := hp
  obtain ⟨rendering, hrendering, -, hrkind, hrfields⟩ := hr
  obtain ⟨filling, hfilling, -, htkind, htfields⟩ := ht
  cases p <;> cases hpkind
  cases r <;> cases hrkind
  cases t <;> cases htkind
  simp only [Describes, sections, List.forall_mem_cons, List.not_mem_nil, false_imp_iff,
    implies_true, and_true]
  exact ⟨⟨parsing, hparsing, hpfields⟩, ⟨rendering, hrendering, hrfields⟩,
    ⟨filling, hfilling, htfields⟩⟩

/-- A configuration without unknown sections is built or refused, or a width slips through. -/
theorem build_of_known {given : Entries} (hcheck : checkSections given = .ok ())
    (hknown : unknownSections given = []) :
    (Validated (Describes given) (build given) ∧ ∀ b, ¬ Escapes given b) ∨
      (Escapes given .missingAttribute ∧
        build given = .error (.breakdown .missingAttribute)) := by
  have hno : ∀ {b}, Escapes given b → (∃ o, buildSection given "markdown" .parser = .ok o) ∧
      ∃ table, table? given "latex" = some table ∧ ShapelessWidth .renderer table := by
    rintro b (⟨hmem, -⟩ | ⟨-, hparsing, hkeys, hrendering, hshape⟩)
    · simp [hknown] at hmem
    · exact ⟨buildSection_parser_ok_iff.mpr ⟨_, hparsing, hkeys⟩, _, hrendering, hshape⟩
  have hparser : Validated (SectionBuilt given "markdown" .parser)
      (buildSection given "markdown" .parser) := buildSection_validated_of_ne (by decide)
  rw [build_eq, hcheck]
  obtain ⟨p, hp, hpbuilt⟩ | ⟨cause, hp⟩ := hparser
  · by_cases hshape : ∃ table, table? given "latex" = some table ∧ ShapelessWidth .renderer table
    · obtain ⟨rendering, hrendering, hshape⟩ := hshape
      obtain ⟨parsing, hparsing, hkeys, -⟩ := hpbuilt
      refine .inr ⟨.shapelessWidth hknown hparsing hkeys hrendering hshape, ?_⟩
      rw [hp, buildSection_of_shapelessWidth hrendering hshape]
      rfl
    · refine .inl ⟨?_, fun b hb => hshape (hno hb).2⟩
      rw [hp]
      refine (buildSection_validated fun table htable h => hshape ⟨table, htable, h⟩).bind
        fun r hr => ?_
      refine (buildSection_validated_of_ne (by decide)).bind fun t ht => ?_
      exact .ok (describes_of_sectionBuilt hpbuilt hr ht)
  · refine .inl ⟨?_, fun b hb => ?_⟩
    · rw [hp]
      exact .fault cause
    · obtain ⟨o, ho⟩ := (hno hb).1
      cases ho.symm.trans hp

/-- **When a configuration is built or refused as invalid.** It is unless something slips through
validation, and then building it breaks down. -/
theorem build_validated_iff (given : Entries) :
    (Validated (Describes given) (build given) ↔ ∀ b, ¬ Escapes given b) ∧
      ∀ b, build given = .error (.breakdown b) ↔ Escapes given b := by
  have hcases : (Validated (Describes given) (build given) ∧ ∀ b, ¬ Escapes given b) ∨
      ∃ b, Escapes given b ∧ build given = .error (.breakdown b) := by
    obtain ⟨hcheck, hknown⟩ | ⟨hno, cause, hcheck⟩ | ⟨hescapes, hcheck⟩ :=
      checkSections_cases given
    · obtain h | h := build_of_known hcheck hknown
      · exact .inl h
      · exact .inr ⟨_, h⟩
    · refine .inl ⟨?_, hno⟩
      rw [build_eq, hcheck]
      exact .fault cause
    · refine .inr ⟨_, hescapes, ?_⟩
      rw [build_eq, hcheck]
      rfl
  refine Outcome.settled_iff_of_cases (hcases.imp And.left fun ⟨b, h⟩ => ⟨b, h.1⟩)
    Validated.ne_breakdown fun b hb => ?_
  obtain ⟨-, hno⟩ | ⟨c, hescapes, hbuild⟩ := hcases
  · exact absurd hb (hno b)
  · rw [hbuild, hescapes.unique hb]

/-- A number as the width of images is neither taken nor refused, and neither is a number as the
name of a section. -/
theorem not_validated_number :
    ¬ Validated (Describes [(.str "latex", .map [(.str "image_width", .int 5)])])
        (build [(.str "latex", .map [(.str "image_width", .int 5)])]) ∧
      ¬ Validated (Describes [(.int 1, .map [])]) (build [(.int 1, .map [])]) := by
  have hwidth : build [(.str "latex", .map [(.str "image_width", .int 5)])] =
      .error (.breakdown .missingAttribute) := rfl
  have hsection : build [(.int 1, .map [])] = .error (.breakdown .wrongType) := rfl
  exact ⟨fun h => h.ne_breakdown _ hwidth, fun h => h.ne_breakdown _ hsection⟩

end Config

end Manuscript
