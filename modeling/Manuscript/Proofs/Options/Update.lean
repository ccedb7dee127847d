import Manuscript.Options.Any
import Manuscript.Proofs.Outcome
import Mathlib.Data.List.Basic

/-!
# What comes of options that take values from a mapping

Every field has the value that the mapping gives to it, or keeps the one it has (`filled`). Options
for rendering are checked, and are taken, refused, or break down over a width that cannot be checked
(`RendererOptions.update_cases`); options of any stage that are built from a mapping come to the
same, and break down as well over an unknown key that cannot be named
(`AnyOptions.ofMapping_cases`).
-/

namespace Manuscript

/-! ### Fields and their values -/

/-- The fields with the values of a mapping where it gives any. -/
def filled (fields : List (String × Value)) (given : Entries) : List (String × Value) :=
  fields.map fun f => (f.1, (Value.field? f.1 given).getD f.2)

namespace ImageMode

theorem eq_of_ofValue? {v : Value} {m : ImageMode} (h : ofValue? v = some m) : v = .str m.name := by
  unfold ofValue? at h
  split at h
  · split_ifs at h with herror hskip
    · obtain rfl := Option.some.inj h
      rw [herror]
      rfl
    · obtain rfl := Option.some.inj h
      rw [hskip]
      rfl
  · cases h

end ImageMode

namespace RendererOptions

/-- The mode that a mapping gives to options, or theirs. -/
def givenMode (o : RendererOptions) (given : Entries) : Value :=
  (Value.field? "unsupported_image_mode" given).getD (.str o.imageMode.name)

/-- The width that a mapping gives to options, or theirs. -/
def givenWidth (o : RendererOptions) (given : Entries) : Value :=
  (Value.field? "image_width" given).getD o.imageWidth

/-- Neither a text nor bytes. -/
def IsShapeless (width : Value) : Prop := (∀ s, width ≠ .str s) ∧ ∀ data, width ≠ .bytes data

theorem checkWidth_eq (width : Value) :
    checkWidth width = .ok () ∨ checkWidth width = .error (.rejection .emptyImageWidth) ∨
      IsShapeless width ∧ checkWidth width = .error (.breakdown .missingAttribute) := by
  cases width with
  | str s =>
    rw [checkWidth]
    split_ifs
    · exact .inr (.inl rfl)
    · exact .inl rfl
  | bytes data =>
    rw [checkWidth]
    split_ifs
    · exact .inr (.inl rfl)
    · exact .inl rfl
  | _ => exact .inr (.inr ⟨⟨by simp, by simp⟩, rfl⟩)

theorem checkWidth_of_isShapeless {width : Value} (h : IsShapeless width) :
    checkWidth width = .error (.breakdown .missingAttribute) := by
  obtain ⟨hstr, hbytes⟩ := h
  cases width with
  | str s => exact absurd rfl (hstr s)
  | bytes data => exact absurd rfl (hbytes data)
  | _ => rfl

theorem update_eq (o : RendererOptions) (given : Entries) : o.update given =
    match ImageMode.ofValue? (o.givenMode given) with
    | none => .error (.rejection (.imageMode (o.givenMode given)))
    | some m => (checkWidth (o.givenWidth given)).map fun _ =>
      { escapeSpecial := (Value.field? "escape_special" given).getD o.escapeSpecial
        imageWidth := o.givenWidth given
        imageMode := m
        blockSeparator := (Value.field? "block_separator" given).getD o.blockSeparator } := by
  unfold update
  change (match ImageMode.ofValue? (o.givenMode given) with
    | none => _
    | some m => checkWidth (o.givenWidth given) >>= fun _ => _) = _
  cases ImageMode.ofValue? (o.givenMode given) with
  | none => rfl
  | some m => cases checkWidth (o.givenWidth given) <;> rfl

/-- What comes of options when they take the values of a mapping. -/
theorem update_cases (o : RendererOptions) (given : Entries) :
    (∃ r, o.update given = .ok r ∧ r.fields = filled o.fields given) ∨
      (∃ x, o.update given = .error (.rejection x)) ∨
      ((ImageMode.ofValue? (o.givenMode given)).isSome = true ∧ IsShapeless (o.givenWidth given) ∧
        o.update given = .error (.breakdown .missingAttribute)) := by
  rw [update_eq]
  cases hm : ImageMode.ofValue? (o.givenMode given) with
  | none => exact .inr (.inl ⟨_, rfl⟩)
  | some m =>
    have hmode : (Value.field? "unsupported_image_mode" given).getD (.str o.imageMode.name) =
        .str m.name := ImageMode.eq_of_ofValue? hm
    obtain hw | hw | ⟨hshape, hw⟩ := checkWidth_eq (o.givenWidth given)
    · refine .inl ⟨_, Outcome.map_eq_ok_iff.mpr ⟨(), hw, rfl⟩, ?_⟩
      simp only [fields, filled, List.map_cons, List.map_nil, hmode]
      rfl
    · exact .inr (.inl ⟨_, Outcome.map_eq_error_iff.mpr hw⟩)
    · exact .inr (.inr ⟨rfl, hshape, Outcome.map_eq_error_iff.mpr hw⟩)

end RendererOptions

namespace AnyOptions

/-- All keys of a table are fields of a stage. -/
def KnownKeys (kind : OptionsKind) (table : Entries) : Prop :=
  (default kind).unknownKeys table = []

/-- A table of known fields for rendering, with a known mode and a width of another kind than texts
and bytes. -/
def ShapelessWidth (kind : OptionsKind) (table : Entries) : Prop :=
  kind = .renderer ∧ KnownKeys .renderer table ∧
    (ImageMode.ofValue? (RendererOptions.givenMode {} table)).isSome = true ∧
    RendererOptions.IsShapeless (RendererOptions.givenWidth {} table)

theorem ofMapping_of_knownKeys {kind : OptionsKind} {table : Entries} (h : KnownKeys kind table) :
    ofMapping kind table = (default kind).assign table := by
  unfold KnownKeys at h
  unfold ofMapping
  dsimp only
  rw [h]
  rfl

/-- What the defaults of a stage come to when they take the values of known fields. -/
theorem assign_default_cases {kind : OptionsKind} {table : Entries} (h : KnownKeys kind table) :
    (∃ o, (default kind).assign table = .ok o ∧ o.kind = kind ∧
        o.fields = filled (default kind).fields table) ∨
      (∃ r, (default kind).assign table = .error (.rejection r)) ∨
      (ShapelessWidth kind table ∧
        (default kind).assign table = .error (.breakdown .missingAttribute)) := by
  cases kind with
  | parser => exact .inl ⟨_, rfl, rfl, rfl⟩
  | template => exact .inl ⟨_, rfl, rfl, rfl⟩
  | renderer =>
    obtain ⟨r, hr, hfields⟩ | ⟨x, hx⟩ | ⟨hmode, hshape, hb⟩ :=
      RendererOptions.update_cases {} table
    · exact .inl ⟨.renderer r, Outcome.map_eq_ok_iff.mpr ⟨r, hr, rfl⟩, rfl, hfields⟩
    · exact .inr (.inl ⟨x, Outcome.map_eq_error_iff.mpr hx⟩)
    · exact .inr (.inr ⟨⟨rfl, h, hmode, hshape⟩, Outcome.map_eq_error_iff.mpr hb⟩)

/-- **What options are built to from a table.** -/
theorem ofMapping_cases (kind : OptionsKind) (table : Entries) :
    (∃ o, ofMapping kind table = .ok o ∧ KnownKeys kind table ∧ o.kind = kind ∧
        o.fields = filled (default kind).fields table) ∨
      (∃ r, ofMapping kind table = .error (.rejection r)) ∨
      (¬ KnownKeys kind table ∧ ofMapping kind table = .error (.breakdown .wrongType)) ∨
      (ShapelessWidth kind table ∧
        ofMapping kind table = .error (.breakdown .missingAttribute)) := by
  by_cases hknown : KnownKeys kind table
  · rw [ofMapping_of_knownKeys hknown]
    obtain ⟨o, ho, hkind, hfields⟩ | hrejected | hshape := assign_default_cases hknown
    · exact .inl ⟨o, ho, hknown, hkind, hfields⟩
    · exact .inr (.inl hrejected)
    · exact .inr (.inr (.inr hshape))
  · unfold ofMapping
    dsimp only
    rw [if_neg (by simpa [KnownKeys] using hknown)]
    cases texts? ((default kind).unknownKeys table) with
    | some names => exact .inr (.inl ⟨_, rfl⟩)
    | none => exact .inr (.inr (.inl ⟨hknown, rfl⟩))

theorem ofMapping_of_shapelessWidth {kind : OptionsKind} {table : Entries}
    (h : ShapelessWidth kind table) :
    ofMapping kind table = .error (.breakdown .missingAttribute) := by
  obtain ⟨rfl, hknown, hmode, hshape⟩ := h
  obtain ⟨m, hm⟩ := Option.isSome_iff_exists.mp hmode
  have hupdate : RendererOptions.update {} table = .error (.breakdown .missingAttribute) := by
    rw [RendererOptions.update_eq, hm]
    exact Outcome.map_eq_error_iff.mpr (RendererOptions.checkWidth_of_isShapeless hshape)
  rw [ofMapping_of_knownKeys hknown]
  exact Outcome.map_eq_error_iff.mpr hupdate

theorem texts?_eq_none_iff {keys : List Value} :
    texts? keys = none ↔ ∃ k ∈ keys, ∀ s, k ≠ .str s := by
  induction keys with
  | nil => simp [texts?]
  | cons k keys ih =>
    cases k with
    | str s => simp [texts?, ih]
    | _ => simp [texts?]

end AnyOptions

end Manuscript
