import Manuscript.Latex.Image
import Manuscript.Proofs.Text.LetterCase
import Mathlib.Data.List.DropRight

/-!
# Images by the ending of their address

An address that ends in a dot and the extension of a picture, in whatever ASCII case, becomes a
figure; one that ends in a dot and the extension of an attachment comes to nothing; an image of any
other address is unsupported. So it should be (`ClassifiedByEnding`), and so it is but for addresses
that are an extension by themselves, with no dot before it: those are taken for the extension that
they spell (`classifiedByEnding_iff`).
-/

namespace Manuscript.Latex

open Text

/-! ### What follows the last dot -/

section LastDot

variable {cs ending : List Char}

theorem afterLastDot_eq_self (h : '.' ∉ cs) : afterLastDot cs = cs := by
  refine List.rtakeWhile_eq_self_iff.mpr fun c hc => ?_
  simpa using fun hdot : c = '.' => h (hdot ▸ hc)

theorem afterLastDot_append_dot (stem : List Char) (h : '.' ∉ ending) :
    afterLastDot (stem ++ '.' :: ending) = ending := by
  have hending : ∀ c ∈ ending.reverse, (c != '.') = true := by
    intro c hc
    simpa using fun hdot : c = '.' => h (hdot ▸ List.mem_reverse.mp hc)
  have hreverse : (stem ++ '.' :: ending).reverse = ending.reverse ++ '.' :: stem.reverse := by simp
  rw [afterLastDot, hreverse, List.takeWhile_append_of_pos hending,
    List.takeWhile_cons_of_neg (by decide), List.append_nil, List.reverse_reverse]

theorem exists_append_afterLastDot (h : '.' ∈ cs) :
    ∃ stem, cs = stem ++ '.' :: afterLastDot cs := by
  -- the last dot is the first one from behind
  obtain ⟨ending, stem, heq, hending⟩ := List.eq_append_cons_of_mem (List.mem_reverse.mpr h)
  obtain rfl : cs = stem.reverse ++ '.' :: ending.reverse := by
    rw [← List.reverse_reverse cs, heq]
    simp
  exact ⟨stem.reverse, by rw [afterLastDot_append_dot _ (by simpa using hending)]⟩

end LastDot

/-! ### Extensions in any case -/

/-- A text is a word of small letters up to ASCII case. -/
def IsVariant (word : String) (cs : List Char) : Prop := cs.map Char.toLower = word.toList

/-- **An address ends in a dot and one of the extensions**, in whatever ASCII case. -/
def EndsIn (url : String) (extensions : List String) : Prop :=
  ∃ e ∈ extensions, ∃ stem ending, url.toList = stem ++ '.' :: ending ∧ IsVariant e ending

/-- An address is one of the extensions by itself, in whatever ASCII case. -/
def IsBare (url : String) (extensions : List String) : Prop :=
  ∃ e ∈ extensions, IsVariant e url.toList

instance (word : String) : DecidablePred (IsVariant word) := fun cs =>
  inferInstanceAs (Decidable (cs.map Char.toLower = word.toList))

instance (url : String) (extensions : List String) : Decidable (IsBare url extensions) :=
  inferInstanceAs (Decidable (∃ e ∈ extensions, IsVariant e url.toList))

section Variants

variable {word url : String} {cs : List Char} {extensions : List String}

/-- The extensions are words of plain small letters. -/
def PlainWords (extensions : List String) : Prop := ∀ e ∈ extensions, IsPlainWord e.toList

instance : DecidablePred PlainWords := fun extensions => List.decidableBAll _ extensions

theorem IsVariant.dot_notMem (h : IsVariant word cs) (hword : IsPlainWord word.toList) :
    '.' ∉ cs := by
  intro hdot
  have hmem : Char.toLower '.' ∈ cs.map Char.toLower := List.mem_map_of_mem hdot
  rw [h] at hmem
  exact absurd (hword _ hmem) (by decide)

theorem isVariant_afterLastDot_iff (hword : IsPlainWord word.toList) :
    IsVariant word (afterLastDot cs) ↔
      (∃ stem ending, cs = stem ++ '.' :: ending ∧ IsVariant word ending) ∨ IsVariant word cs := by
  constructor
  · intro h
    by_cases hdot : '.' ∈ cs
    · obtain ⟨stem, hcs⟩ := exists_append_afterLastDot hdot
      exact .inl ⟨stem, _, hcs, h⟩
    · rw [afterLastDot_eq_self hdot] at h
      exact .inr h
  -- a variant of a word of letters has no dot, so nothing of it is cut off
  · rintro (⟨stem, ending, rfl, h⟩ | h)
    · rwa [afterLastDot_append_dot stem (h.dot_notMem hword)]
    · rwa [afterLastDot_eq_self (h.dot_notMem hword)]

/-- **What it takes to have one of the extensions.** -/
theorem imageExtension_mem_iff (h : PlainWords extensions) :
    imageExtension url ∈ extensions ↔ EndsIn url extensions ∨ IsBare url extensions := by
  have hvariant : ∀ e ∈ extensions,
      (imageExtension url = e ↔ IsVariant e (afterLastDot url.toList)) := by
    intro e he
    rw [imageExtension, toLower_eq_iff (h e he), String.toList_ofList, IsVariant]
  constructor
  · intro hmem
    have hlast := (hvariant _ hmem).mp rfl
    rcases (isVariant_afterLastDot_iff (h _ hmem)).mp hlast with hends | hbare
    · exact .inl ⟨_, hmem, hends⟩
    · exact .inr ⟨_, hmem, hbare⟩
  · rintro (⟨e, he, hends⟩ | ⟨e, he, hbare⟩)
    · rwa [(hvariant e he).mpr ((isVariant_afterLastDot_iff (h e he)).mpr (.inl hends))]
    · rwa [(hvariant e he).mpr ((isVariant_afterLastDot_iff (h e he)).mpr (.inr hbare))]

/-- An address that is an extension has no dot, so it does not end in a dot and an extension. -/
theorem IsBare.not_endsIn {others : List String} (hbare : IsBare url extensions)
    (h : PlainWords extensions) : ¬ EndsIn url others := by
  rintro ⟨-, -, stem, ending, heq, -⟩
  obtain ⟨e, he, hvariant⟩ := hbare
  exact hvariant.dot_notMem (h e he) (by simp [heq])

end Variants

/-! ### The classes of images -/

def pictureExtensions : List String := ["png", "jpg", "jpeg"]

def attachmentExtensions : List String := ["bib", "csv"]

theorem plainWords_pictureExtensions : PlainWords pictureExtensions := by decide

theorem plainWords_attachmentExtensions : PlainWords attachmentExtensions := by decide

theorem isPicture_iff {e : String} : isPicture e = true ↔ e ∈ pictureExtensions := by
  simp [isPicture, pictureExtensions, or_assoc]

theorem isAttachment_iff {e : String} : isAttachment e = true ↔ e ∈ attachmentExtensions := by
  simp [isAttachment, attachmentExtensions]

theorem not_isAttachment_of_isPicture {e : String} (h : isPicture e = true) :
    ¬ isAttachment e = true := by
  simp only [isPicture, Bool.or_eq_true, beq_iff_eq] at h
  rcases h with (rfl | rfl) | rfl <;> decide

/-- What an unsupported image comes to: it is refused, or skipped with a single warning. -/
def unsupportedImage (o : RendererOptions) (url : String) : Run String :=
  match o.imageMode with
  | .error => Run.fault (.unsupportedImage url (imageExtension url))
  | .skip =>
    ⟨.ok "", [.warning .directives
      s!"Skipping image with unsupported extension {Text.quoted (imageExtension url)}: {url}"]⟩

/-- **An image is classified**: it becomes a figure iff it is `pictured`, comes to nothing without a
warning iff it is `attached`, and is unsupported iff it is neither. -/
structure Classified (o : RendererOptions) (url altText : String) (r : Run String)
    (pictured attached : Prop) : Prop where
  figure : r = Run.pure (picture o.imageWidth url altText) ↔ pictured
  nothing : r = Run.pure "" ↔ attached
  unsupported : r = unsupportedImage o url ↔ ¬ pictured ∧ ¬ attached

section Classes

variable {o : RendererOptions} {url altText : String}

theorem picture_ne_empty (width : Value) : picture width url altText ≠ "" := by
  intro h
  have hempty := congrArg String.toList h
  simp [picture, command] at hempty

theorem unsupportedImage_ne_pure (o : RendererOptions) (url s : String) :
    unsupportedImage o url ≠ Run.pure s := by
  unfold unsupportedImage
  cases o.imageMode with
  | error => exact fun h => nomatch congrArg Run.outcome h
  | skip => exact fun h => nomatch congrArg Run.log h

theorem image_of_isAttachment (h : isAttachment (imageExtension url) = true) :
    image o url altText = Run.pure "" := by
  simp [image, h]

theorem image_of_isPicture (h : isPicture (imageExtension url) = true) :
    image o url altText = Run.pure (picture o.imageWidth url altText) := by
  simp [image, h, not_isAttachment_of_isPicture h]

theorem image_of_neither (hp : ¬ isPicture (imageExtension url) = true)
    (ha : ¬ isAttachment (imageExtension url) = true) :
    image o url altText = unsupportedImage o url := by
  simp only [image, hp, ha, unsupportedImage]
  cases o.imageMode <;> rfl

theorem image_classified (o : RendererOptions) (url altText : String) :
    Classified o url altText (image o url altText) (isPicture (imageExtension url) = true)
      (isAttachment (imageExtension url) = true) := by
  have hfigure : Run.pure (picture o.imageWidth url altText) ≠ Run.pure "" := fun h =>
    picture_ne_empty o.imageWidth (Except.ok.inj (congrArg Run.outcome h))
  by_cases hp : isPicture (imageExtension url) = true
  · have ha := not_isAttachment_of_isPicture hp
    rw [image_of_isPicture hp]
    exact ⟨iff_of_true rfl hp, iff_of_false hfigure ha,
      iff_of_false (unsupportedImage_ne_pure o url _).symm fun h => h.1 hp⟩
  by_cases ha : isAttachment (imageExtension url) = true
  · rw [image_of_isAttachment ha]
    exact ⟨iff_of_false hfigure.symm hp, iff_of_true rfl ha,
      iff_of_false (unsupportedImage_ne_pure o url _).symm fun h => h.2 ha⟩
  · rw [image_of_neither hp ha]
    exact ⟨iff_of_false (unsupportedImage_ne_pure o url _) hp,
      iff_of_false (unsupportedImage_ne_pure o url _) ha, iff_of_true rfl ⟨hp, ha⟩⟩

/-- An image is classified in one way. -/
theorem Classified.iff {r : Run String} {p a p' a' : Prop} (h : Classified o url altText r p a) :
    Classified o url altText r p' a' ↔ (p ↔ p') ∧ (a ↔ a') := by
  constructor
  · exact fun h' => ⟨h.figure.symm.trans h'.figure, h.nothing.symm.trans h'.nothing⟩
  · rintro ⟨hp, ha⟩
    exact ⟨h.figure.trans hp, h.nothing.trans ha, by rw [← hp, ← ha, h.unsupported]⟩

end Classes

/-! ### Classification by the ending -/

section Ending

variable {o : Option RendererOptions} {url altText : String}

/-- **Images are classified by the ending of their address**: a dot and an extension. -/
def ClassifiedByEnding (o : Option RendererOptions) (url altText : String) : Prop :=
  Classified (o.getD {}) url altText (imageUnder (o.map .renderer) url altText)
    (EndsIn url pictureExtensions) (EndsIn url attachmentExtensions)

theorem imageUnder_classified (o : Option RendererOptions) (url altText : String) :
    Classified (o.getD {}) url altText (imageUnder (o.map .renderer) url altText)
      (EndsIn url pictureExtensions ∨ IsBare url pictureExtensions)
      (EndsIn url attachmentExtensions ∨ IsBare url attachmentExtensions) := by
  have himage : imageUnder (o.map .renderer) url altText = image (o.getD {}) url altText := by
    cases o <;> rfl
  rw [himage, (image_classified _ _ _).iff, isPicture_iff, isAttachment_iff]
  exact ⟨imageExtension_mem_iff plainWords_pictureExtensions,
    imageExtension_mem_iff plainWords_attachmentExtensions⟩

theorem not_classifiedByEnding_of_isBare
    (h : IsBare url pictureExtensions ∨ IsBare url attachmentExtensions) :
    ¬ ClassifiedByEnding o url altText := by
  intro hended
  obtain ⟨hpictured, hattached⟩ := (imageUnder_classified o url altText).iff.mp hended
  rcases h with hbare | hbare
  · exact hbare.not_endsIn plainWords_pictureExtensions (hpictured.mp (.inr hbare))
  · exact hbare.not_endsIn plainWords_attachmentExtensions (hattached.mp (.inr hbare))

/-- **How images are classified.** By the ending of the address, unless the address is an extension
by itself; such an address counts as ending in the extension. -/
theorem classifiedByEnding_iff (o : Option RendererOptions) (url altText : String) :
    (ClassifiedByEnding o url altText ↔
      ¬ IsBare url pictureExtensions ∧ ¬ IsBare url attachmentExtensions) ∧
    Classified (o.getD {}) url altText (imageUnder (o.map .renderer) url altText)
      (EndsIn url pictureExtensions ∨ IsBare url pictureExtensions)
      (EndsIn url attachmentExtensions ∨ IsBare url attachmentExtensions) := by
  have hclassified := imageUnder_classified o url altText
  refine ⟨⟨fun hended => ?_, fun ⟨hpicture, hattachment⟩ => ?_⟩, hclassified⟩
  · exact not_or.mp fun hbare => not_classifiedByEnding_of_isBare hbare hended
  · exact hclassified.iff.mpr ⟨or_iff_left hpicture, or_iff_left hattachment⟩

/-- An address without a dot that spells the extension of a picture or of an attachment is not
unsupported, as it should be. -/
theorem not_classifiedByEnding_png :
    ¬ ClassifiedByEnding none "png" "" ∧ ¬ ClassifiedByEnding none "CSV" "" :=
  ⟨not_classifiedByEnding_of_isBare (.inl (by decide)),
    not_classifiedByEnding_of_isBare (.inr (by decide))⟩

end Ending

end Manuscript.Latex
