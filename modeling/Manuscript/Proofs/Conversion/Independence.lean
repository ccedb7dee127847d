import Manuscript.Proofs.Conversion.Body
import Manuscript.Proofs.Frontmatter.Split
import Manuscript.Proofs.Run
import Manuscript.Proofs.Template.Unresolved

/-!
# The metadata block and the body

A text is converted in two parts that do not look at each other: its metadata block is taken off and
decoded, and what is below it is parsed and rendered (`run_below_frontBlock`). The fields come in
again with the template; one that names the body alone does not see them
(`Template.fill_of_bodyOnly`). So texts with the same body come to the same
(`run_outcome_of_same_body`).
-/

namespace Manuscript

open Markdown

/-! ### Templates that name the body alone -/

namespace Template

/-- All placeholders of a template are the one of the body. -/
def BodyOnly (template : String) : Prop := ∀ name ∈ placeholders template, name = bodyName

theorem fillSegment_body {body : String} {strict : Bool} {s : Segment}
    (h : ∀ name, s.name? = some name → name = bodyName) (metadata other : Entries) :
    fillSegment body metadata strict s = fillSegment body other strict s := by
  cases s with
  | literal text => rfl
  | placeholder name =>
    have hname : String.ofList name = bodyName := h _ rfl
    simp only [fillSegment, if_pos hname]

theorem fillSegments_body {body : String} {strict : Bool} (metadata other : Entries) :
    ∀ {l : List Segment}, (∀ s ∈ l, ∀ name, s.name? = some name → name = bodyName) →
      fillSegments body metadata strict l = fillSegments body other strict l
  | [], _ => rfl
  | s :: l, h => by
    rw [fillSegments, fillSegments, fillSegment_body (h s List.mem_cons_self) metadata other,
      fillSegments_body metadata other fun t ht => h t (List.mem_cons_of_mem _ ht)]

theorem fill_of_bodyOnly {template : String} (h : BodyOnly template) (body : String)
    (metadata other : Entries) (strict : Bool) :
    fill template body metadata strict = fill template body other strict := by
  have hsegments : ∀ s ∈ segments template.toList, ∀ name, s.name? = some name →
      name = bodyName := by
    intro s hs name hname
    exact h name (mem_distinct.mpr (List.mem_filterMap.mpr ⟨s, hs, hname⟩))
  unfold fill
  rw [fillSegments_body metadata other hsegments]

end Template

/-! ### Parsing below a metadata block -/

namespace Markdown

variable {o : ParserOptions} {F : Frontmatter.FrontBlock}

theorem dropMark_frontBlock (F : Frontmatter.FrontBlock) (rest : String) :
    dropMark (F.text ++ rest) = F.text ++ rest := by
  have hfirst : ∃ c cs, F.delimiter.toList = c :: cs ∧ c.toNat ≠ 0xFEFF := by
    have hknown := F.known
    simp only [Frontmatter.delimiters, List.mem_cons, Prod.mk.injEq, List.not_mem_nil,
      or_false] at hknown
    rcases hknown with ⟨hd, -⟩ | ⟨hd, -⟩
    · exact ⟨'-', ['-', '-'], by rw [hd]; rfl, by simp⟩
    · exact ⟨'+', ['+', '+'], by rw [hd]; rfl, by simp⟩
  obtain ⟨c, cs, hc, hmark⟩ := hfirst
  unfold dropMark
  rw [Frontmatter.FrontBlock.toList_text_append, Frontmatter.edgeOf, hc]
  exact if_neg hmark

/-- A document is its metadata block and what the text below it is parsed into. -/
theorem parse_frontBlock (hon : o.frontmatter.truthy = true) (rest : String) :
    (parse o (F.text ++ rest)).outcome =
      (blocks (tokens o rest)).map (documentOf (some ⟨F.format, F.block, rest⟩)) := by
  have hfront : frontBlock? o (F.text ++ rest) = some ⟨F.format, F.block, rest⟩ := by
    rw [frontBlock?, if_pos hon, F.split?_frontBlock]
  rw [parse_outcome, dropMark_frontBlock, belowFront, hfront]
  rfl

end Markdown

/-! ### Conversions -/

namespace Job

variable (job : Job)

/-- What a job comes to for a text below a metadata block with the given fields. -/
def below (rest : String) (fields : Entries) : Outcome String := do
  let o ← AnyOptions.forParsing job.parserOptions
  job.host.require "markdown" neededPackages
  let body ← blocks (tokens o rest)
  let text ← (job.rendered (.document body [])).outcome
  (job.filled text fields).outcome

/-- Metadata blocks are recognised. -/
def RecognisesFront : Prop :=
  ∀ o, AnyOptions.forParsing job.parserOptions = .ok o → o.frontmatter.truthy = true

theorem run_below_frontBlock (hon : job.RecognisesFront) {F : Frontmatter.FrontBlock}
    {fields : Entries} (hdecode : Frontmatter.decode F.format F.block = .ok fields)
    (rest : String) :
    ({ job with markdown := F.text ++ rest } : Job).run.outcome = job.below rest fields := by
  have hwrite : ∀ r : Record, (Run.write r).outcome = .ok () := fun _ => rfl
  have hoptions : ∀ r : Outcome ParserOptions, (Run.ofOutcome r).outcome = r := fun _ => rfl
  unfold run parsed below
  simp only [Run.outcome_bind, hwrite, hoptions, parseOn_outcome]
  cases ho : AnyOptions.forParsing job.parserOptions with
  | error e => rfl
  | ok o =>
    cases hhost : job.host.require "markdown" neededPackages with
    | error e => rfl
    | ok _ =>
      show (parse o (F.text ++ rest)).outcome >>= _ = blocks (tokens o rest) >>= _
      rw [parse_frontBlock (hon o ho)]
      cases blocks (tokens o rest) with
      | error e => rfl
      | ok body =>
        show (extracted (documentOf _ body)).outcome >>= _ = _
        rw [extracted_front, hdecode]
        rfl

theorem below_of_bodyOnly (h : Template.BodyOnly job.template) (rest : String)
    (fields other : Entries) : job.below rest fields = job.below rest other := by
  unfold below filled
  simp only [Template.fill_of_bodyOnly h _ fields other]

/-- **The rendered body does not depend on the metadata**: texts that differ in a metadata block
that can be decoded come to the same, or fail with the same, in a template that names the body
alone. -/
theorem run_outcome_of_same_body (hon : job.RecognisesFront)
    (htemplate : Template.BodyOnly job.template) {F G : Frontmatter.FrontBlock}
    (hF : ∃ fields, Frontmatter.decode F.format F.block = .ok fields)
    (hG : ∃ fields, Frontmatter.decode G.format G.block = .ok fields) (rest : String) :
    ({ job with markdown := F.text ++ rest } : Job).run.outcome =
      ({ job with markdown := G.text ++ rest } : Job).run.outcome := by
  obtain ⟨fields, hF⟩ := hF
  obtain ⟨other, hG⟩ := hG
  rw [run_below_frontBlock job hon hF, run_below_frontBlock job hon hG,
    below_of_bodyOnly job htemplate]

/-- A block with a field of the name of the body. -/
def bodyField : Frontmatter.FrontBlock where
  delimiter := "---"
  format := "yaml"
  known := by decide
  block := "body: x\n"
  ended := by decide
  unclosed := by decide

/-- A block of the other format. -/
def numberField : Frontmatter.FrontBlock where
  delimiter := "+++"
  format := "toml"
  known := by decide
  block := "n = 1\n# a\n"
  ended := by decide
  unclosed := by decide

/-- The body starts with a delimiter itself. -/
theorem run_outcome_of_same_body_delimiter :
    let job : Job := { markdown := "", template := "50% %body%" }
    job.RecognisesFront ∧ Template.BodyOnly job.template ∧
      (∃ fields, Frontmatter.decode bodyField.format bodyField.block = .ok fields) ∧
      (∃ fields, Frontmatter.decode numberField.format numberField.block = .ok fields) ∧
      ({ job with markdown := bodyField.text ++ "---\na\n" } : Job).run.outcome =
        ({ job with markdown := numberField.text ++ "---\na\n" } : Job).run.outcome := by
  intro job
  have hon : job.RecognisesFront := by
    intro o ho
    obtain rfl : {} = o := Except.ok.inj ho
    rfl
  have htemplate : Template.BodyOnly job.template := by
    have hnames : Template.placeholders "50% %body%" = ["body"] := by decide +kernel
    show ∀ name ∈ Template.placeholders "50% %body%", name = "body"
    simp [hnames]
  have decodes : ∀ {format block : String},
      (Frontmatter.decode format block).isOk = true →
        ∃ fields, Frontmatter.decode format block = .ok fields := by
    intro format block h
    cases hd : Frontmatter.decode format block with
    | ok fields => exact ⟨fields, rfl⟩
    | error e => simp [hd, Except.isOk, Except.toBool] at h
  have hyaml : ∃ fields, Frontmatter.decode bodyField.format bodyField.block = .ok fields :=
    decodes (by decide +kernel)
  have htoml : ∃ fields, Frontmatter.decode numberField.format numberField.block =
      .ok fields := decodes (by decide +kernel)
  exact ⟨hon, htemplate, hyaml, htoml, run_outcome_of_same_body job hon htemplate hyaml htoml _⟩

end Job

end Manuscript
