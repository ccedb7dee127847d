import Manuscript.Proofs.Conversion.Body
import Manuscript.Proofs.Run
import Manuscript.Proofs.Template.Unresolved

/-!
# Conversions of texts without a metadata block

A conversion fails with the first failure of its stages (`run_error_iff`), and each stage has
faults of kinds of its own. So the want of a metadata block is reported exactly by taking the
metadata off, that is where a text was parsed and has none (`run_missingFrontmatter_iff`). Below
it no metadata block stands anywhere in a parsed document, since its blocks are grammatical, and
so rendering never meets one.
-/

namespace Manuscript

open Node Markdown

/-! ### The stages -/

namespace Frontmatter

theorem mappingOf_yields (l : Yaml.Loader α) (root : Root α) :
    Yields [.frontmatter] (fun _ => True) (mappingOf l root) := by
  unfold mappingOf
  split
  · exact .ok trivial
  · exact .ok trivial
  · exact .fault (by simp [Fault.kind])

theorem decode_yields (format content : String) :
    Yields [.frontmatter] (fun _ => True) (decode format content) := by
  unfold decode decodeWith
  split_ifs
  · exact .ok trivial
  · split
    · exact .ok trivial
    · exact .fault (by simp [Fault.kind])
  · split
    · exact mappingOf_yields _ _
    · exact .fault (by simp [Fault.kind])
    · exact .breakdown _
  · exact .fault (by simp [Fault.kind])

/-- Taking the metadata off complains of the metadata only. -/
theorem extract_yields (children : List Node) (metadata : Entries) :
    Yields [.frontmatter, .missingFrontmatter] (fun _ => True)
      (extract children metadata).outcome := by
  unfold extract
  split
  · exact .fault (by simp [Fault.kind])
  · rename_i content format _ rest
    have hdecode := decode_yields format content
    cases hd : decode format content with
    | ok fields => exact .ok trivial
    | error e =>
      rw [hd] at hdecode
      exact hdecode.of_error.widen (by simp)
  · exact .fault (by simp [Fault.kind])

end Frontmatter

/-- Looking for packages complains of the packages only. -/
theorem Host.require_yields (h : Host) (component : String) (packages : List Package) :
    Yields [.dependency] (fun _ => True) (h.require component packages) := by
  have hcheck : ∀ p : Package, Yields [.dependency] (fun _ => True) (h.check p.name p.spec) := by
    intro p
    unfold check
    split
    · exact .breakdown _
    · exact .ok trivial
    · split
      · exact .breakdown _
      · exact .ok trivial
  have hstatus : ∀ p, Yields [.dependency] (fun _ => True) (h.status p) := by
    intro p
    unfold status
    split
    · exact .breakdown _
    · exact .ok trivial
    · split
      · exact .ok trivial
      · exact (hcheck p).map fun _ _ => trivial
  unfold require survey
  refine (Yields.mapM fun p _ => (hstatus p).map (q := fun _ => True) fun _ _ => trivial).bind
    fun found _ => ?_
  split
  · exact .ok trivial
  · exact .fault (by simp [Fault.kind])

theorem AnyOptions.forParsing_yields (given : Option AnyOptions) :
    Yields [.invalidOptions] (fun _ => True) (forParsing given) := by
  unfold forParsing
  split
  · exact .ok trivial
  · exact .ok trivial
  · exact .fault (by simp [Fault.kind])

theorem AnyOptions.forRendering_yields (given : Option AnyOptions) :
    Yields [.invalidOptions] (fun _ => True) (forRendering given) := by
  unfold forRendering
  split
  · exact .ok trivial
  · exact .ok trivial
  · exact .fault (by simp [Fault.kind])

theorem Template.fill_yields (template body : String) (metadata : Entries) (strict : Bool) :
    Yields [.template, .unresolvedField] (fun _ => True)
      (fill template body metadata strict).outcome where
  onOk _ := trivial
  onFault {f} hf := by
    obtain ⟨name, -, hflaw⟩ := List.exists_of_findSome?_eq_some (fill_error_iff.mp hf)
    rcases flaw?_eq_some_iff.mp hflaw with ⟨-, hf⟩ | ⟨-, -, hf⟩
    · obtain rfl := Failure.fault.inj hf
      simp [Fault.kind]
    · obtain rfl := Failure.fault.inj hf
      simp [Fault.kind]

theorem frontBlock?_eq_none_iff {o : ParserOptions} {text : String} : frontBlock? o text = none ↔
    o.frontmatter.truthy = false ∨
      Frontmatter.split? Frontmatter.delimiters text = none := by
  unfold frontBlock?
  cases o.frontmatter.truthy <;> simp

namespace Job

/-! ### Where a conversion fails -/

theorem extracted_yields (document : Node) :
    Yields [.frontmatter, .missingFrontmatter] (fun _ => True) (extracted document).outcome := by
  cases document with
  | document children metadata => exact Frontmatter.extract_yields children metadata
  | _ => exact .fault (by simp [Fault.kind])

theorem extracted_missingFrontmatter_iff {front : Option Frontmatter.Split} {blocks : List Node}
    (h : ∀ n ∈ blocks, Fits .block n) {found : Option String} :
    (extracted (documentOf front blocks)).outcome = .error (.fault (.missingFrontmatter found)) ↔
      front = none ∧ found = blocks.head?.map typeName := by
  cases front with
  | none =>
    rw [extracted_none h]
    simp [eq_comm]
  | some s =>
    rw [extracted_front, Outcome.map_eq_error_iff]
    have hdecode := (Frontmatter.decode_yields s.format s.block).ne_fault
      (f := .missingFrontmatter found) (by simp [Fault.kind])
    simp [hdecode]

variable (job : Job)

theorem parsed_yields :
    Yields [.invalidOptions, .dependency, .parsing] (fun _ => True) job.parsed.outcome where
  onOk _ := trivial
  onFault hf := by
    rcases Run.bind_error_iff.mp hf with hf | ⟨o, -, hf⟩
    · exact ((AnyOptions.forParsing_yields _).widen (by simp)).onFault hf
    · rw [parseOn_outcome] at hf
      rcases Outcome.bind_eq_error_iff.mp hf with hf | ⟨-, -, hf⟩
      · exact ((Host.require_yields _ _ _).widen (by simp)).onFault hf
      · exact ((parse_yields o _).widen (by simp)).onFault hf

/-- **How a conversion fails**: with the first failure of its stages. -/
theorem run_error_iff {e : Failure} : job.run.outcome = .error e ↔
    job.parsed.outcome = .error e ∨ ∃ document, job.parsed.outcome = .ok document ∧
      ((extracted document).outcome = .error e ∨
        ∃ body fields, (extracted document).outcome = .ok (body, fields) ∧
          ((job.rendered body).outcome = .error e ∨
            ∃ text, (job.rendered body).outcome = .ok text ∧
              (job.filled text fields).outcome = .error e)) := by
  have hwrite : ∀ r : Record, (Run.write r).outcome = .ok () := fun _ => rfl
  unfold run
  simp only [Run.bind_error_iff, Prod.exists, hwrite, reduceCtorEq, false_or, true_and,
    exists_const]

/-- Rendering grammatical blocks complains of its options or within the family of rendering
faults. -/
theorem rendered_fault {blocks : List Node} (h : ∀ n ∈ blocks, Fits .block n) {f : Fault}
    (hf : (job.rendered (.document blocks [])).outcome = .error (.fault f)) :
    (f.kind = .invalidOptions ∨ FaultKind.Within .rendering f.kind) ∧
      ∀ name, f = .unknownNodeType name → name ∈ Latex.refusedKinds := by
  rcases Run.bind_error_iff.mp hf with hoptions | ⟨o, -, hrender⟩
  · have hkind : f.kind = .invalidOptions := by
      simpa using (AnyOptions.forRendering_yields _).onFault hoptions
    refine ⟨.inl hkind, ?_⟩
    rintro name rfl
    cases hkind
  · obtain ⟨hfault, hunknown⟩ := Latex.render_error_of_fits h hrender
    refine ⟨.inr ?_, fun name hname => hunknown name (congrArg Failure.fault hname)⟩
    rcases hfault with ⟨g, hg, hwithin⟩ | ⟨hwrong, -⟩
    · obtain rfl := Failure.fault.inj hg
      exact hwithin
    · cases hwrong

/-! ### The want of a metadata block -/

/-- A document that was parsed, in its parts. -/
theorem parsed_parts {document : Node} (h : job.parsed.outcome = .ok document) :
    ∃ o body, AnyOptions.forParsing job.parserOptions = .ok o ∧ (∀ n ∈ body, Fits .block n) ∧
      document = documentOf (frontBlock? o (dropMark job.markdown)) body := by
  obtain ⟨o, ho, hparsed⟩ := Run.bind_ok_iff.mp h
  obtain ⟨-, hparse⟩ := parseOn_ok_iff.mp hparsed
  obtain ⟨body, hbody, hdocument⟩ := (parse_yields o job.markdown).onOk hparse
  exact ⟨o, body, ho, hbody, hdocument⟩

/-- The want of a metadata block is reported where metadata is taken off, and nowhere else. -/
theorem run_missingFrontmatter_iff {found : Option String} :
    job.run.outcome = .error (.fault (.missingFrontmatter found)) ↔
      ∃ document, job.parsed.outcome = .ok document ∧
        (extracted document).outcome = .error (.fault (.missingFrontmatter found)) := by
  rw [run_error_iff]
  constructor
  · -- the other stages have faults of other kinds
    rintro (hparse | ⟨document, hparse, hmissing | ⟨body, fields, hextract, hlater⟩⟩)
    · exact absurd hparse ((parsed_yields job).ne_fault (by simp [Fault.kind]))
    · exact ⟨document, hparse, hmissing⟩
    · obtain ⟨o, blocks, -, hblocks, rfl⟩ := parsed_parts job hparse
      obtain ⟨-, -, rfl, -⟩ := (extracted_ok_iff hblocks).mp hextract
      rcases hlater with hrender | ⟨text, -, hfill⟩
      · have hkind := (rendered_fault job hblocks hrender).1
        simp [Fault.kind, FaultKind.Within, FaultKind.ancestors, FaultKind.parent?] at hkind
      · exact absurd hfill ((Template.fill_yields _ _ _ _).ne_fault (by simp [Fault.kind]))
  · rintro ⟨document, hparse, hmissing⟩
    exact .inr ⟨document, hparse, .inl hmissing⟩

/-- No conversion is refused for a metadata block in its body. -/
theorem run_ne_unknown_frontMatter :
    job.run.outcome ≠ .error (.fault (.unknownNodeType "FrontMatter")) := by
  intro h
  rcases (run_error_iff job).mp h with
    hparse | ⟨document, hparse, hextract | ⟨body, fields, hextract, hrender | ⟨text, -, hfill⟩⟩⟩
  · exact absurd hparse ((parsed_yields job).ne_fault (by simp [Fault.kind]))
  · exact absurd hextract ((extracted_yields document).ne_fault (by simp [Fault.kind]))
  · obtain ⟨o, blocks, -, hblocks, rfl⟩ := parsed_parts job hparse
    obtain ⟨-, -, rfl, -⟩ := (extracted_ok_iff hblocks).mp hextract
    have hname := (rendered_fault job hblocks hrender).2 _ rfl
    simp [Latex.refusedKinds] at hname
  · exact absurd hfill ((Template.fill_yields _ _ _ _).ne_fault (by simp [Fault.kind]))

/-- **Which conversions want a metadata block**: those of a text that parses, and has none on top
or was not asked for it; the report names the kind of the first block, if there is one. In every
other conversion that comes to rendering the metadata block is the first child of the document,
there is no other one at any depth, and so none is met in rendering. -/
theorem frontmatter_missing_or_first :
    (∀ found, job.run.outcome = .error (.fault (.missingFrontmatter found)) ↔
      ∃ o document, AnyOptions.forParsing job.parserOptions = .ok o ∧
        job.parsed.outcome = .ok document ∧
        (o.frontmatter.truthy = false ∨
          Frontmatter.split? Frontmatter.delimiters (dropMark job.markdown) = none) ∧
        found = (blocksOf document).head?.map typeName) ∧
    (∀ document body fields, job.parsed.outcome = .ok document →
      (extracted document).outcome = .ok (body, fields) →
      ∃ content format rest, document = .document (.frontMatter content format [] :: rest) [] ∧
        body = .document rest [] ∧
        ∀ n ∈ rest, ∀ m, n.Contains m → ∀ content format metadata,
          m ≠ .frontMatter content format metadata) ∧
    job.run.outcome ≠ .error (.fault (.unknownNodeType "FrontMatter")) := by
  refine ⟨fun found => ?_, fun document body fields hparse hextract => ?_,
    run_ne_unknown_frontMatter job⟩
  · rw [run_missingFrontmatter_iff]
    constructor
    · rintro ⟨document, hparse, hmissing⟩
      obtain ⟨o, blocks, ho, hblocks, rfl⟩ := parsed_parts job hparse
      obtain ⟨hfront, rfl⟩ := (extracted_missingFrontmatter_iff hblocks).mp hmissing
      rw [hfront] at hparse
      exact ⟨o, _, ho, hparse, frontBlock?_eq_none_iff.mp hfront, rfl⟩
    · rintro ⟨o, document, ho, hparse, hnone, rfl⟩
      obtain ⟨o', blocks, ho', hblocks, rfl⟩ := parsed_parts job hparse
      obtain rfl := Except.ok.inj (ho.symm.trans ho')
      have hfront := frontBlock?_eq_none_iff.mpr hnone
      refine ⟨_, hparse, (extracted_missingFrontmatter_iff hblocks).mpr ⟨hfront, ?_⟩⟩
      rw [hfront]
      rfl
  · obtain ⟨o, blocks, -, hblocks, rfl⟩ := parsed_parts job hparse
    obtain ⟨s, hfront, rfl, -⟩ := (extracted_ok_iff hblocks).mp hextract
    rw [hfront]
    refine ⟨s.block, s.format, blocks, rfl, rfl, fun n hn m hm => ?_⟩
    exact ((hblocks n hn).kind_inside hm).2.1

/-- Whether blocks are a heading, and what a metadata block below it is taken for. -/
def isTwoHeadings : Outcome (List Node) → Bool
  | .ok [.heading 1 [.text "a" []] [], .thematicBreak [], .heading 2 [.text "b: c" []] []] => true
  | _ => false

/-- A metadata block below a heading is none. -/
theorem frontmatter_missing_below_heading :
    let job : Job := { markdown := "# a\n\n---\nb: c\n---\n", template := "%body%" }
    job.parsed.outcome = .ok (.document [.heading 1 [.text "a" []] [], .thematicBreak [],
      .heading 2 [.text "b: c" []] []] []) ∧
    job.run.outcome = .error (.fault (.missingFrontmatter (some "Heading"))) := by
  intro job
  suffices hparse : job.parsed.outcome = .ok (.document [.heading 1 [.text "a" []] [],
      .thematicBreak [], .heading 2 [.text "b: c" []] []] []) by
    have hnone : Frontmatter.split? Frontmatter.delimiters (dropMark job.markdown) = none := by
      decide +kernel
    have hmissing := (frontmatter_missing_or_first job).1 (some "Heading")
    exact ⟨hparse, hmissing.mpr ⟨{}, _, rfl, hparse, .inr hnone, rfl⟩⟩
  have hfront : frontBlock? {} (dropMark "# a\n\n---\nb: c\n---\n") = none := by decide +kernel
  have hblocks : blocks (tokens {} "# a\n\n---\nb: c\n---\n") =
      .ok [.heading 1 [.text "a" []] [], .thematicBreak [], .heading 2 [.text "b: c" []] []] := by
    have hbuilt : isTwoHeadings (blocks (tokens {} "# a\n\n---\nb: c\n---\n")) = true := by
      decide +kernel
    unfold isTwoHeadings at hbuilt
    split at hbuilt
    next h => exact h
    next => cases hbuilt
  have hparsed : (parse {} "# a\n\n---\nb: c\n---\n").outcome = .ok (.document
      [.heading 1 [.text "a" []] [], .thematicBreak [], .heading 2 [.text "b: c" []] []] []) :=
    parse_outcome_of_stages hfront hblocks
  exact Job.parsed_complete rfl hparsed rfl

end Job

end Manuscript
