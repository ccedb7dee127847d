import Manuscript.Frontmatter.Decode
import Manuscript.Proofs.Markdown.Fence

/-!
# How a metadata block that cannot be decoded is refused

A block is meant to be decoded, or refused with a fault of its own. Whether it is depends on the
loader of YAML: a text that the loader refuses is refused as a block, but where the loader breaks
down, so does what reads the block. For the metadata of a document and of a code block, and for
every loader:

* `decodeWith_cases`, `codeBlockWith_cases`: a block is settled, or reading it breaks down with the
  loader, as `BreaksWith` tells;
* `metadata_settled_iff`: it is settled exactly if the loader does not break down.

The usual loader breaks down at a date in a thirteenth month (`load_thirteenth_month`).
-/

namespace Manuscript

namespace Frontmatter

variable {α : Type} {l : Yaml.Loader α} {format content : String} {b : Breakdown}

/-- Decoding gives fields, or the fault of a block that cannot be decoded. -/
def Settled (r : Outcome α) : Prop :=
  (∃ fields, r = .ok fields) ∨ ∃ cause, r = .error (.fault (.frontmatter cause))

/-- The metadata of a document is YAML, and the loader breaks down on it. -/
structure BreaksWith (l : Yaml.Loader α) (format content : String) (b : Breakdown) : Prop where
  isYaml : format = "yaml"
  full : Text.allBlank content = false
  breaks : l.load content = .error (.breakdown b)

theorem Settled.ne_breakdown {r : Outcome α} (h : Settled r) (b : Breakdown) :
    r ≠ .error (.breakdown b) := by
  obtain ⟨_, rfl⟩ | ⟨_, rfl⟩ := h <;> nofun

theorem settled_mappingOf (root : Root α) : Settled (mappingOf l root) := by
  cases root with
  | mapping fields => exact .inl ⟨fields, rfl⟩
  | nothing => exact .inl ⟨_, rfl⟩
  | other typeName => exact .inr ⟨_, rfl⟩

theorem decodeWith_of_breaksWith (h : BreaksWith l format content b) :
    decodeWith l format content = .error (.breakdown b) := by
  obtain ⟨rfl, hfull, hbreaks⟩ := h
  unfold decodeWith
  rw [hfull, hbreaks]
  rfl

/-- **Metadata is settled**, or the loader breaks down on it. -/
theorem decodeWith_cases (l : Yaml.Loader α) (format content : String) :
    Settled (decodeWith l format content) ∨ ∃ b, BreaksWith l format content b := by
  unfold decodeWith
  split
  · exact .inl (.inl ⟨_, rfl⟩)
  rename_i hfull
  split
  · cases Toml.read? content with
    | some entries => exact .inl (.inl ⟨_, rfl⟩)
    | none => exact .inl (.inr ⟨_, rfl⟩)
  split
  · rename_i hyaml
    cases hload : l.load content with
    | ok root => exact .inl (settled_mappingOf root)
    | error problem =>
      cases problem with
      | malformed => exact .inl (.inr ⟨_, rfl⟩)
      | breakdown b => exact .inr ⟨b, hyaml, Bool.eq_false_iff.mpr hfull, hload⟩
  · exact .inl (.inr ⟨_, rfl⟩)

theorem settled_decodeWith_iff (l : Yaml.Loader α) (format content : String) :
    (Settled (decodeWith l format content) ↔ ∀ b, ¬ BreaksWith l format content b) ∧
      ∀ b, decodeWith l format content = .error (.breakdown b) ↔ BreaksWith l format content b :=
  Outcome.settled_iff_of_cases (decodeWith_cases l format content) Settled.ne_breakdown
    fun _ => decodeWith_of_breaksWith

end Frontmatter

namespace Markdown

open Frontmatter (Delimits split?_eq_some_iff)
open Text (unended)

variable {α : Type} {l : Yaml.Loader α} {directive : α → Directive} {raw : String}
  {info : Option FenceInfo} {b : Breakdown}

/-- A code block is made, or its metadata is refused with a fault of that stage of parsing. -/
def Settled (r : Outcome Node) : Prop :=
  (∃ content language directive metadata,
      r = .ok (.codeBlock content language directive metadata)) ∨
    ∃ cause : ParsingCause, r = .error (.fault (.parsing cause)) ∧
      cause.stage = some "code_frontmatter"

/-- A metadata block is delimited on the top of a code, and the loader breaks down on it. -/
def BreaksWith (l : Yaml.Loader α) (raw : String) (b : Breakdown) : Prop :=
  ∃ s opening closing, Delimits fenceFormats (unended raw) s opening closing ∧
    l.load s.block = .error (.breakdown b)

theorem Settled.ne_breakdown {r : Outcome Node} (h : Settled r) (b : Breakdown) :
    r ≠ .error (.breakdown b) := by
  obtain ⟨_, _, _, _, rfl⟩ | ⟨_, rfl, -⟩ := h <;> nofun

theorem codeBlockWith_of_breaksWith (directive : α → Directive) (info : Option FenceInfo)
    (h : BreaksWith l raw b) : codeBlockWith l directive raw info = .error (.breakdown b) := by
  obtain ⟨s, opening, closing, hdelimits, hbreaks⟩ := h
  have hsplit := split?_eq_some_iff.mpr ⟨opening, closing, hdelimits⟩
  rw [codeBlockWith_of_split?_some hsplit, fieldsWith, hbreaks]
  rfl

/-- **A code block is settled**, or the loader breaks down on its metadata. -/
theorem codeBlockWith_cases (l : Yaml.Loader α) (directive : α → Directive) (raw : String)
    (info : Option FenceInfo) :
    Settled (codeBlockWith l directive raw info) ∨ ∃ b, BreaksWith l raw b := by
  cases hsplit : Frontmatter.split? fenceFormats (unended raw) with
  | none =>
    rw [codeBlockWith_of_split?_none hsplit]
    exact .inl (.inl ⟨_, _, _, _, rfl⟩)
  | some s =>
    obtain ⟨opening, closing, hdelimits⟩ := split?_eq_some_iff.mp hsplit
    rw [codeBlockWith_of_split?_some hsplit, fieldsWith]
    cases hload : l.load s.block with
    | ok root =>
      cases root with
      | mapping fields => exact .inl (.inl ⟨_, _, _, _, rfl⟩)
      | nothing => exact .inl (.inl ⟨_, _, _, _, rfl⟩)
      | other typeName => exact .inl (.inr ⟨_, rfl, rfl⟩)
    | error problem =>
      cases problem with
      | malformed => exact .inl (.inr ⟨_, rfl, rfl⟩)
      | breakdown b => exact .inr ⟨b, s, opening, closing, hdelimits, hload⟩

theorem settled_codeBlockWith_iff (l : Yaml.Loader α) (directive : α → Directive)
    (raw : String) (info : Option FenceInfo) :
    (Settled (codeBlockWith l directive raw info) ↔ ∀ b, ¬ BreaksWith l raw b) ∧
      ∀ b, codeBlockWith l directive raw info = .error (.breakdown b) ↔ BreaksWith l raw b :=
  Outcome.settled_iff_of_cases (codeBlockWith_cases l directive raw info) Settled.ne_breakdown
    fun _ => codeBlockWith_of_breaksWith directive info

end Markdown

/-- **Metadata is decoded or refused, unless the loader of YAML breaks down** on it, and then it
breaks down as the loader does: in a document and in a code block, whatever the loader. -/
theorem metadata_settled_iff {α : Type} (l : Yaml.Loader α) (directive : α → Directive)
    (format content raw : String) (info : Option Markdown.FenceInfo) :
    ((Frontmatter.Settled (Frontmatter.decodeWith l format content) ↔
          ∀ b, ¬ Frontmatter.BreaksWith l format content b) ∧
        ∀ b, Frontmatter.decodeWith l format content = .error (.breakdown b) ↔
          Frontmatter.BreaksWith l format content b) ∧
      (Markdown.Settled (Markdown.codeBlockWith l directive raw info) ↔
          ∀ b, ¬ Markdown.BreaksWith l raw b) ∧
        ∀ b, Markdown.codeBlockWith l directive raw info = .error (.breakdown b) ↔
          Markdown.BreaksWith l raw b :=
  ⟨Frontmatter.settled_decodeWith_iff l format content,
    Markdown.settled_codeBlockWith_iff l directive raw info⟩

/-- An entry with a month that no year has. -/
def thirteenthMonth : Yaml.Tree × Yaml.Tree :=
  (.scalar (Yaml.coreTag "str") "a", .scalar (Yaml.coreTag "timestamp") "2024-13-45")

theorem scan_thirteenth_month : Yaml.scan "a: 2024-13-45\n".toList =
    ([.blockMappingStart, .key, .scalar "a" true, .value, .scalar "2024-13-45" true, .blockEnd,
      .streamEnd], none) := by
  decide +kernel

theorem load_thirteenth_month :
    Yaml.load "a: 2024-13-45\n" = .error (.breakdown .impossibleValue) := by
  let tree := Yaml.Tree.mapping (Yaml.coreTag "map") [thirteenthMonth]
  have hcompose : Yaml.compose "a: 2024-13-45\n".toList = .ok (some tree) := by
    unfold Yaml.compose
    rw [scan_thirteenth_month]
    rfl
  have hbuild : Yaml.build tree = .error (.breakdown .impossibleValue) := by
    have hkey : Yaml.build thirteenthMonth.1 = .ok (.str "a") := by
      rw [thirteenthMonth, Yaml.build]
      rfl
    have hvalue : Yaml.build thirteenthMonth.2 = .error (.breakdown .impossibleValue) := by
      rw [thirteenthMonth, Yaml.build]
      rfl
    have hentries : Yaml.buildEntries [thirteenthMonth] =
        .error (.breakdown .impossibleValue) := by
      rw [thirteenthMonth, Yaml.buildEntries]
      show (Yaml.build thirteenthMonth.1 >>= fun k => _) = _
      rw [hkey]
      show (Yaml.build thirteenthMonth.2 >>= fun v => _) = _
      rw [hvalue]
      rfl
    rw [Yaml.build, show Yaml.flattenEntries [thirteenthMonth] = .ok [thirteenthMonth] from rfl]
    simp only [hentries]
    rfl
  have hfill : Yaml.fillLevel [tree] = .error (.breakdown .impossibleValue) := rfl
  have hfirst : Yaml.firstProblem [tree] = some (.breakdown .impossibleValue) := by
    rw [Yaml.firstProblem]
    split
    · rename_i hproblem
      cases hfill.symm.trans hproblem
      rfl
    · rename_i hnext
      cases hfill.symm.trans hnext
  unfold Yaml.load
  rw [hcompose]
  show Yaml.construct tree = _
  unfold Yaml.construct
  rw [hbuild]
  show Except.error ((Yaml.firstProblem [tree]).getD _) = _
  rw [hfirst]
  rfl

/-- A date in the thirteenth month is neither decoded nor refused, in a document or in a code
block. -/
theorem thirteenth_month_not_settled :
    ¬ Frontmatter.Settled (Frontmatter.decode "yaml" "a: 2024-13-45\n") ∧
      ¬ Markdown.Settled (Markdown.codeBlock "---\na: 2024-13-45\n---\nx\n" none) := by
  have hload : Yaml.Loader.usual.load "a: 2024-13-45\n" = .error (.breakdown .impossibleValue) := by
    rw [Yaml.Loader.usual_load, load_thirteenth_month]
    rfl
  have hdocument : Frontmatter.BreaksWith .usual "yaml" "a: 2024-13-45\n" .impossibleValue :=
    ⟨rfl, by decide, hload⟩
  have hcode : Markdown.BreaksWith .usual "---\na: 2024-13-45\n---\nx\n" .impossibleValue :=
    ⟨⟨"yaml", "a: 2024-13-45\n", "x"⟩, "---\n".toList, "---\n".toList,
      ⟨by decide, by decide, by decide, by decide⟩, hload⟩
  exact ⟨fun h => (Frontmatter.settled_decodeWith_iff _ _ _).1.mp h _ hdocument,
    fun h => (Markdown.settled_codeBlockWith_iff _ _ _ _).1.mp h _ hcode⟩

end Manuscript
