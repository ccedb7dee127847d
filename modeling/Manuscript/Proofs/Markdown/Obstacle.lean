import Manuscript.Proofs.Conversion.Body
import Manuscript.Proofs.Markdown.Emission
import Manuscript.Proofs.Markdown.Problem

/-!
# What parsing stops at

Parsing stops at two things only: a formula of a block in running text, for which there is no
inline node, and a code block whose metadata cannot be decoded. `obstacles` lists them in the order
of the text; nothing else is wrong with emitted tokens (`problems_of_emitted`). So the tokens of a
text are built without fail if there are none, and otherwise building them fails with the first
(`blocks_stop_at_obstacles`), and a text is refused for its tokens exactly when its first obstacle
is a formula, and never if formulas are switched off (`refused_for_tokens_iff`).
-/

namespace Manuscript.Markdown

variable {o : ParserOptions} {α : Type}

/-! ### Obstacles -/

/-- Something that the building of a tree stops at. -/
inductive Obstacle where
  /-- a formula of a block that stands in running text -/
  | formula
  /-- a code block that cannot be built, and why -/
  | code (failure : Failure)

/-- What building fails with when it comes to an obstacle. -/
def Obstacle.failure : Obstacle → Failure
  | formula => .fault (.parsing (.unsupportedInline (.str "block_math")))
  | code e => e

def codeObstacles (h : Head) : List Obstacle :=
  match codeNode h with
  | .ok _ => []
  | .error e => [.code e]

mutual

/-- The obstacles in a token that stands in a sort of places, in order. The alternative text of an
image is not built. -/
def obstacles (site : Site) : Token → List Obstacle
  | .leaf h =>
    match site, h.kind with
    | .inline, .blockMath => [.formula]
    | .block, .blockCode => codeObstacles h
    | _, _ => []
  | .branch h children =>
    match h.kind, h.kind.branchSites? with
    | .image, _ | _, none => []
    | _, some (_, inside) => obstaclesIn inside children
  | .misfit _ _ | .stray _ => []

def obstaclesIn (site : Site) : List Token → List Obstacle
  | [] => []
  | t :: ts => obstacles site t ++ obstaclesIn site ts

end

/-! ### Obstacles are what is wrong with emitted tokens -/

/-- An obstacle as a problem. -/
def Problem.ofObstacle : Obstacle → Problem
  | .formula => .unrecognised (.of .inline) .blockMath
  | .code e => .malformed e

theorem Problem.failure_ofObstacle (b : Obstacle) : (ofObstacle b).failure = b.failure := by
  cases b <;> rfl

theorem problemsIn_eq_map {site : Site} {ts : List Token}
    (h : ∀ t ∈ ts, problems (.of site) t = (obstacles site t).map .ofObstacle) :
    problemsIn (.of site) ts = (obstaclesIn site ts).map .ofObstacle := by
  induction ts with
  | nil => rfl
  | cons t ts ih =>
    obtain ⟨ht, hts⟩ := List.forall_mem_cons.mp h
    rw [problemsIn, obstaclesIn, List.map_append, ht, ih hts]

/-- The text of emitted tokens can be told. -/
theorem problems_alternative {site : Site} {t : Token} (h : t.Emitted o site) :
    problems .alternative t = [] := by
  induction h with
  | leaf place _ => rfl
  | @branch site inside h children places _ _ _ ih =>
    have hchildren := problemsIn_eq_nil ih
    obtain ⟨kind, raw, attributes⟩ := h
    cases kind with
    | softBreak => rfl
    | _ => exact congrArg (· ++ []) hchildren

/-- A heading with a level is built. -/
theorem lateProblems_heading {h : Head} (hkind : h.kind = .heading) (level : h.LevelFits) :
    lateProblems (.of .block) h = [] := by
  obtain ⟨n, hn, hgiven⟩ := level hkind
  have hlevel : headingLevel h = .ok n := by rw [headingLevel, hgiven]
  simp only [lateProblems, hkind]
  rw [headingNode_of_level hlevel (by omega)]
  rfl

theorem problems_code (h : Head) : problemsOf (codeNode h) = (codeObstacles h).map .ofObstacle := by
  unfold codeObstacles
  cases codeNode h <;> rfl

theorem problems_leaf {site : Site} {h : Head} (place : site ∈ h.kind.leafSites) :
    problems (.of site) (.leaf h) = (obstacles site (.leaf h)).map .ofObstacle := by
  obtain ⟨kind, raw, attributes⟩ := h
  cases kind with
  | blockCode =>
    obtain rfl := List.mem_singleton.mp place
    exact problems_code _
  | blockMath =>
    obtain rfl | rfl : site = .block ∨ site = .inline := by simpa [TokenKind.leafSites] using place
    · rfl
    · rfl
  | blankLine | thematicBreak | blockHtml | text | softBreak | lineBreak | codeSpan | inlineHtml
  | inlineMath | footnoteReference =>
    obtain rfl := List.mem_singleton.mp place
    rfl
  | _ => cases place

/-- **What is wrong with an emitted token** are the obstacles in it. -/
theorem problems_of_emitted {site : Site} {t : Token} (h : t.Emitted o site) :
    problems (.of site) t = (obstacles site t).map .ofObstacle := by
  induction h with
  | leaf place _ => exact problems_leaf place
  | @branch site inside h children places _ level emitted ih =>
    have hchildren := problemsIn_eq_map ih
    obtain ⟨kind, raw, attributes⟩ := h
    cases kind with
    | image =>
      cases places
      have halt := problemsIn_eq_nil fun t ht => problems_alternative (emitted t ht)
      exact congrArg (· ++ []) halt
    | heading =>
      cases places
      have hlate := lateProblems_heading rfl level
      exact (congrArg₂ (· ++ ·) hchildren hlate).trans (List.append_nil _)
    | paragraph | blockQuote | list | listItem | taskListItem | table | tableHead | tableBody
    | tableRow | tableCell | footnotes | footnoteItem | link | emphasis | strong
    | strikethrough =>
      cases places
      exact (congrArg (· ++ []) hchildren).trans (List.append_nil _)
    | _ => cases places

/-- **Emitted blocks are built unless they hold an obstacle**, and otherwise building them fails
with the first. -/
theorem blocks_stop_at_obstacles {ts : List Token} (h : AllEmitted o .block ts) :
    StopsAt Obstacle.failure (obstaclesIn .block ts) (blocks ts) := by
  have hproblems : Stops ((obstaclesIn .block ts).map .ofObstacle) (blocks ts) := by
    rw [← problemsIn_eq_map fun t ht => problems_of_emitted (h t ht)]
    exact blocks_stops ts
  exact hproblems.of_map Problem.failure_ofObstacle

/-! ### Whole texts -/

theorem mem_obstaclesIn {site : Site} {ts : List Token} {b : Obstacle} :
    b ∈ obstaclesIn site ts ↔ ∃ t ∈ ts, b ∈ obstacles site t := by
  induction ts with
  | nil => simp [obstaclesIn]
  | cons t ts ih => simp [obstaclesIn, ih]

/-- A formula is an obstacle only if formulas are switched on; a code block is one only if it cannot
be built. -/
def Obstacle.Sound (o : ParserOptions) : Obstacle → Prop
  | formula => o.math.truthy = true
  | code e => ∃ h, codeNode h = .error e

theorem codeObstacles_sound {h : Head} : ∀ b ∈ codeObstacles h, b.Sound o := by
  intro b hb
  unfold codeObstacles at hb
  split at hb
  · cases hb
  · rename_i e he
    obtain rfl := List.mem_singleton.mp hb
    exact ⟨h, he⟩

theorem obstacles_sound {site : Site} {t : Token} (h : t.Emitted o site) :
    ∀ b ∈ obstacles site t, b.Sound o := by
  induction h with
  | leaf _ enabled =>
    intro b hb
    unfold obstacles at hb
    split at hb
    · rename_i hkind _
      obtain rfl := List.mem_singleton.mp hb
      rw [hkind] at enabled
      exact enabled
    · exact codeObstacles_sound b hb
    · cases hb
  | branch places _ _ _ ih =>
    intro b hb
    unfold obstacles at hb
    rw [places] at hb
    split at hb
    · cases hb
    · cases hb
    · rename_i hinside _
      obtain ⟨-, rfl⟩ := Prod.mk.inj (Option.some.inj hinside)
      obtain ⟨t, ht, hb⟩ := mem_obstaclesIn.mp hb
      exact ih t ht b hb

theorem fieldsWith_stage {l : Yaml.Loader α} {block : String} {language : Option String}
    {cause : ParsingCause} (h : fieldsWith l block language = .error (.fault (.parsing cause))) :
    cause.stage = some "code_frontmatter" := by
  unfold fieldsWith at h
  split at h
  · cases h
  · cases h
  · cases h
    rfl
  · cases h
    rfl
  · cases h

theorem infoOf_ne_fault (given : Option Value) (f : Fault) : infoOf given ≠ .error (.fault f) := by
  have hyields : Yields [] (fun _ => True) (infoOf given) := infoOf_yields given
  exact hyields.ne_fault List.not_mem_nil

/-- What keeps a code block from being built is its metadata. -/
theorem codeNode_stage {h : Head} {cause : ParsingCause}
    (he : codeNode h = .error (.fault (.parsing cause))) :
    cause.stage = some "code_frontmatter" := by
  unfold codeNode at he
  split at he
  · obtain he | ⟨info, -, he⟩ := Outcome.bind_eq_error_iff.mp he
    · exact absurd he (infoOf_ne_fault _ _)
    · unfold codeBlock codeBlockWith at he
      dsimp only at he
      split at he
      · obtain he | ⟨fields, -, he⟩ := Outcome.bind_eq_error_iff.mp he
        · exact fieldsWith_stage he
        · cases he
      · cases he
  · cases he

/-- The obstacles in a text, below its metadata block. -/
def textObstacles (o : ParserOptions) (text : String) : List Obstacle :=
  obstaclesIn .block (tokens o (belowFront o (dropMark text)))

theorem textObstacles_sound (o : ParserOptions) (text : String) :
    ∀ b ∈ textObstacles o text, b.Sound o := by
  intro b hb
  obtain ⟨t, ht, hb⟩ := mem_obstaclesIn.mp hb
  exact obstacles_sound (tokens_emitted o _ t ht) b hb

/-- **A text is parsed unless it holds an obstacle**, and otherwise fails with the first. -/
theorem parse_stops (o : ParserOptions) (text : String) :
    StopsAt Obstacle.failure (textObstacles o text) (parse o text).outcome := by
  rw [parse_outcome]
  exact (blocks_stop_at_obstacles (tokens_emitted o (belowFront o (dropMark text)))).map

/-- **When a text is refused for its tokens.** It is exactly when the first obstacle in it is a
formula of a block that stands in running text, and never if formulas are switched off. -/
theorem refused_for_tokens_iff (o : ParserOptions) (text : String) :
    (∀ cause, (parse o text).outcome = .error (.fault (.parsing cause)) ∧
        cause.stage = some "tokens" ↔
      cause = .unsupportedInline (.str "block_math") ∧
        (textObstacles o text).head? = some .formula) ∧
      (o.math.truthy = false → .formula ∉ textObstacles o text) := by
  have hstops := parse_stops o text
  have hsound := textObstacles_sound o text
  constructor
  · intro cause
    cases hos : textObstacles o text with
    | nil =>
      rw [hos] at hstops
      obtain ⟨document, hok⟩ := hstops
      simp [hok]
    | cons b os =>
      rw [hos] at hstops hsound
      replace hstops : (parse o text).outcome = .error b.failure := hstops
      rw [hstops]
      cases b with
      | formula =>
        constructor
        · rintro ⟨hcause, -⟩
          cases hcause
          exact ⟨rfl, rfl⟩
        · rintro ⟨rfl, -⟩
          exact ⟨rfl, rfl⟩
      | code e =>
        obtain ⟨h, hcode⟩ := hsound (.code e) List.mem_cons_self
        constructor
        · rintro ⟨hcause, hstage⟩
          obtain rfl : e = .fault (.parsing cause) := Except.error.inj hcause
          simp [codeNode_stage hcode] at hstage
        · rintro ⟨-, hformula⟩
          cases hformula
  · intro hoff hformula
    have hon : o.math.truthy = true := hsound _ hformula
    simp [hon] at hoff

/-- Whether a formula in running text is refused. -/
def isRefusedFormula : Outcome (List Node) → Bool
  | .error (.fault (.parsing (.unsupportedInline (.str "block_math")))) => true
  | _ => false

/-- A formula between two dollar signs inside a line is not told from one of its own. -/
theorem parse_two_signs : (parse {} "text $$x$$ inline\n").outcome =
    .error (.fault (.parsing (.unsupportedInline (.str "block_math")))) := by
  have hfront : frontBlock? {} (dropMark "text $$x$$ inline\n") = none := by decide +kernel
  have hblocks : blocks (tokens {} "text $$x$$ inline\n") =
      .error (.fault (.parsing (.unsupportedInline (.str "block_math")))) := by
    have hrefused : isRefusedFormula (blocks (tokens {} "text $$x$$ inline\n")) = true := by
      decide +kernel
    unfold isRefusedFormula at hrefused
    split at hrefused
    next h => exact h
    next => cases hrefused
  exact parse_outcome_of_stages hfront hblocks

/-- So a text can be refused for its tokens. -/
theorem refused_two_signs : ¬ ∀ o text cause,
    (parse o text).outcome = .error (.fault (.parsing cause)) → cause.stage ≠ some "tokens" :=
  fun h => h _ _ _ parse_two_signs rfl

/-- The formula is the first obstacle of that text, and is none when formulas are switched off. -/
theorem refused_for_tokens_iff_two_signs :
    (textObstacles {} "text $$x$$ inline\n").head? = some .formula ∧
      Obstacle.formula ∉ textObstacles { math := .bool false } "text $$x$$ inline\n" := by
  obtain ⟨hrefused, -⟩ := refused_for_tokens_iff {} "text $$x$$ inline\n"
  obtain ⟨-, hoff⟩ := refused_for_tokens_iff { math := .bool false } "text $$x$$ inline\n"
  exact ⟨((hrefused _).mp ⟨parse_two_signs, rfl⟩).2, hoff rfl⟩

end Manuscript.Markdown
