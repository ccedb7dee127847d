import Manuscript.Proofs.Markdown.Outline
import Manuscript.Proofs.Markdown.Running

/-!
# What a text is taken apart into

Every token of a text is emitted in its place by the grammar of tokens, at every depth and whatever
the options are (`tokens_emitted`). A block that fits an outline becomes a token that is emitted
where the block stood, by induction over the blocks; the footnotes that were referred to on the way
are read as outlines of their own.
-/

namespace Manuscript.Markdown

variable {o : ParserOptions} {x : InlineSetting} {notes : List String}

/-- Tokens that are emitted, and footnotes referred to only if these are switched on. -/
structure Emits (o : ParserOptions) (site : Site) (r : List Token × List String) : Prop where
  tokens : AllEmitted o site r.1
  notes : NotesEnabled o r.2

/-- A token that is emitted, and footnotes referred to only if these are switched on. -/
structure EmitsOne (o : ParserOptions) (site : Site) (r : Token × List String) : Prop where
  token : r.1.Emitted o site
  notes : NotesEnabled o r.2

theorem Emits.branch {site inside : Site} {h : Head} {r : List Token × List String}
    (hr : Emits o inside r) (places : h.kind.branchSites? = some (site, inside))
    (enabled : h.kind.Enabled o) (level : h.LevelFits) :
    EmitsOne o site (.branch h r.1, r.2) :=
  ⟨.branch places enabled level hr.tokens, hr.notes⟩

theorem Emits.nil {site : Site} (h : NotesEnabled o notes) : Emits o site ([], notes) :=
  ⟨List.forall_mem_nil _, h⟩

theorem Emits.cons {site : Site} {first : Token} {others : List Token}
    (hfirst : first.Emitted o site) (hothers : Emits o site (others, notes)) :
    Emits o site (first :: others, notes) :=
  ⟨.cons hfirst hothers.tokens, hothers.notes⟩

/-! ### Running text and tables -/

theorem withText_emits (hx : x.AllowedBy o) (hn : NotesEnabled o notes) {site : Site} (h : Head)
    (places : h.kind.branchSites? = some (site, .inline)) (enabled : h.kind.Enabled o)
    (level : h.LevelFits) (text : List Char) : EmitsOne o site (withText x h text notes) := by
  obtain ⟨htokens, hnotes⟩ := inlineTokens_emitted hx text hn
  exact ⟨.branch places enabled level htokens, hnotes⟩

theorem cellTokens_emits (hx : x.AllowedBy o) (ho : o.tables.truthy = true) (cs : List Cell)
    (hn : NotesEnabled o notes) : Emits o .cell (cellTokens x notes cs) := by
  induction cs generalizing notes with
  | nil => exact .nil hn
  | cons c cs ih =>
    have hcell := withText_emits hx hn
      { kind := .tableCell, attributes := some [(.str "align", optionalText c.alignment)] }
      rfl ho (by simp [Head.LevelFits]) c.text
    exact .cons hcell.token (ih hcell.notes)

theorem rowTokens_emits (hx : x.AllowedBy o) (ho : o.tables.truthy = true) (rs : List (List Cell))
    (hn : NotesEnabled o notes) : Emits o .row (rowTokens x notes rs) := by
  induction rs generalizing notes with
  | nil => exact .nil hn
  | cons r rs ih =>
    have hcells := cellTokens_emits hx ho r hn
    exact .cons (.branch_of_ne_heading rfl ho (by simp) hcells.tokens) (ih hcells.notes)

/-! ### Blocks -/

/-- The place of the token of a block. -/
def Block.Place.site : Block.Place → Site
  | .block => .block
  | .item => .item

theorem itemHead_branchSites? (task : Option Bool) :
    (itemHead task).kind.branchSites? = some (.item, .block) := by
  cases task <;> rfl

theorem itemHead_enabled {task : Option Bool} (h : task.isSome = true → o.taskLists.truthy = true) :
    (itemHead task).kind.Enabled o := by
  cases task with
  | none => trivial
  | some ticked => exact h rfl

mutual

theorem blockToken_emits (hx : x.AllowedBy o) {p : Block.Place} : ∀ {b : Block}
    {notes : List String}, b.Fits o p → NotesEnabled o notes →
    EmitsOne o p.site (blockToken x notes b)
  | .blank, notes, h, hn => by
    cases h
    exact ⟨.leaf (by decide) trivial, hn⟩
  | .heading level text, notes, h, hn => by
    cases h with
    | heading level_pos =>
      exact withText_emits hx hn
        { kind := .heading, attributes := some [(.str "level", .int level)] }
        rfl trivial (fun _ => ⟨level, level_pos, rfl⟩) text
  | .paragraph text, notes, h, hn => by
    cases h
    exact withText_emits hx hn { kind := .paragraph } rfl trivial (by simp [Head.LevelFits]) text
  | .code raw info, notes, h, hn => by
    cases h
    exact ⟨.leaf (List.mem_singleton.mpr rfl) trivial, hn⟩
  | .quote children, notes, h, hn => by
    cases h with
    | quote children_fit =>
      exact (blockTokens_emits hx children_fit hn).branch rfl trivial (by simp [Head.LevelFits])
  | .list start items, notes, h, hn => by
    cases h with
    | list items_fit =>
      exact (blockTokens_emits hx items_fit hn).branch rfl trivial (by simp [Head.LevelFits])
  | .item task children, notes, h, hn => by
    cases h with
    | item enabled children_fit =>
      refine (blockTokens_emits hx children_fit hn).branch (itemHead_branchSites? task)
        (itemHead_enabled enabled) ?_
      cases task <;> simp [Head.LevelFits, itemHead]
  | .rule, notes, h, hn => by
    cases h
    exact ⟨.leaf (by decide) trivial, hn⟩
  | .html raw, notes, h, hn => by
    cases h
    exact ⟨.textual (by decide) trivial, hn⟩
  | .math raw, notes, h, hn => by
    cases h with
    | math enabled => exact ⟨.textual (by decide) enabled, hn⟩
  | .table header rows, notes, h, hn => by
    cases h with
    | table enabled =>
      have hhead := cellTokens_emits hx enabled header hn
      have hrows := rowTokens_emits hx enabled rows hhead.notes
      refine ⟨.branch_of_ne_heading rfl enabled (by simp) ?_, hrows.notes⟩
      refine .cons ?_ (.cons ?_ (List.forall_mem_nil _))
      · exact .branch_of_ne_heading rfl enabled (by simp) hhead.tokens
      · exact .branch_of_ne_heading rfl enabled (by simp) hrows.tokens

theorem blockTokens_emits (hx : x.AllowedBy o) {p : Block.Place} : ∀ {bs : List Block}
    {notes : List String}, (∀ b ∈ bs, b.Fits o p) → NotesEnabled o notes →
    Emits o p.site (blockTokens x notes bs)
  | [], notes, _, hn => .nil hn
  | b :: bs, notes, h, hn => by
    obtain ⟨hb, hbs⟩ := List.forall_mem_cons.mp h
    have hfirst := blockToken_emits hx hb hn
    exact .cons hfirst.token (blockTokens_emits hx hbs hfirst.notes)

end

/-! ### Footnotes -/

theorem noteBlocks_fit {extensions : Extensions} (h : extensions.AllowedBy o) (text : List Char) :
    AllFit o (noteBlocks extensions text) := by
  unfold noteBlocks
  split
  · exact outline_fits h _
  · exact List.forall_mem_singleton.mpr .paragraph

theorem noteToken_emitted {extensions : Extensions} (h : extensions.AllowedBy o)
    (hx : x.AllowedBy o) (ho : o.footnotes.truthy = true) (key : String) :
    (noteToken extensions x key).Emitted o .note := by
  have hinner : Emits o .block (blockTokens x [] (noteBlocks extensions _)) :=
    blockTokens_emits (p := .block) hx (noteBlocks_fit h ((x.defs.notes.lookup key).getD [])) .nil
  exact .branch_of_ne_heading rfl ho (by simp) hinner.tokens

theorem noteSection_emitted {extensions : Extensions} (h : extensions.AllowedBy o)
    (hx : x.AllowedBy o) (hn : NotesEnabled o notes) :
    AllEmitted o .block (noteSection extensions x notes) := by
  unfold noteSection
  split
  · exact List.forall_mem_nil _
  · rename_i hne
    have ho : o.footnotes.truthy = true := hn (by simpa using hne)
    refine List.forall_mem_singleton.mpr (.branch_of_ne_heading rfl ho (by simp) fun t ht => ?_)
    obtain ⟨key, -, rfl⟩ := List.mem_map.mp ht
    exact noteToken_emitted h hx ho key

/-! ### Whole texts -/

/-- The extensions of an outline that options switch on. -/
def extensionsOf (o : ParserOptions) : Extensions :=
  { notes := o.footnotes.truthy, math := o.math.truthy, tables := o.tables.truthy }

/-- What the running text of a document is read with. -/
def inlineSettingOf (o : ParserOptions) (defs : Definitions) : InlineSetting where
  strikethrough := o.strikethrough.truthy
  notes := o.footnotes.truthy
  math := o.math.truthy
  defs := defs

theorem extensionsOf_allowed (o : ParserOptions) : (extensionsOf o).AllowedBy o := ⟨id, id⟩

theorem inlineSettingOf_allowed (o : ParserOptions) (defs : Definitions) :
    (inlineSettingOf o defs).AllowedBy o := ⟨id, id, id⟩

/-- The blocks of a text, with its tasks marked if the options ask for it. -/
def blocksOf (o : ParserOptions) (text : String) : List Block :=
  let blocks := (outline (extensionsOf o) (prepared text)).1
  if o.taskLists.truthy then markAllTasks blocks else blocks

theorem blocksOf_fit (o : ParserOptions) (text : String) : AllFit o (blocksOf o text) := by
  have houtline := outline_fits (extensionsOf_allowed o) (prepared text)
  unfold blocksOf
  dsimp only
  split
  · rename_i ho
    exact markAllTasks_fits ho houtline
  · exact houtline

/-- **All tokens of a text are emitted** in their places, at every depth. -/
theorem tokens_emitted (o : ParserOptions) (text : String) :
    AllEmitted o .block (tokens o text) := by
  have hx := inlineSettingOf_allowed o (outline (extensionsOf o) (prepared text)).2
  have hbody : Emits o .block (blockTokens (inlineSettingOf o _) [] (blocksOf o text)) :=
    blockTokens_emits (p := .block) hx (blocksOf_fit o text) .nil
  exact List.forall_mem_append.mpr
    ⟨hbody.tokens, noteSection_emitted (extensionsOf_allowed o) hx hbody.notes⟩

end Manuscript.Markdown
