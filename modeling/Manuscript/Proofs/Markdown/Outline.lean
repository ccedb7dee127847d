import Manuscript.Markdown.Stream
import Mathlib.Data.List.Basic

/-!
# What an outline holds

In an outline items stand in lists only and lists hold nothing else, headings have a level, and
formulas, tables and tasks come up only if the options ask for them (`Block.Fits`). Every rule that
takes a block keeps this of the blocks read so far (`Reader.Fits`). The rules for quotes and lists
call each other, since a block that interrupts a quote or an item is taken before the quote or item
is; so they are settled together, by induction on the fuel that they share. From one step follows
the whole reading (`readAll_fits`), and from that an outline with the outlines inside it, by
induction on the depth (`outline_fits`).
-/

namespace Manuscript.Markdown

variable {o : ParserOptions}

/-! ### Places of blocks -/

/-- The extensions of an outline are switched on by the options. -/
structure Extensions.AllowedBy (o : ParserOptions) (x : Extensions) : Prop where
  math : x.math = true → o.math.truthy = true
  tables : x.tables = true → o.tables.truthy = true

theorem Extensions.AllowedBy.none : ({} : Extensions).AllowedBy o where
  math h := by cases h
  tables h := by cases h

/-- The sorts of places in an outline. -/
inductive Block.Place where
  | block
  | item

/-- **A block fits a place** of an outline that is read by the options. -/
inductive Block.Fits (o : ParserOptions) : Block.Place → Block → Prop where
  | blank : Fits o .block .blank
  | heading {level : Nat} {text : List Char} (level_pos : 1 ≤ level) :
      Fits o .block (.heading level text)
  | paragraph {text : List Char} : Fits o .block (.paragraph text)
  | code {raw : List Char} {info : Option String} : Fits o .block (.code raw info)
  | quote {children : List Block} (children_fit : ∀ b ∈ children, Fits o .block b) :
      Fits o .block (.quote children)
  | list {start : Option Nat} {items : List Block} (items_fit : ∀ b ∈ items, Fits o .item b) :
      Fits o .block (.list start items)
  | item {task : Option Bool} {children : List Block}
      (enabled : task.isSome = true → o.taskLists.truthy = true)
      (children_fit : ∀ b ∈ children, Fits o .block b) : Fits o .item (.item task children)
  | rule : Fits o .block .rule
  | html {raw : List Char} : Fits o .block (.html raw)
  | math {raw : List Char} (enabled : o.math.truthy = true) : Fits o .block (.math raw)
  | table {header : List Cell} {rows : List (List Cell)} (enabled : o.tables.truthy = true) :
      Fits o .block (.table header rows)

abbrev AllFit (o : ParserOptions) (bs : List Block) : Prop := ∀ b ∈ bs, b.Fits o .block

open Block (Fits)

/-! ### Levels of headings -/

theorem signHeading?_level {most level : Nat} {l : Line} {text : List Char}
    (h : signHeading? most l = some (level, text)) : 1 ≤ level := by
  simp only [signHeading?, Option.bind_eq_bind, Option.bind_eq_some_iff] at h
  obtain ⟨marked, -, h⟩ := h
  split_ifs at h with hlevel
  obtain ⟨rfl, -⟩ := Prod.mk.inj (Option.some.inj h)
  simp only [Bool.and_eq_true, decide_eq_true_eq] at hlevel
  exact hlevel.1.1

theorem underline?_level {level : Nat} {l : Line} (h : underline? l = some level) : 1 ≤ level := by
  simp only [underline?, Option.bind_eq_bind, Option.bind_eq_some_iff] at h
  obtain ⟨marked, -, h⟩ := h
  split_ifs at h
  obtain ⟨c, -, rfl⟩ := Option.map_eq_some_iff.mp h
  split_ifs <;> simp

/-! ### Tables -/

theorem tableOf?_fits (ho : o.tables.truthy = true) {header aligning : List Char}
    {rows : List (List Char)} {t : Block} (h : tableOf? header aligning rows = some t) :
    t.Fits o .block := by
  simp only [tableOf?, Option.bind_eq_bind, Option.bind_eq_some_iff, Option.some.injEq] at h
  obtain ⟨head, -, inside, -, rfl⟩ := h
  exact .table ho

theorem barredTable?_fits (ho : o.tables.truthy = true) {ls after : List Line} {t : Block}
    (h : barredTable? ls = some (some (t, after))) : t.Fits o .block := by
  unfold barredTable? at h
  split at h
  · obtain ⟨header, -, h⟩ := Option.bind_eq_some_iff.mp h
    obtain ⟨aligning, -, h⟩ := Option.bind_eq_some_iff.mp h
    dsimp only at h
    split at h
    · cases h
    · split at h
      · cases h
      · obtain ⟨_, ht, heq⟩ := Option.map_eq_some_iff.mp (Option.some.inj h)
        obtain ⟨rfl, -⟩ := Prod.mk.inj heq
        exact tableOf?_fits ho ht
  · cases h

theorem bareTable?_fits (ho : o.tables.truthy = true) {ls after : List Line} {t : Block}
    (h : bareTable? ls = some (some (t, after))) : t.Fits o .block := by
  unfold bareTable? at h
  split at h
  · split_ifs at h
    obtain ⟨_, ht, heq⟩ := Option.map_eq_some_iff.mp (Option.some.inj h)
    obtain ⟨rfl, -⟩ := Prod.mk.inj heq
    exact tableOf?_fits ho ht
  · cases h

namespace Reader

/-- All blocks that have been read fit. -/
def Fits (o : ParserOptions) (r : Reader) : Prop := AllFit o r.done

variable {r r' : Reader}

/-! ### Blocks without blocks inside -/

theorem add_fits (h : r.Fits o) {b : Block} (hb : b.Fits o .block) (rest : List Line) :
    (r.add b rest).Fits o := List.forall_mem_cons.mpr ⟨hb, h⟩

theorem addText_fits (h : r.Fits o) (text : List Char) (rest : List Line) :
    (r.addText text rest).Fits o := by
  unfold addText
  split
  · rename_i t before hdone
    have hbefore : AllFit o before := fun b hb => h b (by simp [hdone, hb])
    exact List.forall_mem_cons.mpr ⟨.paragraph, hbefore⟩
  · exact add_fits h .paragraph rest

theorem takeText_fits (h : r.Fits o) : r.takeText.Fits o := by
  unfold takeText
  split
  · exact h
  · exact addText_fits h _ _

theorem takeIndented_fits (h : r.Fits o) (l : Line) (ls : List Line) :
    (r.takeIndented l ls).Fits o := by
  unfold takeIndented
  dsimp only
  split
  · exact addText_fits (add_fits h .code _) _ _
  · exact add_fits h .code _

theorem takeFenced_fits (h : r.Fits o) (f : Fence) (ls : List Line) : (r.takeFenced f ls).Fits o :=
  add_fits h .code _

theorem takeBlank_fits (h : r.Fits o) : r.takeBlank.Fits o := add_fits h .blank _

theorem takeHtml?_fits (h : r.Fits o) {reach : HtmlReach} (hr : r.takeHtml? reach = some r') :
    r'.Fits o := by
  have hwhole : ∀ inside after, (r.add (.html inside) after).Fits o :=
    fun _ after => add_fits h .html after
  unfold takeHtml? at hr
  dsimp only at hr
  split at hr
  · split_ifs at hr
    obtain rfl := Option.some.inj hr
    exact takeText_fits h
  · obtain rfl := Option.some.inj hr
    split_ifs
    · exact takeText_fits h
    · exact hwhole _ _
  · obtain rfl := Option.some.inj hr
    exact hwhole _ _

theorem takeDefinition?_fits (h : r.Fits o) {label rest : List Char}
    (hr : r.takeDefinition? label rest = some r') : r'.Fits o := by
  unfold takeDefinition? at hr
  dsimp only at hr
  split_ifs at hr with hparagraph hkey
  · obtain rfl := Option.some.inj hr
    exact takeText_fits h
  · cases hr
  · obtain ⟨⟨target, after⟩, -, hr⟩ := Option.bind_eq_some_iff.mp hr
    obtain rfl := Option.some.inj hr
    exact h

end Reader

/-! ### Lines of quotes and items -/

/-- A block that interrupts leaves a fitting outline. -/
def InterruptFits (o : ParserOptions) (interrupt : List Line → Option Reader) : Prop :=
  ∀ ls r, interrupt ls = some r → r.Fits o

/-- What interrupted a quote, if anything did, left a fitting outline. -/
def Ending.Fits (o : ParserOptions) : Ending → Prop
  | .before _ => True
  | .interrupted after => after.Fits o

/-- What interrupted an item, if anything did, left a fitting outline. -/
def ItemEnding.Fits (o : ParserOptions) : ItemEnding → Prop
  | .next _ _ | .ended _ => True
  | .interrupted after => after.Fits o

theorem lazyQuote_fits {interrupt : List Line → Option Reader} (h : InterruptFits o interrupt)
    (blank : Bool) (ls : List Line) : (lazyQuote interrupt blank ls).2.Fits o := by
  induction ls generalizing blank with
  | nil => trivial
  | cons l ls ih =>
    rw [lazyQuote]
    split
    · exact ih _
    · split
      · trivial
      · split
        · rename_i after hafter
          exact h _ _ hafter
        · exact ih false

theorem strictQuote_fits (ls : List Line) : (strictQuote ls).2.Fits o := by
  induction ls with
  | nil => trivial
  | cons l ls ih =>
    rw [strictQuote]
    split
    · exact ih
    · trivial

theorem itemLines_fits {interrupt : List Line → Option Reader} (h : InterruptFits o interrupt)
    (f : ItemFrame) (started blank : Bool) (ls : List Line) :
    (itemLines f interrupt started blank ls).2.Fits o := by
  induction ls generalizing started blank with
  | nil => trivial
  | cons l ls ih =>
    -- a line that belongs to the item hands the question on to the lines after it
    have hstays : ∀ started, (if blank then ([], ItemEnding.ended (l :: ls))
        else (tabToColumn 4 l :: (itemLines f interrupt started false ls).1,
          (itemLines f interrupt started false ls).2)).2.Fits o := by
      intro started
      split
      · trivial
      · exact ih _ _
    rw [itemLines]
    dsimp only
    split
    · exact ih _ _
    · split
      · split
        · trivial
        · exact ih _ _
      · split
        · split
          · rename_i after hafter
            exact h _ _ hafter
          · exact hstays _
        · split
          · trivial
          · split
            · rename_i after hafter
              exact h _ _ hafter
            · split
              · trivial
              · exact hstays _

/-! ### Quotes and lists -/

/-- What is read inside a block fits, if its extensions are switched on. -/
def Inside.Fits (o : ParserOptions) (inside : Inside) : Prop :=
  ∀ rules depth ls defs, rules.extensions.AllowedBy o → AllFit o (inside rules depth ls defs).1

theorem beforeLast_fits {b : Block} {bs : List Block} (hb : b.Fits o .block) (h : AllFit o bs) :
    AllFit o (beforeLast b bs) := by
  cases bs with
  | nil => exact List.forall_mem_cons.mpr ⟨hb, h⟩
  | cons last before =>
    obtain ⟨hlast, hbefore⟩ := List.forall_mem_cons.mp h
    exact List.forall_mem_cons.mpr ⟨hlast, List.forall_mem_cons.mpr ⟨hb, hbefore⟩⟩

namespace Setting

variable {s : Setting}

mutual

theorem takeQuote_fits (hs : Inside.Fits o s.inside) : ∀ (fuel : Nat) {r : Reader}, r.Fits o →
    ∀ text ls, (s.takeQuote fuel r text ls).Fits o
  | 0, _, h, _, _ => h
  | fuel + 1, r, h, text, ls => by
    have hquote : ∀ inner defs,
        (Block.quote (s.inside s.quoteRules (s.depth + 1) inner defs).1).Fits o .block :=
      fun inner defs => .quote (hs _ _ inner defs .none)
    have hinterrupt : InterruptFits o fun rest => s.interruptQuote fuel { r with rest := rest } :=
      fun rest after => interruptQuote_fits hs fuel h
    have hending : Ending.Fits o (if isStrictStart (quotedLine (text ++ ['\n'])) then strictQuote ls
        else lazyQuote (fun rest => s.interruptQuote fuel { r with rest := rest }) false ls).2 := by
      split
      · exact strictQuote_fits ls
      · exact lazyQuote_fits hinterrupt false ls
    rw [Setting.takeQuote]
    dsimp only
    split
    · exact List.forall_mem_cons.mpr ⟨hquote _ _, h⟩
    · rename_i after hafter
      rw [hafter] at hending
      exact beforeLast_fits (hquote _ _) hending

theorem interruptQuote_fits (hs : Inside.Fits o s.inside) : ∀ (fuel : Nat) {r r' : Reader},
    r.Fits o → s.interruptQuote fuel r = some r' → r'.Fits o
  | 0, _, _, _, hr => by cases hr
  | fuel + 1, r, r', h, hr => by
    rw [Setting.interruptQuote] at hr
    split at hr
    · cases hr
    · split at hr
      · obtain rfl := Option.some.inj hr
        exact Reader.takeBlank_fits h
      · split at hr
        · obtain rfl := Option.some.inj hr
          exact Reader.add_fits h .rule _
        · split at hr
          · split_ifs at hr
            obtain rfl := Option.some.inj hr
            exact Reader.takeFenced_fits h _ _
          · split at hr
            · obtain rfl := Option.some.inj hr
              exact takeList_fits hs fuel h _ _
            · split_ifs at hr
              obtain ⟨reach, -, hr⟩ := Option.bind_eq_some_iff.mp hr
              exact Reader.takeHtml?_fits h hr

theorem takeList_fits (hs : Inside.Fits o s.inside) : ∀ (fuel : Nat) {r : Reader}, r.Fits o →
    ∀ m ls, (s.takeList fuel r m ls).Fits o
  | 0, _, h, _, _ => h
  | fuel + 1, r, h, m, ls => by
    obtain ⟨hitems, hafter⟩ := takeItems_fits hs fuel (r := { r with rest := ls }) h m
    rw [Setting.takeList]
    dsimp only
    split
    · exact Reader.takeText_fits h
    · intro b hb
      simp only [List.mem_append, List.mem_singleton] at hb
      obtain (hb | rfl) | hb := hb
      · exact hafter b (List.mem_of_mem_take hb)
      · exact .list hitems
      · exact hafter b (List.mem_of_mem_drop hb)

theorem takeItems_fits (hs : Inside.Fits o s.inside) : ∀ (fuel : Nat) {r : Reader}, r.Fits o →
    ∀ m, (∀ b ∈ (s.takeItems fuel r m).1, b.Fits o .item) ∧ (s.takeItems fuel r m).2.1.Fits o
  | 0, _, h, _ => ⟨by simp [Setting.takeItems], h⟩
  | fuel + 1, r, h, m => by
    have hitem : ∀ inner defs, (Block.item none
        (s.inside s.itemRules (s.depth + 1) inner defs).1).Fits o .item :=
      fun inner defs => .item (by simp) (hs _ _ inner defs .none)
    have hinterrupt : ∀ most,
        InterruptFits o fun rest => s.interruptItem fuel most { r with rest := rest } :=
      fun most rest after => interruptItem_fits hs fuel most h
    rw [Setting.takeItems]
    dsimp only
    split
    · rename_i mark rest hnext
      obtain ⟨hitems, hafter⟩ := takeItems_fits hs fuel
        (r := { r with
          rest := rest
          defs := (s.inside s.itemRules (s.depth + 1) _ r.defs).2 }) h mark
      exact ⟨List.forall_mem_cons.mpr ⟨hitem _ _, hitems⟩, hafter⟩
    · exact ⟨by simpa using hitem _ _, h⟩
    · rename_i after hafter
      have hending : ItemEnding.Fits o (.interrupted after) := by
        rw [← hafter]
        exact itemLines_fits (hinterrupt _) _ _ _ _
      exact ⟨by simpa using hitem _ _, hending⟩

theorem interruptItem_fits (hs : Inside.Fits o s.inside) : ∀ (fuel most : Nat) {r r' : Reader},
    r.Fits o → s.interruptItem fuel most r = some r' → r'.Fits o
  | 0, _, _, _, _, hr => by cases hr
  | fuel + 1, most, r, r', h, hr => by
    rw [Setting.interruptItem] at hr
    split at hr
    · cases hr
    · split at hr
      · obtain rfl := Option.some.inj hr
        exact Reader.add_fits h .rule _
      · split at hr
        · split_ifs at hr
          obtain rfl := Option.some.inj hr
          exact Reader.takeFenced_fits h _ _
        · split at hr
          · rename_i hheading
            obtain rfl := Option.some.inj hr
            exact Reader.add_fits h (.heading (signHeading?_level hheading)) _
          · split at hr
            · obtain rfl := Option.some.inj hr
              exact takeQuote_fits hs fuel h _ _
            · split_ifs at hr
              obtain ⟨reach, -, hr⟩ := Option.bind_eq_some_iff.mp hr
              exact Reader.takeHtml?_fits h hr

end

/-! ### Whole outlines -/

variable {r r' : Reader}

theorem takeUnderline?_fits (hs : Inside.Fits o s.inside) (h : r.Fits o) {level : Nat}
    (hlevel : 1 ≤ level) {l : Line} {ls : List Line}
    (hr : s.takeUnderline? r level l ls = some r') : r'.Fits o := by
  unfold takeUnderline? at hr
  split at hr
  · rename_i t before hdone
    obtain rfl := Option.some.inj hr
    have hbefore : AllFit o before := fun b hb => h b (by simp [hdone, hb])
    exact List.forall_mem_cons.mpr ⟨.heading hlevel, hbefore⟩
  · split_ifs at hr
    · obtain rfl := Option.some.inj hr
      exact Reader.add_fits h .rule _
    · obtain ⟨m, -, rfl⟩ := Option.map_eq_some_iff.mp hr
      exact takeList_fits hs _ h _ _

theorem takeTable?_fits (h : r.Fits o) (ho : o.tables.truthy = true)
    (hr : takeTable? r = some r') : r'.Fits o := by
  unfold takeTable? at hr
  split at hr
  · rename_i attempt hattempt
    obtain ⟨⟨t, after⟩, rfl, rfl⟩ := Option.map_eq_some_iff.mp hr
    exact Reader.add_fits h (barredTable?_fits ho hattempt) _
  · split at hr
    · rename_i attempt hattempt
      obtain ⟨⟨t, after⟩, rfl, rfl⟩ := Option.map_eq_some_iff.mp hr
      exact Reader.add_fits h (bareTable?_fits ho hattempt) _
    · cases hr

/-- What a setting reads inside blocks fits, and its extensions are switched on. -/
structure Fits (o : ParserOptions) (s : Setting) : Prop where
  inside : Inside.Fits o s.inside
  extensions : s.rules.extensions.AllowedBy o

theorem takeOther?_fits (hs : s.Fits o) (h : r.Fits o) {l : Line} {ls : List Line}
    (hr : s.takeOther? r l ls = some r') : r'.Fits o := by
  unfold takeOther? at hr
  dsimp only at hr
  split at hr
  · rename_i hmath
    split_ifs at hmath with hon
    obtain rfl := Option.some.inj hr
    exact Reader.add_fits h (.math (hs.extensions.math hon)) _
  · obtain rfl := Option.some.inj hr
    exact takeList_fits hs.inside _ h _ _
  · obtain rfl := Option.some.inj hr
    exact h
  · split at hr
    · exact Reader.takeDefinition?_fits h hr
    · split at hr
      · exact Reader.takeHtml?_fits h hr
      · split_ifs at hr with hblank htables
        · obtain rfl := Option.some.inj hr
          exact Reader.takeBlank_fits h
        · exact takeTable?_fits h (hs.extensions.tables htables) hr

/-- **One step** of reading an outline keeps what has been read fitting. -/
theorem takeBlock?_fits (hs : s.Fits o) (h : r.Fits o) (hr : s.takeBlock? r = some r') :
    r'.Fits o := by
  unfold takeBlock? at hr
  split at hr
  · cases hr
  · split at hr
    · split_ifs at hr
      obtain rfl := Option.some.inj hr
      exact Reader.takeFenced_fits h _ _
    · split at hr
      · obtain rfl := Option.some.inj hr
        split
        · exact Reader.takeText_fits h
        · exact Reader.takeIndented_fits h _ _
      · split at hr
        · rename_i hheading
          obtain rfl := Option.some.inj hr
          exact Reader.add_fits h (.heading (signHeading?_level hheading)) _
        · split at hr
          · rename_i hunderline
            exact takeUnderline?_fits hs.inside h (underline?_level hunderline) hr
          · split at hr
            · obtain rfl := Option.some.inj hr
              exact Reader.add_fits h .rule _
            · dsimp only at hr
              split at hr
              · obtain rfl := Option.some.inj hr
                exact takeQuote_fits hs.inside _ h _ _
              · exact takeOther?_fits hs h hr

/-- **The whole reading** of an outline keeps what has been read fitting. -/
theorem readAll_fits (hs : s.Fits o) : ∀ (fuel : Nat) {r : Reader}, r.Fits o →
    (s.readAll fuel r).Fits o
  | 0, _, h => h
  | fuel + 1, r, h => by
    rw [readAll]
    split
    · exact h
    · refine readAll_fits hs fuel ?_
      cases hstep : s.takeBlock? r with
      | some r' => exact takeBlock?_fits hs h hstep
      | none => exact Reader.takeText_fits h

end Setting

theorem outlineWithin_fits : ∀ fuel : Nat, Inside.Fits o (outlineWithin fuel)
  | 0 => fun _ _ ls _ _ => List.forall_mem_cons.mpr ⟨.paragraph, by simp⟩
  | fuel + 1 => fun rules depth ls defs hrules => by
    have hread := Setting.readAll_fits (o := o) (s := ⟨outlineWithin fuel, rules, depth⟩)
      ⟨outlineWithin_fits fuel, hrules⟩ ls.length (r := ⟨[], ls, defs⟩) (List.forall_mem_nil _)
    intro b hb
    exact hread b (List.mem_reverse.mp hb)

/-- **All blocks of an outline fit**, at every depth. -/
theorem outline_fits {extensions : Extensions} (h : extensions.AllowedBy o) (text : List Char) :
    AllFit o (outline extensions text).1 :=
  outlineWithin_fits _ _ _ _ _ h

/-! ### Tasks -/

theorem takeBox?_fits {children rest : List Block} {ticked : Bool}
    (h : takeBox? children = some (ticked, rest)) (hc : AllFit o children) : AllFit o rest := by
  unfold takeBox? at h
  split at h
  · obtain ⟨-, hrest⟩ := List.forall_mem_cons.mp hc
    obtain ⟨⟨t, after⟩, -, heq⟩ := Option.map_eq_some_iff.mp h
    obtain ⟨-, rfl⟩ := Prod.mk.inj heq
    exact List.forall_mem_cons.mpr ⟨.paragraph, hrest⟩
  · obtain ⟨hheading, hrest⟩ := List.forall_mem_cons.mp hc
    obtain ⟨⟨t, after⟩, -, heq⟩ := Option.map_eq_some_iff.mp h
    obtain ⟨-, rfl⟩ := Prod.mk.inj heq
    cases hheading with
    | heading level_pos => exact List.forall_mem_cons.mpr ⟨.heading level_pos, hrest⟩
  · cases h

mutual

/-- Marking tasks keeps a block in its place. -/
theorem markTasks_fits (ho : o.taskLists.truthy = true) {p : Block.Place} : ∀ {b : Block},
    b.Fits o p → b.markTasks.Fits o p
  | .quote children, h => by
    cases h with
    | quote hc =>
      rw [Block.markTasks]
      exact .quote (markAllTasks_fits ho hc)
  | .list start items, h => by
    cases h with
    | list hi =>
      rw [Block.markTasks]
      exact .list (markAllTasks_fits ho hi)
  | .item task children, h => by
    cases h with
    | item enabled hc =>
      have hinner := markAllTasks_fits ho hc
      rw [Block.markTasks]
      split
      · rename_i hbox
        exact .item (fun _ => ho) (takeBox?_fits hbox hinner)
      · exact .item enabled hinner
  | .blank, h | .heading _ _, h | .paragraph _, h | .code _ _, h | .rule, h | .html _, h
  | .math _, h | .table _ _, h => by
    simpa only [Block.markTasks] using h

theorem markAllTasks_fits (ho : o.taskLists.truthy = true) {p : Block.Place} : ∀ {bs : List Block},
    (∀ b ∈ bs, b.Fits o p) → ∀ b ∈ markAllTasks bs, b.Fits o p
  | [], _ => by simp [markAllTasks]
  | b :: bs, h => by
    obtain ⟨hb, hbs⟩ := List.forall_mem_cons.mp h
    rw [markAllTasks]
    exact List.forall_mem_cons.mpr ⟨markTasks_fits ho hb, markAllTasks_fits ho hbs⟩

end

end Manuscript.Markdown
