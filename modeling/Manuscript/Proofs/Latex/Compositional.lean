import Manuscript.Proofs.Latex.Writing
import Manuscript.Proofs.Tree.Parts

/-!
What rendering means, without a page. `meaning` puts the meanings of a node's parts together with
`assemble?`, the way of the node's kind; a node without parts has a text of its own, `leafText`.
With a text as block separator the renderer, which writes to one page and swaps outputs in nested
captures, computes just that (`render_compositional`).

The invariant is `visit_writes`: rendering any node only adds to the page, and adds what the node
comes to alone.
-/

namespace Manuscript.Latex

open Writing

variable {o : RendererOptions} {sep : String}

/-! ### The meaning of a tree -/

/-- How a node of a kind with parts puts their texts together. -/
def assemble? (sep : String) : Node → Option (List String → String)
  | .document .. => some sep.intercalate
  | .paragraph .. | .listItem .. => some String.join
  | .heading level .. => some fun texts =>
    command (if level = 1 then "section" else "subsection") (String.join texts)
  | .link url .. => some fun texts => command "href" url ++ "\x7b" ++ String.join texts ++ "\x7d"
  | .list ordered .. => some fun texts =>
    let environment := if ordered then "enumerate" else "itemize"
    command "begin" environment ++ String.join (texts.map fun s => command "item" s ++ "\n")
      ++ command "end" environment
  | _ => none

/-- What a node without parts comes to. -/
def leafText (o : RendererOptions) : Node → Run String
  | .codeBlock content language directive _ => codeBlock language content directive
  | .mathBlock content _ => pure ("\\[ " ++ content ++ " \\]")
  | .htmlBlock content _ => ⟨.ok "", [.debug .renderer ("Dropping HTML block: "
      ++ String.ofList (content.toList.take 50))]⟩
  | .text content _ => pure (plainText o content)
  | .image url altText _ _ => image o url altText
  | .code content _ => .ofOutcome (verb content)
  | .mathInline content _ => pure ("$" ++ content ++ "$")
  | .htmlInline _ _ => pure ""
  | n => Run.fault (.unknownNodeType n.typeName)

/-- What a tree comes to: its parts from left to right, put together. -/
def meaning (o : RendererOptions) (sep : String) (n : Node) : Run String :=
  match assemble? sep n with
  | some put => put <$> n.parts.attach.mapM fun c => meaning o sep c.1
  | none => leafText o n
termination_by sizeOf n
decreasing_by exact Node.sizeOf_lt_of_mem_parts c.2

theorem meaning_of_some {n : Node} {put : List String → String} (h : assemble? sep n = some put) :
    meaning o sep n = put <$> n.parts.mapM (meaning o sep) := by
  rw [meaning]
  simp only [h]
  rw [List.mapM_subtype (g := meaning o sep) fun _ _ => rfl, List.unattach_attach]

theorem meaning_of_none {n : Node} (h : assemble? sep n = none) :
    meaning o sep n = leafText o n := by
  rw [meaning]
  simp only [h]

/-! ### What the renderer writes for each kind -/

theorem visitChild_of_isNode {n : Node} (h : n.isNode = true) : visitChild o n = visit o n := by
  cases n with
  | foreign v => cases h
  | _ => simp only [visitChild]

theorem render_eq_alone (n : Node) : render o n = alone (visitChild o n) := by
  simp only [render, Renderer.render, alone]
  cases (do visitChild o n; gather : Writing String) ⟨[], []⟩ <;> rfl

theorem render_of_isNode {n : Node} (h : n.isNode = true) : render o n = alone (visit o n) := by
  rw [render_eq_alone, visitChild_of_isNode h]

/-- The step between two blocks. -/
def separate (o : RendererOptions) : Writing Unit :=
  if o.blockSeparator.truthy then emit o.blockSeparator else pure ()

theorem separate_writes (hs : o.blockSeparator = .str sep) : Writes (separate o) (pure sep) := by
  unfold separate
  rw [hs]
  by_cases h : sep = ""
  · subst h
    exact Writes.nothing
  · have ht : (Value.str sep).truthy = true := by simp [Value.truthy, h]
    rw [if_pos ht]
    exact Writes.piece sep

theorem visitBlocks_first (c : Node) (cs : List Node) :
    visitBlocks o true (c :: cs) = visitChild o c >>= fun _ => visitBlocks o false cs := by
  rw [visitBlocks]
  rfl

theorem visitBlocks_later (c : Node) (cs : List Node) : visitBlocks o false (c :: cs) =
    (separate o >>= fun _ => visitChild o c) >>= fun _ => visitBlocks o false cs := by
  rw [visitBlocks, bind_assoc]
  unfold separate
  cases o.blockSeparator.truthy <;> rfl

theorem intercalate_cons (sep s : String) (texts : List String) :
    sep.intercalate (s :: texts) = s ++ String.join (texts.map (sep ++ ·)) := by
  induction texts generalizing s with
  | nil => simp [String.join_nil]
  | cons t texts ih =>
    rw [String.intercalate_cons_cons, ih, List.map_cons, String.join_cons]
    simp only [String.append_assoc]

section Loops

variable {f : Node → Run String} {cs : List Node}

theorem visitChildren_writes (h : ∀ c ∈ cs, Writes (visitChild o c) (f c)) :
    Writes (visitChildren o cs) (String.join <$> cs.mapM f) :=
  Writes.each (by rw [visitChildren]) (fun _ _ => by rw [visitChildren]) h

theorem visitInline_writes (h : ∀ c ∈ cs, Writes (visit o c) (f c)) :
    Writes (visitInline o cs) (String.join <$> cs.mapM f) :=
  Writes.each (by rw [visitInline]) (fun _ _ => by rw [visitInline]) h

theorem visitItems_writes (h : ∀ c ∈ cs, Writes (visit o c) (f c)) :
    Writes (visitItems o cs)
      (String.join <$> cs.mapM fun c => (fun s => command "item" s ++ "\n") <$> f c) := by
  refine Writes.each
    (f := fun c => do let s ← capture (visit o c); emitText (command "item" s ++ "\n"))
    (by rw [visitItems]) (fun c ns => ?_) fun c hc => (h c hc).captured _
  rw [visitItems, bind_assoc]

theorem visitBlocks_writes (hs : o.blockSeparator = .str sep)
    (h : ∀ c ∈ cs, Writes (visitChild o c) (f c)) :
    Writes (visitBlocks o true cs) (sep.intercalate <$> cs.mapM f) := by
  -- after the first block, a separator stands before each one
  have later : ∀ ds : List Node, (∀ c ∈ ds, Writes (visitChild o c) (f c)) →
      Writes (visitBlocks o false ds) (String.join <$> ds.mapM fun c => (sep ++ ·) <$> f c) := by
    intro ds hds
    refine Writes.each (by rw [visitBlocks]) visitBlocks_later fun c hc => ?_
    have hsep := (separate_writes hs).seq (hds c hc)
    rwa [pure_bind, ← map_eq_pure_bind] at hsep
  cases cs with
  | nil =>
    rw [visitBlocks]
    exact Writes.nothing
  | cons c cs =>
    have hc := h c (by simp)
    have hcs := later cs fun d hd => h d (by simp [hd])
    rw [visitBlocks_first]
    convert hc.seq hcs using 1
    rw [Run.mapM_map_comp]
    simp only [List.mapM_cons, map_bind, map_pure, bind_map_left, intercalate_cons]

end Loops

/-! ### The renderer computes the meaning -/

theorem leaf_writes {n : Node} (hn : n.isNode = true) (hl : assemble? sep n = none) :
    Writes (visit o n) (leafText o n) := by
  cases n with
  | document | paragraph | heading | list | listItem | link => simp [assemble?] at hl
  | foreign v => cases hn
  | codeBlock content language d m =>
    rw [visit]
    exact Writes.ofRun _
  | image url alt t m =>
    rw [visit]
    exact Writes.ofRun _
  | code content m =>
    rw [visit]
    exact Writes.ofRun _
  | mathBlock content m | text content m | mathInline content m =>
    rw [visit]
    exact Writes.text _
  | htmlBlock content m =>
    rw [visit]
    exact Writes.record _
  | htmlInline content m =>
    rw [visit]
    exact Writes.nothing
  | _ =>
    simp only [visit]
    exact Writes.failure _

theorem visitChild_writes {n : Node} (h : Writes (visit o n) (alone (visit o n))) :
    Writes (visitChild o n) (render o n) := by
  rw [render_eq_alone]
  cases n with
  | foreign v =>
    rw [visitChild]
    exact (Writes.failure _).self
  | _ => simpa only [visitChild] using h

/-- Once the parts of a node write what they come to alone, the node writes their texts put
together. Not all kinds check their parts, so what a part comes to is only said of nodes. -/
theorem assembled_writes (hs : o.blockSeparator = .str sep) {n : Node}
    {put : List String → String} (hp : assemble? sep n = some put)
    (h : ∀ c ∈ n.parts, Writes (visit o c) (alone (visit o c))) :
    ∃ f : Node → Run String, (∀ c : Node, c.isNode = true → f c = render o c) ∧
      Writes (visit o n) (put <$> n.parts.mapM f) := by
  have checked : ∀ c ∈ n.parts, Writes (visitChild o c) (render o c) := fun c hc =>
    visitChild_writes (h c hc)
  have inside : ∀ c : Node, c.isNode = true → alone (visit o c) = render o c := fun c hc =>
    (render_of_isNode hc).symm
  cases n with
  | document cs m =>
    obtain rfl := Option.some.inj hp
    refine ⟨render o, fun _ _ => rfl, ?_⟩
    rw [visit]
    exact visitBlocks_writes hs checked
  | paragraph cs m =>
    obtain rfl := Option.some.inj hp
    refine ⟨render o, fun _ _ => rfl, ?_⟩
    rw [visit]
    exact visitChildren_writes checked
  | listItem cs t m =>
    obtain rfl := Option.some.inj hp
    refine ⟨render o, fun _ _ => rfl, ?_⟩
    rw [visit]
    exact visitChildren_writes checked
  | heading level cs m =>
    obtain rfl := Option.some.inj hp
    refine ⟨fun c => alone (visit o c), inside, ?_⟩
    rw [visit]
    have hw := (visitInline_writes h).captured
      (command (if level = 1 then "section" else "subsection"))
    rwa [Functor.map_map] at hw
  | link url cs t m =>
    obtain rfl := Option.some.inj hp
    refine ⟨fun c => alone (visit o c), inside, ?_⟩
    rw [visit]
    have hw := (visitInline_writes h).captured fun s => command "href" url ++ "\x7b" ++ s ++ "\x7d"
    rwa [Functor.map_map] at hw
  | list ordered items s t m =>
    obtain rfl := Option.some.inj hp
    refine ⟨fun c => alone (visit o c), inside, ?_⟩
    rw [visit]
    have hw := (Writes.text (command "begin" (if ordered then "enumerate" else "itemize"))).seq
      ((visitItems_writes h).seq
        (Writes.text (command "end" (if ordered then "enumerate" else "itemize"))))
    rw [Run.mapM_map_comp] at hw
    simp only [Functor.map_map, pure_bind, bind_pure_comp, map_pure, ← String.append_assoc] at hw
    exact hw
  | _ => simp [assemble?] at hp

/-- **The invariant of the page.** Rendering a node only adds to the page, and adds what the node
comes to alone. -/
theorem visit_writes (hs : o.blockSeparator = .str sep) (n : Node) :
    Writes (visit o n) (alone (visit o n)) := by
  induction n using Node.parts_induction with
  | step n ih =>
    cases hp : assemble? sep n with
    | some put =>
      obtain ⟨f, -, hw⟩ := assembled_writes hs hp ih
      exact hw.self
    | none =>
      by_cases hn : n.isNode = true
      · exact (leaf_writes hn hp).self
      · cases n with
        | foreign v =>
          rw [visit]
          exact (Writes.failure _).self
        | _ => exact absurd rfl hn

theorem mapM_congr {f g : Node → Run String} : ∀ {cs : List Node}, (∀ c ∈ cs, f c = g c) →
    cs.mapM f = cs.mapM g
  | [], _ => rfl
  | c :: cs, h => by
    rw [List.mapM_cons, List.mapM_cons, h c (by simp), mapM_congr fun d hd => h d (by simp [hd])]

/-- A node whose parts are nodes comes to the separate renderings of its parts, put together. -/
theorem render_assembled (hs : o.blockSeparator = .str sep) {n : Node}
    {put : List String → String} (hp : assemble? sep n = some put)
    (hn : ∀ c ∈ n.parts, c.isNode = true) : render o n = put <$> n.parts.mapM (render o) := by
  obtain ⟨f, hf, hw⟩ := assembled_writes hs hp fun c _ => visit_writes hs c
  have hnode : n.isNode = true := by
    cases n with
    | foreign v => simp [assemble?] at hp
    | _ => rfl
  rw [render_of_isNode hnode, hw.alone_eq, mapM_congr fun c hc => hf c (hn c hc)]

theorem render_leaf {n : Node} (hl : assemble? sep n = none) : render o n = leafText o n := by
  by_cases hn : n.isNode = true
  · rw [render_of_isNode hn, (leaf_writes hn hl).alone_eq]
  · cases n with
    | foreign v =>
      rw [render_eq_alone, visitChild]
      exact (Writes.failure _).alone_eq
    | _ => exact absurd rfl hn

theorem render_eq_meaning (hs : o.blockSeparator = .str sep) (n : Node) (hn : n.AllNodes) :
    render o n = meaning o sep n := by
  induction n using Node.parts_induction with
  | step n ih =>
    have hparts := (Node.allNodes_iff.mp hn).2
    cases hp : assemble? sep n with
    | none => rw [render_leaf hp, meaning_of_none hp]
    | some put =>
      have hnodes : ∀ c ∈ n.parts, c.isNode = true := fun c hc =>
        (Node.allNodes_iff.mp (hparts c hc)).1
      rw [render_assembled hs hp hnodes, meaning_of_some hp,
        mapM_congr fun c hc => ih c hc (hparts c hc)]

/-- **Rendering is compositional.** On a tree of nodes the renderer computes the meaning of the
tree. So a node with parts comes to the separate renderings of its parts, put together the way of
its kind; and it fails iff one of them does, with what the first failing part says when rendered
alone. -/
theorem render_compositional (hs : o.blockSeparator = .str sep) {n : Node} (hn : n.AllNodes) :
    render o n = meaning o sep n ∧
    ∀ put, assemble? sep n = some put →
      render o n = put <$> n.parts.mapM (render o) ∧
      ∀ e, (render o n).outcome = .error e ↔ ∃ before c after, n.parts = before ++ c :: after ∧
        (∀ b ∈ before, ∃ s, (render o b).outcome = .ok s) ∧ (render o c).outcome = .error e := by
  refine ⟨render_eq_meaning hs n hn, fun put hp => ?_⟩
  have hnodes : ∀ c ∈ n.parts, c.isNode = true := fun c hc =>
    (Node.allNodes_iff.mp ((Node.allNodes_iff.mp hn).2 c hc)).1
  have heq := render_assembled hs hp hnodes
  refine ⟨heq, fun e => ?_⟩
  rw [← Run.mapM_error_iff, heq, Run.outcome_map]
  cases (n.parts.mapM (render o)).outcome <;> simp [Except.map]

/-- A heading and a paragraph with a link, a line feed between them. -/
theorem render_heading_and_link :
    let o : RendererOptions := { blockSeparator := .str "\n" }
    let n : Node := .document [.heading 1 [.text "A" []] [],
      .paragraph [.link "u" [.text "b" [], .code "c" []] none []] []] []
    n.AllNodes ∧ render o n = meaning o "\n" n ∧ (render o n).outcome =
      .ok "\\section\x7bA\x7d\n\\href\x7bu\x7d\x7bb\\verb|c|\x7d" := by
  intro o n
  have hn : n.AllNodes := (Node.allNodes?_iff n).mp (by cbv)
  have h := (@render_compositional o "\n" rfl n hn).1
  refine ⟨hn, h, ?_⟩
  have hA : meaning o "\n" (.text "A" []) = pure "A" := meaning_of_none rfl
  have hb : meaning o "\n" (.text "b" []) = pure "b" := meaning_of_none rfl
  have hc : meaning o "\n" (.code "c" []) = pure "\\verb|c|" := meaning_of_none rfl
  have hheading := @meaning_of_some o "\n" (.heading 1 [.text "A" []] []) _ rfl
  have hlink := @meaning_of_some o "\n" (.link "u" [.text "b" [], .code "c" []] none []) _ rfl
  have hparagraph := @meaning_of_some o "\n"
    (.paragraph [.link "u" [.text "b" [], .code "c" []] none []] []) _ rfl
  simp only [Node.parts, List.mapM_cons, List.mapM_nil, hA, pure_bind, map_pure] at hheading
  simp only [Node.parts, List.mapM_cons, List.mapM_nil, hb, hc, pure_bind, map_pure] at hlink
  simp only [Node.parts, List.mapM_cons, List.mapM_nil, hlink, pure_bind, map_pure] at hparagraph
  rw [h, @meaning_of_some o "\n" n _ rfl]
  simp only [n, Node.parts, List.mapM_cons, List.mapM_nil, hheading, hparagraph, pure_bind,
    map_pure]
  rfl

end Manuscript.Latex
