import Manuscript.Proofs.Latex.FirstFailure
import Mathlib.Tactic.ByContra
import Mathlib.Tactic.SplitIfs

/-!
# Values in the place of nodes

A value that is no node is meant to be refused by the name of its type, wherever rendering meets
it, unless a node before it has a rendering fault of its own. The places that are looked at do so:

* `unknownNodeType_of_ailment?`: an unknown kind is named by a node without a rule, or by a value
  that is no node;
* `refusesForeign_iff`: a tree with such a value is refused as meant, unless the first wrong place
  holds one and is not looked at, or pieces that are not all texts are put together before.
-/

namespace Manuscript.Latex

open Node

variable {o : RendererOptions}

/-! ### What is wrong with a node -/

theorem ailment?_isRenderingFault {s : Spot} {e : Failure} (hn : s.node.isNode = true)
    (h : ailment? o s = some e) : IsRenderingFault e := by
  obtain ⟨n, checked⟩ := s
  cases hp : assemble? "" n with
  | some put =>
    rw [ailment?_of_assemble? hp] at h
    cases h
  | none =>
    rw [ailment?_leaf hn hp, Run.failure?_eq_some_iff] at h
    exact (leafText_textIff hp).2 e h

/-- The kinds of nodes that have no rule. -/
def lacksRule : Node → Bool
  | .frontMatter .. | .blockQuote .. | .thematicBreak .. | .table .. | .tableRow .. | .tableCell ..
  | .footnoteDefinition .. | .emphasis .. | .strong .. | .strikethrough .. | .lineBreak ..
  | .footnoteReference .. => true
  | _ => false

/-- An unknown kind is the kind of what stands at the place: a node without a rule, or no node. -/
theorem unknownNodeType_of_ailment? {s : Spot} {name : String}
    (h : ailment? o s = some (.fault (.unknownNodeType name))) :
    name = s.node.typeName ∧ (lacksRule s.node = true ∨ s.node.isNode = false) := by
  obtain ⟨n, checked⟩ := s
  cases n with
  | foreign v =>
    cases checked with
    | true =>
      obtain rfl : v.typeName = name := by simpa [ailment?] using h
      exact ⟨rfl, .inr rfl⟩
    | false => simp [ailment?] at h
  | document | paragraph | heading | list | listItem | link => cases h
  | text | mathBlock | mathInline | htmlBlock | htmlInline => cases h
  | codeBlock content language d m =>
    have hr : (codeBlock language content d).outcome = .error (.fault (.unknownNodeType name)) :=
      Run.failure?_eq_some_iff.mp h
    simp only [codeBlock] at hr
    split_ifs at hr <;> cases hr
  | image url alt t m =>
    have hr : (image o url alt).outcome = .error (.fault (.unknownNodeType name)) :=
      Run.failure?_eq_some_iff.mp h
    simp only [image] at hr
    split_ifs at hr
    · cases hr
    · cases hr
    · cases hmode : o.imageMode <;> rw [hmode] at hr <;> cases hr
  | code content m =>
    have hr : verb content = .error (.fault (.unknownNodeType name)) :=
      Run.failure?_eq_some_iff.mp h
    simp only [verb] at hr
    split at hr <;> cases hr
  | _ =>
    obtain rfl : _ = name := by
      simpa [ailment?, leafText, Run.fault, Run.fail, Run.failure?] using h
    exact ⟨rfl, .inl rfl⟩

/-! ### Values in the place of nodes -/

/-- The first place of a tree where something is wrong. -/
def firstWrong? (o : RendererOptions) (n : Node) : Option Spot :=
  (walk true n).find? fun s => (ailment? o s).isSome

theorem firstAilment?_eq_bind (places : List Spot) : firstAilment? o places =
    (places.find? fun s => (ailment? o s).isSome).bind (ailment? o) := by
  unfold firstAilment?
  induction places with
  | nil => rfl
  | cons s places ih =>
    rw [findSome?_cons_or, List.find?_cons, ih]
    cases hs : ailment? o s <;> simp [hs]

/-- **A value in the place of a node is refused as meant**: the rendering fails with the unknown
kind of the first one in the tree, or with the rendering fault of a node that stands before it. -/
def RefusesForeign (o : RendererOptions) (n : Node) : Prop :=
  ∃ before v checked after, walk true n = before ++ ⟨.foreign v, checked⟩ :: after ∧
    (∀ s ∈ before, s.node.isNode = true) ∧
    ((render o n).outcome = .error (.fault (.unknownNodeType v.typeName)) ∨
      ∃ s ∈ before, ∃ e, ailment? o s = some e ∧ IsRenderingFault e ∧
        (render o n).outcome = .error e)

theorem exists_foreign_of_not_isNode {n : Node} (h : n.isNode ≠ true) : ∃ v, n = .foreign v := by
  cases n with
  | foreign v => exact ⟨v, rfl⟩
  | _ => exact absurd rfl h

/-- A list of places that holds a value in the place of a node has a first such place. -/
theorem exists_first_foreign {places : List Spot} (h : ∃ s ∈ places, s.node.isNode ≠ true) :
    ∃ before v checked after, places = before ++ ⟨.foreign v, checked⟩ :: after ∧
      ∀ s ∈ before, s.node.isNode = true := by
  obtain ⟨s, hs, hforeign⟩ := h
  cases hfirst : places.find? fun s => !s.node.isNode with
  | none => exact absurd (by simpa using List.find?_eq_none.mp hfirst s hs) hforeign
  | some t =>
    obtain ⟨ht, before, after, rfl, hbefore⟩ := List.find?_eq_some_iff_append.mp hfirst
    obtain ⟨n, checked⟩ := t
    obtain ⟨v, rfl⟩ := exists_foreign_of_not_isNode (n := n) (by simpa using ht)
    exact ⟨before, v, checked, after, rfl, fun s hs => by simpa using hbefore s hs⟩

/-- A value in the place of a node is always something wrong. -/
theorem isSome_ailment?_of_not_isNode {s : Spot} (h : s.node.isNode ≠ true) :
    (ailment? o s).isSome = true := by
  obtain ⟨n, checked⟩ := s
  obtain ⟨v, rfl⟩ := exists_foreign_of_not_isNode h
  rfl

theorem exists_not_isNode_of_not_allNodes {n : Node} (h : ¬ n.AllNodes) :
    ∃ s ∈ walk true n, s.node.isNode ≠ true := by
  obtain ⟨m, hm⟩ := not_forall.mp h
  obtain ⟨hreach, hm⟩ := Classical.not_imp.mp hm
  obtain ⟨s, hs, rfl⟩ := hreach.exists_mem_walk true
  exact ⟨s, hs, hm⟩

theorem exists_firstWrong? {n : Node} (h : ¬ n.AllNodes) : ∃ s, firstWrong? o n = some s := by
  obtain ⟨s, hs, hforeign⟩ := exists_not_isNode_of_not_allNodes h
  rw [← Option.isSome_iff_exists]
  exact List.find?_isSome.mpr ⟨s, hs, isSome_ailment?_of_not_isNode hforeign⟩

/-- Up to the first wrong place there are only nodes. -/
theorem nodes_before_firstWrong? {n : Node} {s : Spot} (h : firstWrong? o n = some s) :
    ∃ before after, walk true n = before ++ s :: after ∧ ∀ t ∈ before, t.node.isNode = true := by
  obtain ⟨-, before, after, hwalk, hbefore⟩ := List.find?_eq_some_iff_append.mp h
  refine ⟨before, after, hwalk, fun t ht => ?_⟩
  by_contra hnode
  simpa [isSome_ailment?_of_not_isNode hnode] using hbefore t ht

theorem not_allNodes_of_firstWrong? {n : Node} {v : Value} {checked : Bool}
    (h : firstWrong? o n = some ⟨.foreign v, checked⟩) : ¬ n.AllNodes := by
  intro hall
  have hreach := reaches_of_mem_walk (List.mem_of_find?_eq_some h)
  cases hall _ hreach

/-- Rendering fails with what is wrong at the first wrong place, if it can put its pieces
together. -/
theorem render_of_firstWrong? {n : Node} {s : Spot} (h : firstWrong? o n = some s) :
    ∃ e, ailment? o s = some e ∧ ((render o n).outcome = .error e ∨
      (render o n).outcome = .error (.breakdown .wrongType) ∧ ¬ TextSeparator o) := by
  obtain ⟨e, he⟩ := Option.isSome_iff_exists.mp (List.find?_eq_some_iff_append.mp h).1
  have hfirst : firstAilment? o (walk true n) = some e := by
    rw [firstAilment?_eq_bind]
    show (firstWrong? o n).bind (ailment? o) = some e
    rw [h, Option.bind_some, he]
  obtain ⟨hok, herror⟩ := @render_reports o n
  refine ⟨e, he, ?_⟩
  cases hr : (render o n).outcome with
  | ok s => cases hfirst.symm.trans (hok ⟨s, hr⟩)
  | error e' =>
    rcases herror e' hr with hsame | ⟨rfl, hno⟩
    · exact .inl (by rw [Option.some.inj (hfirst.symm.trans hsame)])
    · exact .inr ⟨rfl, hno⟩

theorem RefusesForeign.error {n : Node} (h : RefusesForeign o n) :
    ∃ f, (render o n).outcome = .error (.fault f) := by
  obtain ⟨_, v, _, _, _, _, hr | ⟨_, _, e, _, ⟨f, rfl, _⟩, hr⟩⟩ := h
  · exact ⟨_, hr⟩
  · exact ⟨f, hr⟩

theorem not_refusesForeign_of_unchecked {n : Node} {v : Value}
    (h : firstWrong? o n = some ⟨.foreign v, false⟩) : ¬ RefusesForeign o n := by
  intro hmeant
  obtain ⟨f, hf⟩ := hmeant.error
  obtain ⟨e, he, hrender | ⟨hrender, -⟩⟩ := render_of_firstWrong? h
  · obtain rfl : .breakdown .missingAttribute = e := by simpa [ailment?] using he
    cases hf.symm.trans hrender
  · cases hf.symm.trans hrender

theorem refusesForeign_of_checked {n : Node} {v : Value}
    (h : firstWrong? o n = some ⟨.foreign v, true⟩)
    (hrender : (render o n).outcome = .error (.fault (.unknownNodeType v.typeName))) :
    RefusesForeign o n := by
  obtain ⟨before, after, hwalk, hbefore⟩ := nodes_before_firstWrong? h
  exact ⟨before, v, true, after, hwalk, hbefore, .inl hrender⟩

/-- A node is at fault, and the first value in the place of a node comes later. -/
theorem refusesForeign_of_isNode {n : Node} (hn : ¬ n.AllNodes) {s : Spot} {e : Failure}
    (h : firstWrong? o n = some s) (hnode : s.node.isNode = true) (he : ailment? o s = some e)
    (hrender : (render o n).outcome = .error e) : RefusesForeign o n := by
  obtain ⟨before, after, hwalk, hbefore⟩ := nodes_before_firstWrong? h
  have hlater : ∃ t ∈ after, t.node.isNode ≠ true := by
    obtain ⟨t, ht, hnot⟩ := exists_not_isNode_of_not_allNodes hn
    rw [hwalk] at ht
    rcases List.mem_append.mp ht with ht | ht
    · exact absurd (hbefore t ht) hnot
    rcases List.mem_cons.mp ht with rfl | ht
    · exact absurd hnode hnot
    · exact ⟨t, ht, hnot⟩
  obtain ⟨between, v, checked, rest, rfl, hbetween⟩ := exists_first_foreign hlater
  refine ⟨before ++ s :: between, v, checked, rest, by simpa using hwalk, fun t ht => ?_,
    .inr ⟨s, by simp, e, he, ailment?_isRenderingFault hnode he, hrender⟩⟩
  rcases List.mem_append.mp ht with ht | ht
  · exact hbefore t ht
  rcases List.mem_cons.mp ht with rfl | ht
  · exact hnode
  · exact hbetween t ht

/-- **Where values in the place of nodes are refused as meant.** A tree that holds one fails to
render with what is wrong at the first wrong place, unless a separator that is no text keeps the
pieces from being put together before that. It is refused as meant iff this does not happen and
the first wrong place does not hold such a value unlooked at, as the contents of headings and
links and the items of lists are. -/
theorem refusesForeign_iff {n : Node} (hn : ¬ n.AllNodes) :
    (RefusesForeign o n ↔ (∀ v, firstWrong? o n ≠ some ⟨.foreign v, false⟩) ∧
      (render o n).outcome ≠ .error (.breakdown .wrongType)) ∧
    ∃ s e, firstWrong? o n = some s ∧ ailment? o s = some e ∧ ((render o n).outcome = .error e ∨
      (render o n).outcome = .error (.breakdown .wrongType) ∧ ¬ TextSeparator o) := by
  obtain ⟨s, hfirst⟩ := @exists_firstWrong? o n hn
  obtain ⟨e, he, hrender⟩ := render_of_firstWrong? hfirst
  refine ⟨⟨fun hmeant => ⟨fun v hv => not_refusesForeign_of_unchecked hv hmeant, fun hwrong => ?_⟩,
    fun ⟨hchecked, hwrong⟩ => ?_⟩, s, e, hfirst, he, hrender⟩
  · obtain ⟨f, hf⟩ := hmeant.error
    cases hf.symm.trans hwrong
  · replace hrender := hrender.resolve_right fun h => hwrong h.1
    by_cases hnode : s.node.isNode = true
    · exact refusesForeign_of_isNode hn hfirst hnode he hrender
    · obtain ⟨m, checked⟩ := s
      obtain ⟨v, rfl⟩ := exists_foreign_of_not_isNode hnode
      cases checked with
      | false => exact absurd hfirst (hchecked v)
      | true =>
        obtain rfl : .fault (.unknownNodeType v.typeName) = e := by simpa [ailment?] using he
        exact refusesForeign_of_checked hfirst hrender

/-- A strong element in a heading comes before the text that stands in place of a node in the
paragraph. -/
theorem refusesForeign_strong_first :
    let n : Node :=
      .document [.heading 1 [.strong [] []] [], .paragraph [.foreign (.str "x")] []] []
    ¬ n.AllNodes ∧ RefusesForeign {} n ∧
      (render {} n).outcome = .error (.fault (.unknownNodeType "Strong")) := by
  intro n
  have hn : ¬ n.AllNodes := by
    rw [← Node.allNodes?_iff]
    cbv
    simp
  have hfirst : firstWrong? {} n = some ⟨.strong [] [], false⟩ := by
    simp [firstWrong?, n, walk_eq, parts, checksParts, ailment?, leafText, Run.fault, Run.fail,
      Run.failure?]
  obtain ⟨hiff, s, e, hs, he, hr | ⟨-, hno⟩⟩ := @refusesForeign_iff {} n hn
  · obtain rfl := Option.some.inj (hfirst.symm.trans hs)
    obtain rfl : .fault (.unknownNodeType "Strong") = e := Option.some.inj he
    refine ⟨hn, hiff.mpr ⟨fun v hv => ?_, fun hwrong => ?_⟩, hr⟩
    · cases hfirst.symm.trans hv
    · cases hr.symm.trans hwrong
  · exact absurd ⟨"", rfl⟩ hno

/-- A text in the place of a node in a heading, in a link or among the items of a list is not
refused as meant. -/
theorem not_refusesForeign_text :
    let heading : Node := .heading 1 [.foreign (.str "x")] []
    let link : Node := .paragraph [.link "u" [.foreign (.str "x")] none []] []
    let list : Node := .list false [.foreign (.str "x")] 1 true []
    (¬ heading.AllNodes ∧ ¬ RefusesForeign {} heading) ∧
      (¬ link.AllNodes ∧ ¬ RefusesForeign {} link) ∧
      (¬ list.AllNodes ∧ ¬ RefusesForeign {} list) := by
  intro heading link list
  have hheading : firstWrong? {} heading = some ⟨.foreign (.str "x"), false⟩ := by
    simp [firstWrong?, heading, walk_eq, parts, checksParts, ailment?]
  have hlink : firstWrong? {} link = some ⟨.foreign (.str "x"), false⟩ := by
    simp [firstWrong?, link, walk_eq, parts, checksParts, ailment?]
  have hlist : firstWrong? {} list = some ⟨.foreign (.str "x"), false⟩ := by
    simp [firstWrong?, list, walk_eq, parts, checksParts, ailment?]
  exact ⟨⟨not_allNodes_of_firstWrong? hheading, not_refusesForeign_of_unchecked hheading⟩,
    ⟨not_allNodes_of_firstWrong? hlink, not_refusesForeign_of_unchecked hlink⟩,
    ⟨not_allNodes_of_firstWrong? hlist, not_refusesForeign_of_unchecked hlist⟩⟩

end Manuscript.Latex
