import Manuscript.Latex.Directive
import Mathlib.Data.List.TakeWhile

/-!
# Delimiters of LaTeX text

A text is read from left to right (`delimiters`): a backslash takes the letters after it, or one
character that is none, so that an escaped brace does not count; what is left are braces, and the
beginnings and ends of environments. Their word is `Nested` when it is put together of groups and
environments.

Texts that are put side by side can run into each other: letters go on a control word, a brace
makes a control word the beginning of an environment. A text is `WellNested` when its delimiters
are nested and it is read alike whatever follows. Such texts are closed under all that is done with
them here: `WellNested.append`, `WellNested.group`, `WellNested.word` and
`WellNested.environment`.
-/

namespace Manuscript.Latex

/-! ### Reading -/

/-- What opens or closes a part of a text. -/
inductive Delimiter where
  | opening
  | closing
  | begins (environment : List Char)
  | ends (environment : List Char)
  deriving DecidableEq

/-- The backslash and the braces. -/
def isActive (c : Char) : Bool := c == '\\' || c == '\x7b' || c == '\x7d'

/-- The environment that a control word begins or ends by its name in braces, and the text after
it. -/
def environment? (word text : List Char) : Option (Delimiter × List Char) :=
  match text with
  | '\x7b' :: more =>
    let name := more.takeWhile fun c => !isActive c
    match more.drop name.length with
    | '\x7d' :: after =>
      if word = "begin".toList then some (.begins name, after)
      else if word = "end".toList then some (.ends name, after)
      else none
    | _ => none
  | _ => none

theorem length_of_environment? {word text after : List Char} {d : Delimiter}
    (h : environment? word text = some (d, after)) : after.length < text.length := by
  unfold environment? at h
  split at h
  · rename_i more
    dsimp only at h
    split at h
    · rename_i rest hrest
      have hlen := congrArg List.length hrest
      rw [List.length_drop, List.length_cons] at hlen
      have hafter : rest = after := by
        split_ifs at h <;> simp_all
      rw [← hafter, List.length_cons]
      omega
    · cases h
  · cases h

/-- The delimiters of a text. A backslash belongs to the letters after it, or else to the one
character after it. -/
def delimiters (text : List Char) : List Delimiter :=
  match text with
  | [] => []
  | c :: rest =>
    if c = '\\' then
      let word := rest.takeWhile Char.isAlpha
      if word.isEmpty then delimiters (rest.drop 1)
      else match _h : environment? word (rest.drop word.length) with
        | some (d, after) => d :: delimiters after
        | none => delimiters (rest.drop word.length)
    else if c = '\x7b' then .opening :: delimiters rest
    else if c = '\x7d' then .closing :: delimiters rest
    else delimiters rest
termination_by text.length
decreasing_by
  · simp only [List.length_drop, List.length_cons]
    omega
  · have hlen := length_of_environment? _h
    simp only [List.length_drop, List.length_cons] at hlen ⊢
    omega
  · simp only [List.length_drop, List.length_cons]
    omega
  all_goals simp

@[simp] theorem delimiters_nil : delimiters [] = [] := by rw [delimiters]

@[simp] theorem delimiters_opening (t : List Char) :
    delimiters ('\x7b' :: t) = .opening :: delimiters t := by
  rw [delimiters, if_neg (by decide), if_pos rfl]

@[simp] theorem delimiters_closing (t : List Char) :
    delimiters ('\x7d' :: t) = .closing :: delimiters t := by
  rw [delimiters, if_neg (by decide), if_neg (by decide), if_pos rfl]

theorem delimiters_of_not_isActive {c : Char} (h : isActive c = false) (t : List Char) :
    delimiters (c :: t) = delimiters t := by
  simp only [isActive, Bool.or_eq_false_iff, beq_eq_false_iff_ne] at h
  rw [delimiters, if_neg h.1.1, if_neg h.1.2, if_neg h.2]

/-- A backslash and a character that is no letter are one symbol. -/
theorem delimiters_symbol {c : Char} (h : c.isAlpha = false) (t : List Char) :
    delimiters ('\\' :: c :: t) = delimiters t := by
  have hword : (c :: t).takeWhile Char.isAlpha = [] := List.takeWhile_cons_of_neg (by simp [h])
  rw [delimiters, if_pos rfl]
  dsimp only
  rw [hword]
  rfl

/-- The name of a control word that delimits nothing: letters, but neither of the two words that
make environments. -/
def IsCommandName (w : List Char) : Prop :=
  w ≠ [] ∧ (∀ x ∈ w, x.isAlpha = true) ∧ w ≠ "begin".toList ∧ w ≠ "end".toList

instance : DecidablePred IsCommandName := fun w =>
  let _ : Decidable (∀ x ∈ w, x.isAlpha = true) := List.decidableBAll _ w
  inferInstanceAs
    (Decidable (w ≠ [] ∧ (∀ x ∈ w, x.isAlpha = true) ∧ w ≠ "begin".toList ∧ w ≠ "end".toList))

section Words

variable {w : List Char} {c : Char} {t : List Char}

theorem takeWhile_word (hw : ∀ x ∈ w, x.isAlpha = true) (hc : c.isAlpha = false) :
    (w ++ c :: t).takeWhile Char.isAlpha = w := by
  rw [List.takeWhile_append_of_pos hw, List.takeWhile_cons_of_neg (by simp [hc]), List.append_nil]

/-- A control word is read up to the first character that is no letter. -/
theorem delimiters_controlWord (hne : w ≠ []) (hw : ∀ x ∈ w, x.isAlpha = true)
    (hc : c.isAlpha = false) : delimiters ('\\' :: (w ++ c :: t)) =
      match environment? w (c :: t) with
      | some (d, after) => d :: delimiters after
      | none => delimiters (c :: t) := by
  rw [delimiters, if_pos rfl]
  dsimp only
  rw [takeWhile_word hw hc, List.drop_left, if_neg (by simpa using hne)]
  cases environment? w (c :: t) with
  | none => rfl
  | some p => rfl

theorem delimiters_word (h : IsCommandName w) (hc : c.isAlpha = false) :
    delimiters ('\\' :: (w ++ c :: t)) = delimiters (c :: t) := by
  obtain ⟨hne, hw, hbegin, hend⟩ := h
  have hnone : environment? w (c :: t) = none := by
    unfold environment?
    split
    · dsimp only
      split
      · rw [if_neg hbegin, if_neg hend]
      · rfl
    · rfl
  rw [delimiters_controlWord hne hw hc, hnone]

end Words

/-- Neither the escaped brace nor the one in the name of the environment counts. -/
example : delimiters "\\\\\x7b\\\x7d\x7d\\begin\x7ba\x7d\\beginning".toList =
    [.opening, .closing, .begins ['a']] := by
  cbv

/-! ### Nesting -/

/-- **A nested word of delimiters**: every brace and every environment is closed by its own kind,
after all that was opened in it. -/
inductive Nested : List Delimiter → Prop where
  | nil : Nested []
  | append {a b : List Delimiter} (ha : Nested a) (hb : Nested b) : Nested (a ++ b)
  | group {a : List Delimiter} (ha : Nested a) : Nested (.opening :: a ++ [.closing])
  | environment {a : List Delimiter} (name : List Char) (ha : Nested a) :
    Nested (.begins name :: a ++ [.ends name])

/-- **A well nested text**: its delimiters are nested, and it is read alike whatever follows it. -/
structure WellNested (s : List Char) : Prop where
  apart (rest : List Char) : delimiters (s ++ rest) = delimiters s ++ delimiters rest
  nested : Nested (delimiters s)

/-- A text without backslashes and braces. -/
def Plain (s : List Char) : Prop := ∀ c ∈ s, isActive c = false

instance : DecidablePred Plain := fun s => List.decidableBAll _ s

namespace WellNested

variable {s t : List Char}

theorem empty : WellNested [] where
  apart _ := by simp
  nested := by simpa using .nil

theorem append (hs : WellNested s) (ht : WellNested t) : WellNested (s ++ t) where
  apart rest := by
    rw [List.append_assoc, hs.apart, ht.apart, hs.apart, List.append_assoc]
  nested := by
    rw [hs.apart]
    exact .append hs.nested ht.nested

theorem single {c : Char} (h : isActive c = false) : WellNested [c] where
  apart rest := by
    rw [delimiters_of_not_isActive h, delimiters_nil, List.nil_append, List.singleton_append,
      delimiters_of_not_isActive h]
  nested := by
    rw [delimiters_of_not_isActive h, delimiters_nil]
    exact .nil

theorem symbol {c : Char} (h : c.isAlpha = false) : WellNested ['\\', c] where
  apart rest := by
    rw [delimiters_symbol h, delimiters_nil, List.nil_append]
    exact delimiters_symbol h rest
  nested := by
    rw [delimiters_symbol h, delimiters_nil]
    exact .nil

theorem flatten : ∀ {l : List (List Char)}, (∀ s ∈ l, WellNested s) → WellNested l.flatten
  | [], _ => empty
  | s :: l, h => by
    rw [List.flatten_cons]
    exact (h s (by simp)).append (flatten fun t ht => h t (by simp [ht]))

theorem flatMap {α : Type} {f : α → List Char} {l : List α} (h : ∀ a ∈ l, WellNested (f a)) :
    WellNested (l.flatMap f) := by
  rw [List.flatMap_def]
  refine flatten fun s hs => ?_
  obtain ⟨a, ha, rfl⟩ := List.mem_map.mp hs
  exact h a ha

theorem intercalate (hs : WellNested s) : ∀ {l : List (List Char)}, (∀ t ∈ l, WellNested t) →
    WellNested (s.intercalate l)
  | [], _ => by simpa using empty
  | [t], h => by simpa using h t
  | t :: u :: l, h => by
    rw [List.intercalate_cons_cons]
    have hl := intercalate hs (l := u :: l) fun x hx => h x (by simp [hx])
    exact ((h t (by simp)).append hs).append hl

theorem of_plain (h : Plain s) : WellNested s := by
  induction s with
  | nil => exact empty
  | cons c s ih =>
    have hs : Plain s := fun x hx => h x (by simp [hx])
    exact (single (h c (by simp))).append (ih hs)

/-- A text in braces. -/
theorem group (h : WellNested s) : WellNested ('\x7b' :: s ++ ['\x7d']) := by
  have hread (rest : List Char) : delimiters ('\x7b' :: s ++ ['\x7d'] ++ rest) =
      .opening :: delimiters s ++ [.closing] ++ delimiters rest := by
    rw [List.append_assoc, List.cons_append, delimiters_opening, h.apart, List.singleton_append,
      delimiters_closing]
    simp
  have halone := hread []
  rw [List.append_nil, delimiters_nil, List.append_nil] at halone
  refine ⟨fun rest => by rw [hread, halone], ?_⟩
  rw [halone]
  exact .group h.nested

/-- A control word before a text that does not go on the word. -/
theorem word {w : List Char} {c : Char} (h : WellNested (c :: s)) (hw : IsCommandName w)
    (hc : c.isAlpha = false) : WellNested ('\\' :: (w ++ c :: s)) where
  apart rest := by
    have hassoc : '\\' :: (w ++ c :: s) ++ rest = '\\' :: (w ++ c :: (s ++ rest)) := by simp
    rw [hassoc, delimiters_word hw hc, delimiters_word hw hc]
    exact h.apart rest
  nested := by
    rw [delimiters_word hw hc]
    exact h.nested

end WellNested

/-! ### Commands and environments -/

theorem toList_command (name argument : String) : (command name argument).toList =
    '\\' :: (name.toList ++ '\x7b' :: (argument.toList ++ ['\x7d'])) := by
  simp [command]

theorem environment?_eq {name : List Char} (h : Plain name) (word rest : List Char) :
    environment? word ('\x7b' :: (name ++ '\x7d' :: rest)) =
      if word = "begin".toList then some (.begins name, rest)
      else if word = "end".toList then some (.ends name, rest) else none := by
  have hname : (name ++ '\x7d' :: rest).takeWhile (fun c => !isActive c) = name := by
    rw [List.takeWhile_append_of_pos fun c hc => by simp [h c hc],
      List.takeWhile_cons_of_neg (by decide), List.append_nil]
  unfold environment?
  simp only [hname, List.drop_left]

section Environments

variable {name : String} (h : Plain name.toList)

include h

theorem delimiters_begin (rest : List Char) :
    delimiters ((command "begin" name).toList ++ rest) =
      .begins name.toList :: delimiters rest := by
  rw [toList_command]
  have halpha : ∀ x ∈ "begin".toList, x.isAlpha = true := List.all_eq_true.mp (by decide)
  have hassoc : '\\' :: ("begin".toList ++ '\x7b' :: (name.toList ++ ['\x7d'])) ++ rest =
      '\\' :: ("begin".toList ++ '\x7b' :: (name.toList ++ '\x7d' :: rest)) := by simp
  rw [hassoc, delimiters_controlWord (by decide) halpha (by decide), environment?_eq h]
  rfl

theorem delimiters_end (rest : List Char) :
    delimiters ((command "end" name).toList ++ rest) = .ends name.toList :: delimiters rest := by
  rw [toList_command]
  have halpha : ∀ x ∈ "end".toList, x.isAlpha = true := List.all_eq_true.mp (by decide)
  have hassoc : '\\' :: ("end".toList ++ '\x7b' :: (name.toList ++ ['\x7d'])) ++ rest =
      '\\' :: ("end".toList ++ '\x7b' :: (name.toList ++ '\x7d' :: rest)) := by simp
  rw [hassoc, delimiters_controlWord (by decide) halpha (by decide), environment?_eq h]
  rfl

/-- A text between the beginning and the end of an environment. -/
theorem WellNested.environment {s : List Char} (hs : WellNested s) :
    WellNested ((command "begin" name).toList ++ s ++ (command "end" name).toList) := by
  have hread (rest : List Char) :
      delimiters ((command "begin" name).toList ++ s ++ (command "end" name).toList ++ rest) =
        .begins name.toList :: delimiters s ++ [.ends name.toList] ++ delimiters rest := by
    rw [List.append_assoc, List.append_assoc, delimiters_begin h, hs.apart, delimiters_end h]
    simp
  have halone := hread []
  rw [List.append_nil, delimiters_nil, List.append_nil] at halone
  refine ⟨fun rest => by rw [hread, halone], ?_⟩
  rw [halone]
  exact .environment _ hs.nested

end Environments

/-- A command with a well nested argument. -/
theorem WellNested.command {name argument : String} (h : WellNested argument.toList)
    (hname : IsCommandName name.toList) : WellNested (Latex.command name argument).toList := by
  rw [toList_command]
  exact h.group.word hname (by decide)

end Manuscript.Latex
