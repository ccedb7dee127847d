import Manuscript.Binary64.Reader
import Manuscript.Text.Base64
import Manuscript.Text.Blank
import Manuscript.Text.Digit
import Manuscript.Value.Key
import Manuscript.Yaml.Compose

/-!
The value of a YAML document. Scalars are read by their tags; merge keys bring in the entries of
other mappings, before a mapping's own. Collections are built level by level from the root, which
decides what problem a document with several is refused for. The elements of a set are listed in the
order of writing, and an integer may have any number of digits.
-/

namespace Manuscript.Yaml

/-! ### Scalars -/

/-- Writes the decimal digits of any script as those of the Latin one. -/
def latinDigits (cs : List Char) : List Char :=
  cs.map fun c => ((Text.digit? c).map fun d => Char.ofNat (48 + d)).getD c

/-- The value of a digit in bases up to sixteen. -/
def digitIn? (base : Nat) (c : Char) : Option Nat := do
  let d ← Json.hexDigit? c
  if d < base then some d else none

/-- The letter that marks a base. -/
def baseMark? : Nat → Option Char
  | 2 => some 'b'
  | 8 => some 'o'
  | 16 => some 'x'
  | _ => none

/-- Drops the mark of a base from the start of digits, if it is written there. -/
def withoutBaseMark (base : Nat) : List Char → List Char
  | '0' :: mark :: digits =>
    if baseMark? base = some mark.toLower then digits else '0' :: mark :: digits
  | digits => digits

def numberIn? (base : Nat) (digits : List Char) : Option Nat :=
  digits.foldl (fun n c => do some (base * (← n) + (← digitIn? base c))) (some 0)

/-- Reads an integer in a base: blanks around it, an optional sign, the mark of the base or none,
and digits. -/
def integerIn (base : Nat) (cs : List Char) : Reading Int :=
  let (negative, body) := Binary64.signOf (Text.trim (latinDigits cs))
  let digits := withoutBaseMark base body
  match digits, numberIn? base digits with
  | _ :: _, some n => .ok (if negative then -(n : Int) else n)
  | _, _ => .error (.breakdown .impossibleValue)

/-- The number whose parts count sixty times as much from one to the next. -/
def sixtieths (parts : List Int) : Int := parts.foldl (fun n p => 60 * n + p) 0

/-- The text of a number without its underscores, and its sign taken off. -/
def numberText (text : String) : Bool × List Char :=
  Binary64.signOf (text.toList.filter (· != '_'))

/-- The parts of the unsigned text of an integer, and the base that the digits of each are of. -/
def integerParts (body : List Char) : List (Nat × List Char) :=
  match body with
  | ['0'] => []
  | '0' :: 'b' :: digits => [(2, digits)]
  | '0' :: 'x' :: digits => [(16, digits)]
  | '0' :: _ => [(8, body)]
  | _ => if body.contains ':' then (colonParts body).map fun part => (10, part) else [(10, body)]

def integerText (text : String) : Reading Int :=
  let (negative, body) := numberText text
  if body.isEmpty then .error (.breakdown .outOfRange)
  else do
    let parts ← (integerParts body).mapM fun part => integerIn part.1 part.2
    return if negative then -sixtieths parts else sixtieths parts

/-- Reads a floating-point number with blanks around it. -/
def floatPart (cs : List Char) : Reading Binary64 :=
  match Binary64.ofText? (String.ofList (Text.trim (latinDigits cs))) with
  | some x => .ok x
  | none => .error (.breakdown .impossibleValue)

/-- How many powers of sixty a double can hold. -/
def sixtiethPlaces : Nat := 174

/-- Adds up parts, the last one counting once and each one before it sixty times as much. A part
whose place no double can hold cannot be counted, whatever it is. -/
def sexagesimalSum (parts : List Binary64) : Reading Binary64 :=
  if parts.length > sixtiethPlaces then .error (.breakdown .unforeseen)
  else .ok (parts.reverse.foldl
    (fun (acc : Binary64 × Nat) x => (acc.1.add (x.scale acc.2), acc.2 * 60))
    (Binary64.zero false, 1)).1

def floatText (text : String) : Reading Binary64 :=
  let (negative, body) := numberText (text.map Char.toLower)
  let sign (x : Binary64) : Binary64 := if negative then x.negate else x
  if text.toList.all (· == '_') then .error (.breakdown .outOfRange)
  else if body == ".inf".toList then .ok (Binary64.infinity negative)
  else if body == ".nan".toList then .ok Binary64.nan
  else if body.contains ':' then do
    return sign (← sexagesimalSum (← (colonParts body).mapM floatPart))
  else do return sign (← floatPart body)

def truthText (text : String) : Reading Bool :=
  let word := String.ofList (text.toList.map Char.toLower)
  if ["yes", "true", "on"].contains word then .ok true
  else if ["no", "false", "off"].contains word then .ok false
  else .error (.breakdown .missingKey)

/-- The offset of a zone in minutes: less than a day. -/
def zoneOffset (zone : Option (Option (Char × List Char × List Char))) : Reading (Option Int) :=
  match zone with
  | none => .ok none
  | some none => .ok (some 0)
  | some (some (sign, hours, minutes)) =>
    let n := Binary64.digitsValue hours * 60 + Binary64.digitsValue minutes
    if n ≥ 1440 then .error (.breakdown .impossibleValue)
    else .ok (some (if sign = '-' then -(n : Int) else n))

def withoutFinalBreak (cs : List Char) : List Char :=
  if cs.getLast? = some '\n' then cs.dropLast else cs

/-- The microseconds that the fraction of a moment writes: its first six digits. -/
def MomentText.microsecond (m : MomentText) : Nat :=
  Binary64.digitsValue ((m.fraction ++ List.replicate 6 '0').take 6)

/-- The date, or the date and time, of the fields of a moment. -/
def MomentText.value (m : MomentText) : Reading Value :=
  let number := Binary64.digitsValue
  let date := Date.make? (number m.year) (number m.month) (number m.day)
  match m.clock with
  | none => match date with
    | some d => .ok (.date d)
    | none => .error (.breakdown .impossibleValue)
  | some (hour, minute, second) => do
    let offset ← zoneOffset m.zone
    match date, TimeOfDay.make? (number hour) (number minute) (number second) m.microsecond
        offset with
    | some d, some t => return .datetime d t
    | _, _ => .error (.breakdown .impossibleValue)

/-- The date, or the date and time, that a text writes; a line feed may follow. -/
def momentValue (text : String) : Reading Value :=
  match momentText? (withoutFinalBreak text.toList) with
  | none => .error (.breakdown .missingAttribute)
  | some m => m.value

/-! ### Tags -/

namespace Tree

def tag : Tree → String
  | scalar tag _ | sequence tag _ | mapping tag _ => tag

mutual

/-- The text of a node that stands for a scalar: a scalar, or a mapping with a default entry. -/
def scalarText : Tree → Reading String
  | scalar _ text => .ok text
  | sequence _ _ => malformed
  | mapping _ entries => defaultText entries

/-- The text of the first default entry. -/
def defaultText : List (Tree × Tree) → Reading String
  | [] => malformed
  | (key, value) :: rest =>
    if key.tag == coreTag "value" then scalarText value else defaultText rest

end

end Tree

/-- Whether a tag is that of a collection, which is filled after it is made. -/
def isCollectionTag (tag : String) : Bool :=
  ["seq", "map", "set", "omap", "pairs"].any fun name => tag == coreTag name

/-- The bytes that a text in base 64 encodes. -/
def binaryValue (text : String) : Reading Value :=
  if !text.toList.all fun c => c.toNat < 128 then malformed
  else match Text.decodeBase64? text with
    | some bytes => .ok (.bytes bytes)
    | none => malformed

/-- The moment of a node. Only a scalar is looked into. -/
def momentOf : Tree → Reading Value
  | .scalar _ text => momentValue text
  | node => do
    let _ ← node.scalarText
    .error (.breakdown .wrongType)

def scalarValue (node : Tree) : Reading Value :=
  let tag := node.tag
  if tag == coreTag "null" then do let _ ← node.scalarText; return .null
  else if tag == coreTag "bool" then do return .bool (← truthText (← node.scalarText))
  else if tag == coreTag "int" then do return .int (← integerText (← node.scalarText))
  else if tag == coreTag "float" then do return .float (← floatText (← node.scalarText))
  else if tag == coreTag "timestamp" then momentOf node
  else if tag == coreTag "str" then do return .str (← node.scalarText)
  else if tag == coreTag "binary" then do binaryValue (← node.scalarText)
  else malformed

/-! ### Sizes -/

namespace Tree

mutual

/-- The number of nodes and places of a tree. -/
def size : Tree → Nat
  | scalar _ _ => 1
  | sequence _ items => 1 + itemsSize items
  | mapping _ entries => 1 + entriesSize entries

def itemsSize : List Tree → Nat
  | [] => 0
  | t :: ts => 1 + size t + itemsSize ts

def entriesSize : List (Tree × Tree) → Nat
  | [] => 0
  | (key, value) :: rest => 1 + size key + size value + entriesSize rest

end

theorem itemsSize_append (ts us : List Tree) :
    itemsSize (ts ++ us) = itemsSize ts + itemsSize us := by
  induction ts with
  | nil => simp [itemsSize]
  | cons t ts ih => simp only [List.cons_append, itemsSize, ih]; omega

theorem entriesSize_append (es fs : List (Tree × Tree)) :
    entriesSize (es ++ fs) = entriesSize es + entriesSize fs := by
  induction es with
  | nil => simp [entriesSize]
  | cons e es ih =>
    obtain ⟨key, value⟩ := e
    simp only [List.cons_append, entriesSize, ih]
    omega

end Tree

/-! ### Mappings -/

/-- A default key in a place of its own counts as a text. This is so of the key alone: another alias
of its node is a default value still. -/
def plainKey : Tree → Tree
  | .scalar tag text => .scalar (if tag == coreTag "value" then coreTag "str" else tag) text
  | node => node

mutual

/-- The entries that merge keys bring in, and the other entries. -/
def mergeParts : List (Tree × Tree) → Reading (List (Tree × Tree) × List (Tree × Tree))
  | [] => .ok ([], [])
  | (key, value) :: rest => do
    if key.tag == coreTag "merge" then
      let brought ← broughtBy value
      let (merged, own) ← mergeParts rest
      return (brought ++ merged, own)
    else
      let (merged, own) ← mergeParts rest
      return (merged, (plainKey key, value) :: own)

/-- The entries that the value of a merge key brings in: those of a mapping, or of a list of
mappings. -/
def broughtBy : Tree → Reading (List (Tree × Tree))
  | .scalar _ _ => malformed
  | .mapping _ entries => do
    let (merged, own) ← mergeParts entries
    return merged ++ own
  | .sequence _ items => broughtByAll items

/-- The entries that a list of mappings brings in; an earlier mapping wins, so it comes last. -/
def broughtByAll : List Tree → Reading (List (Tree × Tree))
  | [] => .ok []
  | .mapping _ entries :: rest => do
    let (merged, own) ← mergeParts entries
    let others ← broughtByAll rest
    return others ++ (merged ++ own)
  | _ :: _ => malformed

end

/-- The entries of a mapping with its merge keys replaced by the entries they bring in, which come
first. -/
def flattenEntries (entries : List (Tree × Tree)) : Reading (List (Tree × Tree)) := do
  let (merged, own) ← mergeParts entries
  return merged ++ own

theorem size_plainKey (key : Tree) : (plainKey key).size = key.size := by
  cases key <;> rfl

mutual

theorem size_mergeParts : ∀ (entries : List (Tree × Tree)) {merged own : List (Tree × Tree)},
    mergeParts entries = .ok (merged, own) →
      Tree.entriesSize merged + Tree.entriesSize own ≤ Tree.entriesSize entries
  | [], merged, own, h => by
    obtain ⟨rfl, rfl⟩ := Prod.mk.inj (Except.ok.inj h)
    simp [Tree.entriesSize]
  | (key, value) :: rest, merged, own, h => by
    rw [mergeParts] at h
    split at h
    · obtain ⟨brought, hb, h⟩ := Reading.bind_eq_ok.mp h
      obtain ⟨⟨m, o⟩, hr, h⟩ := Reading.bind_eq_ok.mp h
      obtain ⟨rfl, rfl⟩ := Prod.mk.inj (Except.ok.inj h)
      have h1 := size_broughtBy value hb
      have h2 := size_mergeParts rest hr
      simp only [Tree.entriesSize_append, Tree.entriesSize]
      omega
    · obtain ⟨⟨m, o⟩, hr, h⟩ := Reading.bind_eq_ok.mp h
      obtain ⟨rfl, rfl⟩ := Prod.mk.inj (Except.ok.inj h)
      have h2 := size_mergeParts rest hr
      simp only [Tree.entriesSize, size_plainKey]
      omega

theorem size_broughtBy : ∀ (value : Tree) {brought : List (Tree × Tree)},
    broughtBy value = .ok brought → Tree.entriesSize brought ≤ value.size
  | .scalar _ _, _, h => by cases h
  | .mapping _ entries, brought, h => by
    rw [broughtBy] at h
    obtain ⟨⟨m, o⟩, hr, h⟩ := Reading.bind_eq_ok.mp h
    obtain rfl := Except.ok.inj h
    have h1 := size_mergeParts entries hr
    simp only [Tree.entriesSize_append, Tree.size]
    omega
  | .sequence _ items, brought, h => by
    have h1 := size_broughtByAll items h
    simp only [Tree.size]
    omega

theorem size_broughtByAll : ∀ (items : List Tree) {brought : List (Tree × Tree)},
    broughtByAll items = .ok brought → Tree.entriesSize brought ≤ Tree.itemsSize items
  | [], brought, h => by
    obtain rfl := Except.ok.inj h
    simp [Tree.entriesSize]
  | .mapping _ entries :: rest, brought, h => by
    rw [broughtByAll] at h
    obtain ⟨⟨m, o⟩, hr, h⟩ := Reading.bind_eq_ok.mp h
    obtain ⟨others, ho, h⟩ := Reading.bind_eq_ok.mp h
    obtain rfl := Except.ok.inj h
    have h1 := size_mergeParts entries hr
    have h2 := size_broughtByAll rest ho
    simp only [Tree.entriesSize_append, Tree.itemsSize, Tree.size]
    omega
  | .scalar _ _ :: _, _, h => by cases h
  | .sequence _ _ :: _, _, h => by cases h

end

theorem size_flattenEntries {entries flat : List (Tree × Tree)}
    (h : flattenEntries entries = .ok flat) : Tree.entriesSize flat ≤ Tree.entriesSize entries := by
  obtain ⟨⟨m, o⟩, hr, h⟩ := Reading.bind_eq_ok.mp h
  obtain rfl := Except.ok.inj h
  rw [Tree.entriesSize_append]
  exact size_mergeParts entries hr

/-! ### Building -/

mutual

def build (node : Tree) : Reading Value :=
  match node with
  | .scalar tag text => if isCollectionTag tag then malformed else scalarValue (.scalar tag text)
  | .sequence tag items =>
    if tag == coreTag "seq" then do return .list (← buildAll items)
    else if tag == coreTag "omap" || tag == coreTag "pairs" then do
      return .list (← buildPairs items)
    else if isCollectionTag tag then malformed else scalarValue (.sequence tag items)
  | .mapping tag entries =>
    if tag == coreTag "map" || tag == coreTag "set" then
      match _h : flattenEntries entries with
      | .error e => .error e
      | .ok flat => do
        let pairs := Value.ofPairs (← buildEntries flat)
        return if tag == coreTag "map" then .map pairs else .set (pairs.map Prod.fst)
    else if isCollectionTag tag then malformed else scalarValue (.mapping tag entries)
termination_by node.size
decreasing_by
  · simp only [Tree.size]; omega
  · simp only [Tree.size]; omega
  · have := size_flattenEntries _h
    simp only [Tree.size]
    omega

def buildAll (items : List Tree) : Reading (List Value) :=
  match items with
  | [] => .ok []
  | node :: rest => do return (← build node) :: (← buildAll rest)
termination_by Tree.itemsSize items
decreasing_by all_goals simp only [Tree.itemsSize]; omega

def buildEntries (entries : List (Tree × Tree)) : Reading (List (Value × Value)) :=
  match entries with
  | [] => .ok []
  | (key, value) :: rest => do
    if isCollectionTag key.tag then malformed
    let k ← build key
    let v ← build value
    return (k, v) :: (← buildEntries rest)
termination_by Tree.entriesSize entries
decreasing_by all_goals simp only [Tree.entriesSize]; omega

/-- The pairs of an ordered mapping, written as a list of mappings of one entry. -/
def buildPairs (items : List Tree) : Reading (List Value) :=
  match items with
  | [] => .ok []
  | .mapping _ [(key, value)] :: rest => do
    let k ← build key
    let v ← build value
    return .tuple [k, v] :: (← buildPairs rest)
  | _ :: _ => malformed
termination_by Tree.itemsSize items
decreasing_by all_goals simp only [Tree.itemsSize, Tree.size, Tree.entriesSize]; omega

end

/-! ### The first problem, level by level -/

/-- Makes a node without filling it: a collection is left for the next level, a scalar is read. -/
def visitNode (node : Tree) : Reading (List Tree) :=
  if isCollectionTag node.tag then .ok [node]
  else do let _ ← scalarValue node; return []

/-- Makes the nodes of a list in order. -/
def visitNodes : List Tree → Reading (List Tree)
  | [] => .ok []
  | n :: ns => do
    let first ← visitNode n
    return first ++ (← visitNodes ns)

/-- Makes the keys and values of entries in order. -/
def visitEntries : List (Tree × Tree) → Reading (List Tree)
  | [] => .ok []
  | (key, value) :: rest => do
    if isCollectionTag key.tag then malformed
    let _ ← visitNode key
    let first ← visitNode value
    return first ++ (← visitEntries rest)

/-- Makes the keys and values of an ordered mapping in order. -/
def visitPairs : List Tree → Reading (List Tree)
  | [] => .ok []
  | .mapping _ [(key, value)] :: rest => do
    let first ← visitNodes [key, value]
    return first ++ (← visitPairs rest)
  | _ :: _ => malformed

/-- Fills a collection: what remains to be filled inside it. -/
def fillNode : Tree → Reading (List Tree)
  | .scalar _ _ => malformed
  | .sequence tag items =>
    if tag == coreTag "seq" then visitNodes items
    else if tag == coreTag "omap" || tag == coreTag "pairs" then visitPairs items
    else malformed
  | .mapping tag entries =>
    if tag == coreTag "map" || tag == coreTag "set" then do visitEntries (← flattenEntries entries)
    else malformed

/-- Fills the collections of a level in order. -/
def fillLevel : List Tree → Reading (List Tree)
  | [] => .ok []
  | n :: ns => do
    let first ← fillNode n
    return first ++ (← fillLevel ns)

theorem size_visitNode {node : Tree} {left : List Tree} (h : visitNode node = .ok left) :
    Tree.itemsSize left ≤ 1 + node.size := by
  unfold visitNode at h
  split at h
  · obtain rfl := Except.ok.inj h
    simp [Tree.itemsSize]
  · obtain ⟨v, -, h⟩ := Reading.bind_eq_ok.mp h
    obtain rfl := Except.ok.inj h
    simp [Tree.itemsSize]

theorem size_visitNodes : ∀ {items left : List Tree}, visitNodes items = .ok left →
    Tree.itemsSize left ≤ Tree.itemsSize items
  | [], left, h => by
    obtain rfl := Except.ok.inj h
    exact Nat.le_refl _
  | n :: ns, left, h => by
    obtain ⟨first, hn, h⟩ := Reading.bind_eq_ok.mp h
    obtain ⟨others, hns, h⟩ := Reading.bind_eq_ok.mp h
    obtain rfl := Except.ok.inj h
    have h1 := size_visitNode hn
    have h2 := size_visitNodes hns
    simp only [Tree.itemsSize_append, Tree.itemsSize]
    omega

theorem size_visitEntries : ∀ {entries : List (Tree × Tree)} {left : List Tree},
    visitEntries entries = .ok left → Tree.itemsSize left ≤ Tree.entriesSize entries
  | [], left, h => by
    obtain rfl := Except.ok.inj h
    exact Nat.le_refl _
  | (key, value) :: rest, left, h => by
    rw [visitEntries] at h
    split at h
    · cases h
    · obtain ⟨_, -, h⟩ := Reading.bind_eq_ok.mp h
      obtain ⟨first, hv, h⟩ := Reading.bind_eq_ok.mp h
      obtain ⟨others, hr, h⟩ := Reading.bind_eq_ok.mp h
      obtain rfl := Except.ok.inj h
      have h1 := size_visitNode hv
      have h2 := size_visitEntries hr
      simp only [Tree.itemsSize_append, Tree.entriesSize]
      omega

theorem size_visitPairs : ∀ {items left : List Tree}, visitPairs items = .ok left →
    Tree.itemsSize left ≤ Tree.itemsSize items
  | [], left, h => by
    obtain rfl := Except.ok.inj h
    exact Nat.le_refl _
  | item :: rest, left, h => by
    rw [visitPairs.eq_def] at h
    split at h
    · cases ‹_ = []›
    · rename_i tag key value rest' heq
      obtain ⟨rfl, rfl⟩ := List.cons.inj heq
      obtain ⟨first, hv, h⟩ := Reading.bind_eq_ok.mp h
      obtain ⟨others, hr, h⟩ := Reading.bind_eq_ok.mp h
      obtain rfl := Except.ok.inj h
      have h1 := size_visitNodes hv
      have h2 := size_visitPairs hr
      simp only [Tree.itemsSize_append, Tree.itemsSize, Tree.size, Tree.entriesSize] at *
      omega
    · cases h

theorem size_fillNode {node : Tree} {left : List Tree} (h : fillNode node = .ok left) :
    Tree.itemsSize left < 1 + node.size := by
  cases node with
  | scalar tag text => cases h
  | sequence tag items =>
    rw [fillNode] at h
    simp only [Tree.size]
    split at h
    · have := size_visitNodes h
      omega
    split at h
    · have := size_visitPairs h
      omega
    · cases h
  | mapping tag entries =>
    rw [fillNode] at h
    simp only [Tree.size]
    split at h
    · obtain ⟨flat, hf, h⟩ := Reading.bind_eq_ok.mp h
      have h1 := size_flattenEntries hf
      have h2 := size_visitEntries h
      omega
    · cases h

theorem size_fillLevel : ∀ {level left : List Tree}, fillLevel level = .ok left →
    Tree.itemsSize left + level.length ≤ Tree.itemsSize level
  | [], left, h => by
    obtain rfl := Except.ok.inj h
    exact Nat.le_refl _
  | n :: ns, left, h => by
    obtain ⟨first, hn, h⟩ := Reading.bind_eq_ok.mp h
    obtain ⟨others, hns, h⟩ := Reading.bind_eq_ok.mp h
    obtain rfl := Except.ok.inj h
    have h1 := size_fillNode hn
    have h2 := size_fillLevel hns
    simp only [Tree.itemsSize_append, Tree.itemsSize, List.length_cons]
    omega

/-- The first problem met when collections are filled level by level. -/
def firstProblem (level : List Tree) : Option Problem :=
  match level with
  | [] => none
  | n :: ns =>
    match _h : fillLevel (n :: ns) with
    | .error e => some e
    | .ok next => firstProblem next
termination_by Tree.itemsSize level
decreasing_by
  have := size_fillLevel _h
  simp only [List.length_cons] at this
  omega

/-- The value of a tree, or the first problem that prevents it. -/
def construct (tree : Tree) : Reading Value :=
  match build tree with
  | .ok v => .ok v
  | .error e =>
    match visitNode tree with
    | .error first => .error first
    | .ok level => .error ((firstProblem level).getD e)

/-- The value of a text; an empty one is null. -/
def load (text : String) : Reading Value := do
  match ← compose text.toList with
  | none => return .null
  | some tree => construct tree

end Manuscript.Yaml
