/-!
Version numbers of packages and their order. A version has an epoch, release numbers, and marks for
pre-releases, post-releases, development releases and local builds. Trailing zeros of the release
numbers do not count; a development release comes before its pre-releases, those before the release,
and post-releases after it.
-/

namespace Manuscript

/-- The stages of a pre-release. -/
inductive PreStage where
  | alpha
  | beta
  | candidate
  deriving DecidableEq

namespace PreStage

def mark : PreStage → String
  | alpha => "a"
  | beta => "b"
  | candidate => "rc"

def rank : PreStage → Nat
  | alpha => 1
  | beta => 2
  | candidate => 3

end PreStage

/-- A part of a local build mark. -/
inductive LocalPart where
  | word (w : String)
  | number (n : Nat)
  deriving DecidableEq

namespace LocalPart

def text : LocalPart → String
  | word w => w
  | number n => toString n

/-- Words come before numbers. -/
def compare : LocalPart → LocalPart → Ordering
  | word a, word b => Ord.compare a b
  | word _, number _ => .lt
  | number _, word _ => .gt
  | number a, number b => Ord.compare a b

end LocalPart

/-- A version of a package. -/
structure Version where
  epoch : Nat := 0
  release : List Nat
  pre : Option (PreStage × Nat) := none
  post : Option Nat := none
  dev : Option Nat := none
  build : List LocalPart := []
  deriving DecidableEq

namespace Version

def isPrerelease (v : Version) : Bool := v.pre.isSome || v.dev.isSome

def isPostrelease (v : Version) : Bool := v.post.isSome

/-- The version without its local build mark. -/
def shared (v : Version) : Version := { v with build := [] }

/-- The release numbers without trailing zeros. -/
def significant (v : Version) : List Nat := (v.release.reverse.dropWhile (· == 0)).reverse

/-- The place of the pre-release mark: a bare development release comes first, a version without the
mark last. -/
def prePlace (v : Version) : Nat × Nat :=
  match v.pre with
  | some (stage, n) => (stage.rank, n)
  | none => if v.post.isNone && v.dev.isSome then (0, 0) else (4, 0)

/-- The place of the post-release mark: a version without it comes first. -/
def postPlace (v : Version) : Nat :=
  match v.post with
  | some n => n + 1
  | none => 0

/-- The place of the development mark: a version without it comes last. -/
def devPlace (v : Version) : Nat × Nat :=
  match v.dev with
  | some n => (0, n)
  | none => (1, 0)

/-- The order of pairs of numbers, the first one counting more. -/
def comparePairs (a b : Nat × Nat) : Ordering := (compare a.1 b.1).then (compare a.2 b.2)

/-- The order of versions. -/
def order (v w : Version) : Ordering :=
  (compare v.epoch w.epoch).then <|
  (List.compareLex compare v.significant w.significant).then <|
  (comparePairs v.prePlace w.prePlace).then <|
  (compare v.postPlace w.postPlace).then <|
  (comparePairs v.devPlace w.devPlace).then <|
  List.compareLex LocalPart.compare v.build w.build

def same (v w : Version) : Bool := order v w == .eq

def before (v w : Version) : Bool := order v w == .lt

def text (v : Version) : String :=
  let epoch := if v.epoch = 0 then "" else s!"{v.epoch}!"
  let pre := match v.pre with
    | some (stage, n) => s!"{stage.mark}{n}"
    | none => ""
  let post := match v.post with
    | some n => s!".post{n}"
    | none => ""
  let dev := match v.dev with
    | some n => s!".dev{n}"
    | none => ""
  let build := if v.build.isEmpty then "" else "+" ++ ".".intercalate (v.build.map LocalPart.text)
  epoch ++ ".".intercalate (v.release.map toString) ++ pre ++ post ++ dev ++ build

end Version

end Manuscript
