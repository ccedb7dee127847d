import Manuscript.Text.Lines
import Manuscript.Version.Reader

/-!
Requirements on versions. A requirement is a list of clauses between commas, each a comparison with
a version; a version will do if every clause admits it. Pre-releases are admitted like any other
version, except that `<` does not reach the pre-releases of the version it names, nor `>` its
post-releases and local builds.
-/

namespace Manuscript.Version

/-- One clause of a requirement. -/
inductive Clause where
  /-- at least the version, within the series that its release numbers but the last make up -/
  | compatible (v : Version)
  | equal (v : Version)
  | unequal (v : Version)
  /-- in the series of the version's release numbers -/
  | within (v : Version)
  /-- outside the series of the version's release numbers -/
  | outside (v : Version)
  | atMost (v : Version)
  | atLeast (v : Version)
  | less (v : Version)
  | greater (v : Version)
  /-- written exactly like this -/
  | verbatim (text : String)
  deriving DecidableEq

/-- Whether a version lies in the series of some release numbers, zeros standing in for missing
ones. -/
def inSeries (epoch : Nat) (series : List Nat) (v : Version) : Bool :=
  let padded := v.release ++ List.replicate (series.length - v.release.length) 0
  v.epoch == epoch && padded.take series.length == series

/-- Whether a version is the one that a clause names; a clause without a local build mark does not
ask about it. -/
def matchesExactly (v w : Version) : Bool :=
  if w.build.isEmpty then same v.shared w else same v w

/-- The first development release on the way to a version, which comes before its pre-releases. -/
def firstDev (v : Version) : Version := { v with dev := some 0, build := [] }

/-- The version that a post-release follows. -/
def postBase (v : Version) : Version := { v with post := none, dev := none, build := [] }

namespace Clause

/-- Whether a clause admits a version. -/
def admits (v : Version) : Clause → Bool
  | compatible w => !before v.shared w && inSeries w.epoch w.release.dropLast v
  | equal w => matchesExactly v w
  | unequal w => !matchesExactly v w
  | within w => inSeries w.epoch w.release v
  | outside w => !inSeries w.epoch w.release v
  | atMost w => !before w v.shared
  | atLeast w => !before v.shared w
  | less w => before v w && (w.isPrerelease || !v.isPrerelease || before v w.firstDev)
  | greater w =>
    before w v && (w.isPostrelease || !v.isPostrelease || !same v.postBase w)
      && (v.build.isEmpty || !same v.shared w)
  | verbatim s => v.text == s

end Clause

/-- The version after a comparison sign; it has no local build mark. -/
def plain? (cs : List Char) : Option Version := do
  let (v, rest) ← head? (cs.dropWhile Text.isBlank)
  match marks v rest with
  | (v, []) => some v
  | _ => none

/-- The clause of a sign for equality and a version: of a series if a star ends the version, else of
the version itself. -/
def series? (exact series : Version → Clause) (cs : List Char) : Option Clause := do
  let cs := cs.dropWhile Text.isBlank
  let (v, rest) ← head? cs
  if rest = ['.', '*'] then some (series v)
  else match leading? cs with
    | some (v, []) => some (exact v)
    | _ => none

def isVerbatim (c : Char) : Bool := !Text.isBlank c && c != ';' && c != ')'

/-- A clause from its text in small letters, without blanks around it. -/
def clause? : List Char → Option Clause
  | '~' :: '=' :: cs => do
    let v ← plain? cs
    if v.release.length < 2 then none else some (.compatible v)
  | '=' :: '=' :: '=' :: cs =>
    let word := cs.dropWhile Text.isBlank
    if word.all isVerbatim then some (.verbatim (String.ofList word)) else none
  | '=' :: '=' :: cs => series? .equal .within cs
  | '!' :: '=' :: cs => series? .unequal .outside cs
  | '<' :: '=' :: cs => (plain? cs).map .atMost
  | '>' :: '=' :: cs => (plain? cs).map .atLeast
  | '<' :: cs => (plain? cs).map .less
  | '>' :: cs => (plain? cs).map .greater
  | _ => none

/-- The clauses of a requirement; empty ones are passed over. -/
def requirement? (s : String) : Option (List Clause) :=
  let parts := (Text.splitAt ',' s.toList).map fun cs => (Text.trim cs).map Char.toLower
  (parts.filter fun cs => !cs.isEmpty).mapM clause?

def satisfies (v : Version) (clauses : List Clause) : Bool := clauses.all fun c => c.admits v

end Manuscript.Version
