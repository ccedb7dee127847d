import Manuscript.Value.Basic

/-!
Keys of mappings. Two values are the same key when they are equal: numbers by their value whatever
their type (`1`, `1.0` and true are one key), instants by their place in universal time. Writing a
key again keeps its first spelling and place and takes the last value.
-/

namespace Manuscript.Value

/-- The number that a value stands for, as a fraction. -/
def number? : Value → Option (Int × Nat)
  | bool b => some (if b then 1 else 0, 1)
  | int n => some (n, 1)
  | float x => x.fraction?
  | _ => none

/-- Whether two infinities are the same one. -/
def sameInfinity (x y : Binary64) : Bool :=
  match x.read, y.read with
  | .infinite a, .infinite b => a == b
  | _, _ => false

/-- Microseconds since the epoch of the calendar, universal time where an offset is known. -/
def instant (d : Date) (t : TimeOfDay) : Int := (d.dayNumber : Int) * 86400000000 + t.clock

mutual

/-- Whether two values are the same key. -/
def sameKey : Value → Value → Bool
  | null, null => true
  | str a, str b => a == b
  | bytes a, bytes b => a == b
  | date a, date b => a == b
  | time a, time b => a.offset.isSome == b.offset.isSome && a.clock == b.clock
  | datetime d t, datetime d' t' =>
    t.offset.isSome == t'.offset.isSome && instant d t == instant d' t'
  | tuple as, tuple bs => sameKeys as bs
  | type a, type b => a == b
  | float x, float y => sameInfinity x y || sameNumber (float x) (float y)
  | a, b => sameNumber a b

def sameKeys : List Value → List Value → Bool
  | [], [] => true
  | a :: as, b :: bs => sameKey a b && sameKeys as bs
  | _, _ => false

/-- Whether two values stand for the same number. -/
def sameNumber (a b : Value) : Bool :=
  match a.number?, b.number? with
  | some (p, q), some (r, s) => p * s == r * q
  | _, _ => false

end

def lookup? (key : Value) : Entries → Option Value
  | [] => none
  | (k, v) :: rest => if sameKey k key then some v else lookup? key rest

def field? (name : String) (entries : Entries) : Option Value := lookup? (.str name) entries

def insertKey (key value : Value) : Entries → Entries
  | [] => [(key, value)]
  | (k, v) :: rest =>
    if sameKey k key then (k, value) :: rest else (k, v) :: insertKey key value rest

def ofPairs (pairs : List (Value × Value)) : Entries :=
  pairs.foldl (fun entries p => insertKey p.1 p.2 entries) []

mutual

/-- Whether a value can be a key: lists, sets and mappings cannot, nor can a tuple that holds one.
-/
def isKey : Value → Bool
  | list _ | set _ | map _ => false
  | tuple items => areKeys items
  | _ => true

def areKeys : List Value → Bool
  | [] => true
  | v :: vs => isKey v && areKeys vs

end

end Manuscript.Value
