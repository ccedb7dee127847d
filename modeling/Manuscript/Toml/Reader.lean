import Manuscript.Toml.Scalar
import Manuscript.Toml.Table

/-!
Reading TOML (version 1.0): statements of one line each, that declare tables or give values to keys.
-/

namespace Manuscript.Toml

/-- Passes over a comment, if one starts here. -/
def skipComment? (cs : List Char) : Option (List Char) :=
  match cs with
  | '#' :: rest =>
    let after := rest.dropWhile fun c => !isControl c
    match after with
    | [] => some []
    | '\n' :: _ => some after
    | _ => none
  | _ => some cs

/-- Passes over white space, line ends and comments inside an array. -/
def skipInArray? : Nat → List Char → Option (List Char)
  | 0, cs => some cs
  | fuel + 1, cs => do
    let rest ← skipComment? (cs.dropWhile isSpaceOrBreak)
    if rest.length = cs.length then some rest else skipInArray? fuel rest

mutual

/-- The value at the start of a text. -/
def value? : Nat → List Char → Option (Value × List Char)
  | 0, _ => none
  | fuel + 1, cs =>
    match cs with
    | '"' :: _ | '\'' :: _ => (string? cs).map fun (s, rest) => (.str s, rest)
    | '[' :: rest => do
      match ← skipInArray? (rest.length + 1) rest with
      | ']' :: after => some (.list [], after)
      | more =>
        let (items, after) ← items? fuel more
        some (.list items, after)
    | '\x7b' :: rest =>
      match rest.dropWhile isSpace with
      | '\x7d' :: after => some (.map [], after)
      | more => (pairs? fuel [] [] more).map fun (entries, after) => (.map entries, after)
    | _ =>
      match word? [("true", .bool true), ("false", .bool false)] cs with
      | some found => some found
      | none => match moment? cs with
        | some found => found
        | none => match clock? cs with
          | some (time, rest) => some (.time time, rest)
          | none => match basedNumber? cs with
            | some found => some found
            | none => match decimalNumber? cs with
              | some found => some found
              | none => word? numberWords cs

def items? : Nat → List Char → Option (List Value × List Char)
  | 0, _ => none
  | fuel + 1, cs => do
    let (item, rest) ← value? fuel cs
    match ← skipInArray? (rest.length + 1) rest with
    | ']' :: after => some ([item], after)
    | ',' :: more =>
      match ← skipInArray? (more.length + 1) more with
      | ']' :: after => some ([item], after)
      | next =>
        let (items, after) ← items? fuel next
        some (item :: items, after)
    | _ => none

def pairs? : Nat → Entries → List Path → List Char → Option (Entries × List Char)
  | 0, _, _, _ => none
  | fuel + 1, entries, closed, cs => do
    let (key, value, rest) ← pair? fuel cs
    let entries ← assignInline entries closed key value
    match rest.dropWhile isSpace with
    | '\x7d' :: after => some (entries, after)
    | ',' :: more =>
      let closed := if Document.isContainer value then key :: closed else closed
      pairs? fuel entries closed (more.dropWhile isSpace)
    | _ => none

def pair? : Nat → List Char → Option (Path × Value × List Char)
  | 0, _ => none
  | fuel + 1, cs => do
    let (key, rest) ← key? (cs.length + 1) cs
    let rest ← expect '=' rest
    let (value, rest) ← value? fuel (rest.dropWhile isSpace)
    some (key, value, rest)

end

/-- A header in brackets: the path, and the text after the closing brackets. -/
def header? (close : List Char) (cs : List Char) : Option (Path × List Char) := do
  let (path, rest) ← key? (cs.length + 1) (cs.dropWhile isSpace)
  if close.isPrefixOf rest then some (path, rest.drop close.length) else none

/-- One statement, and the text after it. -/
def statement? (d : Document) (cs : List Char) : Option (Document × List Char) :=
  match cs with
  | '[' :: '[' :: rest => do
    let (path, after) ← header? [']', ']'] rest
    some (← d.settle.declareItem path, after.dropWhile isSpace)
  | '[' :: rest => do
    let (path, after) ← header? [']'] rest
    some (← d.settle.declareTable path, after.dropWhile isSpace)
  | '#' :: _ => some (d, cs)
  | _ => do
    let (key, value, after) ← pair? (2 * cs.length + 2) cs
    some (← d.assign key value, after.dropWhile isSpace)

/-- The statements of a text, one to a line. -/
def statements? : Nat → Document → List Char → Option Document
  | 0, _, _ => none
  | fuel + 1, d, cs =>
    match cs.dropWhile isSpace with
    | [] => some d
    | '\n' :: rest => statements? fuel d rest
    | text => do
      let (d, rest) ← statement? d text
      match ← skipComment? rest with
      | [] => some d
      | '\n' :: more => statements? fuel d more
      | _ => none

/-- A carriage return before a line feed is not kept, in strings neither. -/
def dropReturns : List Char → List Char
  | [] => []
  | '\r' :: '\n' :: rest => '\n' :: dropReturns rest
  | c :: rest => c :: dropReturns rest

/-- Reads a document. -/
def read? (text : String) : Option Entries :=
  let cs := dropReturns text.toList
  (statements? (cs.length + 1) {} cs).map Document.tables

end Manuscript.Toml
