/-
This file is a small library about the patterns of a shell: a star for any text, a question mark
for any character, and a set of characters in brackets. A text is read into pieces, and the pieces
are matched against a name from left to right.

Nothing in the file names a particular use of patterns.
-/

import Mathlib.Data.List.Infix
import Mathlib.Tactic.Common

namespace Wildcards

/-! ### Pieces -/

/-- What stands for one character. A range whose ends are exchanged holds nothing. -/
inductive CharClass where
  | only (char : Char)
  | any
  | oneOf (negated : Bool) (ranges : List (Char × Char))
  deriving DecidableEq

def CharClass.admits : CharClass → Char → Bool
  | .only char, found => char = found
  | .any, _ => true
  | .oneOf negated ranges, found =>
      (ranges.any fun range => range.1 ≤ found && found ≤ range.2) != negated

inductive Piece where
  | one (kind : CharClass)
  | many
  deriving DecidableEq

/-! ### Reading -/

/-- The ranges of a set. A hyphen between two characters makes a range of them. -/
def ranges : List Char → List (Char × Char)
  | [] => []
  | [char] => [(char, char)]
  | [first, second] => [(first, first), (second, second)]
  | low :: next :: high :: rest =>
      if next = '-' then (low, high) :: ranges rest
      else (low, low) :: ranges (next :: high :: rest)

/-- The characters in front of the closing bracket, and the text behind it. -/
def upToBracket : List Char → Option (List Char × List Char)
  | [] => none
  | char :: rest =>
      if char = ']' then some ([], rest)
      else (upToBracket rest).map fun found => (char :: found.1, found.2)

/-- The members of a set. The first one may itself be a closing bracket. -/
def members : List Char → Option (List Char × List Char)
  | [] => none
  | first :: rest => (upToBracket rest).map fun found => (first :: found.1, found.2)

/-- The set behind an opening bracket, if it is ever closed. -/
def readSet : List Char → Option (CharClass × List Char)
  | '!' :: rest =>
      (members rest).map fun found => (.oneOf true (ranges found.1), found.2)
  | rest => (members rest).map fun found => (.oneOf false (ranges found.1), found.2)

/-- The pieces of a text, of which there are at most as many as it has characters. -/
def readPieces : Nat → List Char → List Piece
  | 0, _ => []
  | _, [] => []
  | bound + 1, char :: rest =>
      if char = '*' then .many :: readPieces bound rest
      else if char = '?' then .one .any :: readPieces bound rest
      else if char = '[' then
        match readSet rest with
        | some (set, later) => .one set :: readPieces bound later
        | none => .one (.only '[') :: readPieces bound rest
      else .one (.only char) :: readPieces bound rest

def pieces (text : List Char) : List Piece := readPieces text.length text

/-! ### Matching -/

def fits : List Piece → List Char → Bool
  | [], name => name.isEmpty
  | .one kind :: pieces, name =>
      match name with
      | [] => false
      | char :: rest => kind.admits char && fits pieces rest
  | .many :: pieces, name => name.tails.any fun rest => fits pieces rest

end Wildcards
