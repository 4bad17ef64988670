import Conformance.Shell.Octets

/-!
# Shell wildcards

Patterns for whole words: `*` for any text, `?` for any byte, brackets for a class of bytes, and a
backslash before a byte that is to be taken literally.

## Main definitions

* `Shell.Wildcard`, `Shell.readWildcards`: an element of a pattern, and the pattern of a text
* `Shell.matchesWildcards`: a text matches as a whole
* `Shell.strip`: a text without a part that matches
-/

namespace Conformance.Shell

/-- An element of a pattern. -/
inductive Wildcard where
  | literal (c : Char)
  | any
  | star
  | range (negated : Bool) (ranges : List (Char × Char))
deriving DecidableEq, Repr

/-- The ranges in brackets and what stands behind the closing one. -/
def readRanges : Octets → Option (List (Char × Char) × Octets)
  | [] => none
  | ']' :: rest => some ([], rest)
  | lo :: '-' :: ']' :: rest => some ([(lo, lo), ('-', '-')], rest)
  | lo :: '-' :: hi :: rest => (readRanges rest).map fun (r, s) => ((lo, hi) :: r, s)
  | c :: rest => (readRanges rest).map fun (r, s) => ((c, c) :: r, s)

/-- A class in brackets, behind the opening one. A closing bracket that comes first is a member. -/
def readClass (s : Octets) : Option (Wildcard × Octets) :=
  let (negated, s) := match s with
    | '!' :: rest => (true, rest)
    | '^' :: rest => (true, rest)
    | rest => (false, rest)
  match s with
  | ']' :: rest =>
    (readRanges rest).map fun (r, rest) => (.range negated ((']', ']') :: r), rest)
  | _ => (readRanges s).map fun (r, rest) => (.range negated r, rest)

/-- The pattern of a text, an element for every unit of `fuel`. A bracket that is not closed stands
for itself. -/
def wildcardsOf : (fuel : Nat) → Octets → List Wildcard
  | 0, _ => []
  | _, [] => []
  | fuel + 1, c :: rest =>
    match c, rest with
    | '\\', d :: rest => .literal d :: wildcardsOf fuel rest
    | '*', _ => .star :: wildcardsOf fuel rest
    | '?', _ => .any :: wildcardsOf fuel rest
    | '[', _ =>
      match readClass rest with
      | some (w, rest) => w :: wildcardsOf fuel rest
      | none => .literal '[' :: wildcardsOf fuel rest
    | c, _ => .literal c :: wildcardsOf fuel rest

/-- The pattern of a text. -/
def readWildcards (s : Octets) : List Wildcard :=
  wildcardsOf s.length s

/-- The byte is in one of the ranges. -/
def inRanges (ranges : List (Char × Char)) (c : Char) : Bool :=
  ranges.any fun (lo, hi) => lo ≤ c && c ≤ hi

/-- The whole text matches. -/
def matchesWildcards : List Wildcard → Octets → Bool
  | [], s => s.isEmpty
  | .literal c :: ws, s =>
    match s with
    | [] => false
    | d :: s => c == d && matchesWildcards ws s
  | .any :: ws, s =>
    match s with
    | [] => false
    | _ :: s => matchesWildcards ws s
  | .range negated ranges :: ws, s =>
    match s with
    | [] => false
    | d :: s => (inRanges ranges d != negated) && matchesWildcards ws s
  | .star :: ws, s => (List.range (s.length + 1)).any fun n => matchesWildcards ws (s.drop n)

/-- The text without the shortest or the longest part at its start or its end that matches. -/
def strip (atEnd longest : Bool) (pattern : List Wildcard) (s : Octets) : Octets :=
  let lengths := List.range (s.length + 1)
  let order := if longest then lengths.reverse else lengths
  let found := order.find? fun n =>
    matchesWildcards pattern (if atEnd then s.drop (s.length - n) else s.take n)
  match found with
  | none => s
  | some n => if atEnd then s.take (s.length - n) else s.drop n

end Conformance.Shell
