import Conformance.Pattern.Bracket

/-!
# Reading patterns

The written form of patterns: literals, escapes, classes, groups, alternatives, repetitions and
flags. Reading is done by a machine with a stack of open groups that consumes at least one
character per step. A text that is not written as a pattern is complained about where the machine
stops; only of one that is written as a pattern it is asked whether it nests too deeply, then
whether all of it has a meaning, and last how great its extent is.

## Main definitions

* `readGroups`: the machine
* `Pattern.readTree`: a whole pattern as a tree
* `Pattern.read`: the regular expression of a whole pattern
-/

namespace Conformance

open Text

namespace Pattern

/-! ## Groups -/

/-- The mode with one flag set to a value. -/
def Mode.set? (mode : Mode) (flag : Char) (value : Bool) : Option Mode :=
  match flag with
  | 'i' => some { mode with caseless := value }
  | 'm' => some { mode with multiLine := value }
  | 's' => some { mode with dotAll := value }
  | 'U' => some { mode with swapGreed := value }
  | 'u' => some { mode with unicode := value }
  | 'R' => some { mode with crlf := value }
  | 'x' => some { mode with verbose := value }
  | _ => none

/-- Flags up to a colon or a closing parenthesis, each given once; those behind a hyphen are
cleared, and `dangling` is that hyphen while there are none. Returns the new mode, whether there was
a flag, and the text from the closing mark on. -/
def readFlags (seen : List (Char × Stretch)) (value : Bool) (dangling : Option Stretch)
    (mode : Mode) : List Char → Reading (Mode × Bool)
  | [] => complain .flagMissing [] []
  | c :: cs =>
    let stretch : Stretch := ⟨c :: cs, cs⟩
    if c == ':' || c == ')' then
      match dangling with
      | some stretch => .error { problem := .negationDangling, stretch }
      | none => .ok ((mode, !seen.isEmpty), c :: cs)
    else if c == '-' then
      match seen.lookup c with
      | some earlier => .error { problem := .negationRepeated, stretch, earlier }
      | none => readFlags ((c, stretch) :: seen) false (some stretch) mode cs
    else
      match mode.set? c value with
      | none => .error { problem := .flagUnknown, stretch }
      | some mode =>
        match seen.lookup c with
        | some earlier => .error { problem := .flagRepeated, stretch, earlier }
        | none => readFlags ((c, stretch) :: seen) value none mode cs

/-- A character that may stand in the name of a group, or begin it. -/
def isNameChar (first : Bool) (c : Char) : Bool :=
  if first then isAlphabetic c || c == '_'
  else isAlphanumeric c || "_.[]".toList.contains c

/-- The names of groups, and where they stand. -/
abbrev Names := List (List Char × Stretch)

/-- A group name up to its closing angle bracket, with the characters of it that were read before,
latest first. The text was `start` where it began. -/
def groupName (names : Names) (start : List Char) :
    (before : List Char) → List Char → Reading Names
  | _, [] => complain .nameUnclosed [] []
  | before, c :: cs =>
    if c == '>' then
      let stretch : Stretch := ⟨start, c :: cs⟩
      if before.isEmpty then .error { problem := .nameEmpty, stretch }
      else
        match names.lookup before with
        | some earlier => .error { problem := .nameRepeated, stretch, earlier }
        | none => .ok ((before, stretch) :: names, cs)
    else if isNameChar before.isEmpty c then groupName names start (c :: before) cs
    else complain .nameInvalid (c :: cs) cs

/-- What an opening parenthesis begins. -/
inductive Opening where
  /-- Flags for the rest of the group around. -/
  | flags (mode : Mode)
  /-- A group that does not remember its part, with the mode inside it. -/
  | plain (mode : Mode)
  /-- A group that remembers its part, with the names of the groups so far. -/
  | group (names : Names)

/-- What follows an opening parenthesis: the text is `start` at it and `cs` behind it. Flags alone
must name at least one flag, and looking around is not offered. -/
def readOpening (mode : Mode) (names : Names) (start cs : List Char) :
    Except Complaint (Opening × List Char) :=
  match mode.skip cs with
  | '?' :: '=' :: rest | '?' :: '!' :: rest
  | '?' :: '<' :: '=' :: rest | '?' :: '<' :: '!' :: rest => complain .lookAround start rest
  | '?' :: 'P' :: '<' :: rest | '?' :: '<' :: rest =>
    (groupName names rest [] rest).map fun (names, rest) => (.group names, rest)
  | ['?'] => complain .groupUnclosed start cs
  | '?' :: rest => do
    let ((inner, any), rest') ← readFlags [] true none mode rest
    match rest' with
    | ')' :: behind =>
      if any then return (.flags inner, behind)
      else complain .nothingRepeated ('?' :: rest) ('?' :: rest)
    | _ => return (.plain inner, rest'.drop 1)
  | rest => .ok (.group names, rest)

/-! ## Sequences and alternatives -/

/-- A part of a sequence, where it is written and how it nests. Flags cannot be repeated. -/
structure Piece where
  tree : Tree
  stretch : Stretch
  nesting : Nesting := .flat
  repeatable : Bool := true

/-- Several pieces as one, if they are not one already. -/
def Piece.join (tree : List Tree → Tree) (stretch : Stretch) : List Piece → Piece
  | [] => { tree := .empty, stretch }
  | [p] => p
  | ps =>
    { tree := tree (ps.map Piece.tree)
      stretch
      nesting := .around stretch (ps.map Piece.nesting) }

/-- A group under construction: its mode, its opening parenthesis, whether it remembers what it
matches, the finished alternatives and the pieces of the current one, both latest first. The text was
`content` behind the parenthesis, and `start` where the current alternative begins. -/
structure Level where
  mode : Mode
  opening : Stretch
  content : List Char
  start : List Char := content
  remembers : Bool := false
  alternatives : List Piece := []
  pieces : List Piece := []

/-- Add a piece. -/
def Level.add (l : Level) (p : Piece) : Level :=
  { l with pieces := p :: l.pieces }

/-- Add a tree that is written between two places. -/
def Level.addTree (l : Level) (tree : Tree) (start stop : List Char) : Level :=
  l.add { tree, stretch := ⟨start, stop⟩ }

/-- Begin the next alternative: the text is `stop` where the current one ends, and `next` where the
next one begins. -/
def Level.next (l : Level) (stop next : List Char) : Level :=
  let p := Piece.join .inOrder ⟨l.start, stop⟩ l.pieces.reverse
  { l with alternatives := p :: l.alternatives, pieces := [], start := next }

/-- What stands in the group, which ends where `stop` is left. -/
def Level.close (l : Level) (stop : List Char) : Piece :=
  .join .anyOf ⟨l.content, stop⟩ (l.next stop stop).alternatives.reverse

/-- The whole group as a piece, behind which `rest` is left. -/
def Level.group (l : Level) (stop rest : List Char) : Piece :=
  let p := l.close stop
  let stretch := ⟨l.opening.start, rest⟩
  { tree := if l.remembers then p.tree.group else p.tree
    stretch
    nesting := .around stretch [p.nesting] }

/-- The latest piece, if it can be repeated, and the level without it. -/
def Level.repeated? (l : Level) : Option (Piece × Level) :=
  match l.pieces with
  | p :: ps => if p.repeatable then some (p, { l with pieces := ps }) else none
  | [] => none

/-- The repetition of a piece, behind which `rest` is left. -/
def Piece.times (p : Piece) (least : Nat) (most : Option Nat) (greedy : Bool) (rest : List Char) :
    Piece :=
  let stretch := ⟨p.stretch.start, rest⟩
  { tree := .repeated p.tree least most greedy
    stretch
    nesting := .around stretch [p.nesting] }

/-! ## Repetitions -/

/-- The mark of a lazy repetition: whether the repetition is greedy. -/
def readGreed (mode : Mode) : List Char → Bool × List Char
  | '?' :: rest => (mode.swapGreed, rest)
  | cs => (!mode.swapGreed, cs)

/-- Decimal digits, with the remarks between them skipped. -/
def decimalDigits (mode : Mode) : (fuel : Nat) → List Char → List Char × List Char
  | 0, cs => ([], cs)
  | fuel + 1, cs =>
    match cs with
    | [] => ([], [])
    | c :: rest =>
      if isAsciiDigit c then
        let (ds, rest) := decimalDigits mode fuel (mode.skip rest)
        (c :: ds, rest)
      else ([], c :: rest)

/-- The first count that a repetition may not be written with. -/
def countLimit : Nat := UInt32.size

/-- A decimal count with blanks around it, or what is wrong with it, and the rest of the text. -/
def decimal (mode : Mode) (cs : List Char) : Except Complaint Nat × List Char :=
  let start := trimStart cs
  let (digits, stop) := decimalDigits mode (cs.length + 1) start
  let n := digits.foldl (fun n d => n * 10 + (d.toNat - '0'.toNat)) 0
  let count :=
    if digits.isEmpty then complain .countMissing start stop
    else if countLimit ≤ n then complain .countTooGreat start stop
    else .ok n
  (count, mode.skip (trimStart stop))

/-- The bounds of a counted repetition, up to its closing brace. The text was `brace` at the opening
one and is `cs` behind it. -/
def readBounds (mode : Mode) (brace cs : List Char) :
    Except Complaint ((Nat × Option Nat) × List Char) :=
  let unclosed := complain .countUnclosed brace []
  match mode.skip cs with
  | [] => unclosed
  | cs =>
    let (least, rest) := decimal mode cs
    match rest with
    | [] => unclosed
    | ',' :: rest =>
      match mode.skip rest with
      | [] => unclosed
      | '}' :: rest => do return ((← least, none), '}' :: rest)
      | rest => do
        let least ← least
        let (most, rest) := decimal mode rest
        return ((least, some (← most)), rest)
    | rest => do
      let least ← least
      return ((least, some least), rest)

/-- A counted repetition: its bounds, and whether it is greedy. The text was `brace` at the opening
brace and is `cs` behind it. -/
def readCount (mode : Mode) (brace cs : List Char) :
    Except Complaint ((Nat × Option Nat × Bool) × List Char) := do
  let ((least, most), rest) ← readBounds mode brace cs
  match rest with
  | '}' :: rest =>
    let (greedy, behind) := readGreed mode (mode.skip rest)
    if most.all (least ≤ ·) then return ((least, most, greedy), behind)
    else complain .countsReversed brace behind
  | rest => complain .countUnclosed brace rest

/-- The marks of repetitions: their bounds, and whether they are greedy. -/
def readRepetition (mode : Mode) (cs : List Char) : Option (Reading (Nat × Option Nat × Bool)) :=
  let marked (least : Nat) (most : Option Nat) (rest : List Char) :=
    let (greedy, rest) := readGreed mode rest
    .ok ((least, most, greedy), rest)
  match cs with
  | '?' :: rest => some (marked 0 (some 1) rest)
  | '*' :: rest => some (marked 0 none rest)
  | '+' :: rest => some (marked 1 none rest)
  | '{' :: rest => some (readCount mode cs rest)
  | _ => none

/-! ## The machine -/

/-- The smallest parts of a sequence: a tree or what is wrong with its meaning. -/
def readAtom (mode : Mode) : List Char → Reading (Except Problem Tree)
  | [] => complain .escapeUnfinished [] []
  | '\\' :: rest => (escape mode rest).map fun (atom, rest) => (mode.tree atom, rest)
  | '.' :: rest => .ok (mode.dot, rest)
  | '^' :: rest => .ok (.ok (.anchor mode.lineStart), rest)
  | '$' :: rest => .ok (.ok (.anchor mode.lineEnd), rest)
  | c :: rest => .ok (mode.tree (.char c false), rest)

/-- The machine that reads a pattern: `outer` holds the groups around the current one, `names` the
group names seen so far, and `wrong` the first complaint about a meaning. -/
def readGroups : (fuel : Nat) → (wrong : Option Complaint) → (outer : List Level) →
    (names : Names) → Level → List Char → Except Complaint (Piece × Option Complaint)
  | 0, _, _, _, l, _ => complain .groupUnclosed l.opening.start l.opening.stop
  | fuel + 1, wrong, outer, names, l, cs =>
    match l.mode.skip cs with
    | [] =>
      if outer.isEmpty then .ok (l.close [], wrong)
      else complain .groupUnclosed l.opening.start l.opening.stop
    | '(' :: rest => do
      let (opening, content) ← readOpening l.mode names ('(' :: rest) rest
      let inner : Level := { mode := l.mode, opening := ⟨'(' :: rest, rest⟩, content }
      match opening with
      | .flags mode =>
        let p := { tree := .empty, stretch := ⟨'(' :: rest, content⟩, repeatable := false }
        readGroups fuel wrong outer names { l.add p with mode } content
      | .plain mode => readGroups fuel wrong (l :: outer) names { inner with mode } content
      | .group names =>
        readGroups fuel wrong (l :: outer) names { inner with remembers := true } content
    | ')' :: rest =>
      match outer with
      | [] => complain .groupUnopened (')' :: rest) rest
      | o :: outer => readGroups fuel wrong outer names (o.add (l.group (')' :: rest) rest)) rest
    | '|' :: rest => readGroups fuel wrong outer names (l.next ('|' :: rest) rest) rest
    | '[' :: rest => do
      let ((operand, wrong'), behind) ← readClass l.mode ('[' :: rest) rest
      let p := { tree := .ofClass operand.set, stretch := operand.stretch,
                 nesting := operand.nesting }
      readGroups fuel (wrong.or wrong') outer names (l.add p) behind
    | cs =>
      match readRepetition l.mode cs with
      | some reading =>
        match l.repeated? with
        | none => complain .nothingRepeated cs cs
        | some (p, l) => do
          let ((least, most, greedy), rest) ← reading
          readGroups fuel wrong outer names (l.add (p.times least most greedy rest)) rest
      | none => do
        match ← readAtom l.mode cs with
        | (.ok tree, rest) => readGroups fuel wrong outer names (l.addTree tree cs rest) rest
        | (.error problem, rest) =>
          let complaint := { problem, stretch := ⟨cs, rest⟩ }
          readGroups fuel (wrong.or (some complaint)) outer names (l.addTree .empty cs rest) rest

/-- What a text is read as, without regard to its extent. -/
def readPiece (source : List Char) : Except Complaint Piece := do
  let whole : Level := { mode := {}, opening := ⟨source, source⟩, content := source }
  let (p, wrong) ← readGroups (source.length + 1) none [] [] whole source
  match p.nesting 0 with
  | some stretch => .error { problem := .nestedTooDeeply nestLimit, stretch }
  | none =>
    match wrong with
    | some complaint => .error complaint
    | none => return p

/-- The tree of a pattern, or why the text is none. -/
def readTree (source : List Char) : Except Error Tree :=
  match readPiece source with
  | .error complaint => .error (complaint.error source)
  | .ok p => if p.tree.fits then .ok p.tree else .error (.tooLarge extentLimit)

/-- What is complained about is the text that was to be read. -/
theorem tooLarge_or_malformed_of_readTree {source : List Char} {err : Error}
    (h : readTree source = .error err) :
    err = .tooLarge extentLimit ∨
      ∃ problem spans, err = .malformed (String.ofList source) problem spans ∧
        spans.Pairwise (Span.precedes · ·) := by
  unfold readTree at h
  split at h
  · next c _ =>
    obtain ⟨spans, heq, hordered⟩ := c.error_eq_malformed source
    obtain rfl := Except.error.inj h
    exact .inr ⟨c.problem, spans, heq, hordered⟩
  · split at h
    · cases h
    · exact .inl (Except.error.inj h).symm

/-- The regular expression that a text denotes as a pattern, or why it is no pattern. -/
def read (source : List Char) : Except Error (Regular Char) :=
  (readTree source).map Tree.expr

end Pattern

end Conformance
