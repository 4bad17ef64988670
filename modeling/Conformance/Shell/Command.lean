import Conformance.Shell.Octets

/-!
# Shell commands

The commands of a small shell language and the words in them.

## Main definitions

* `Shell.Piece`: what the words of a command are made of
* `Shell.Redirect`: a change of a descriptor
* `Shell.Command`: the commands
-/

namespace Conformance.Shell

/-- What stands for a parameter that is missing, or for one that is there. -/
inductive Substitute where
  /-- The word stands for a missing parameter. -/
  | default
  /-- As `default`, and the parameter is set to it. -/
  | assign
  /-- A missing parameter ends the script with the word for a complaint. -/
  | complain
  /-- The word stands for a parameter that is there. -/
  | alternative
deriving DecidableEq, Repr

/-- What a redirection does with a descriptor. -/
inductive Redirection where
  /-- Read from a file. -/
  | read
  /-- Write to a file, which is emptied. -/
  | write
  /-- Write to the end of a file. -/
  | append
  /-- Lead where another descriptor leads, or nowhere for a hyphen. -/
  | duplicate
  /-- Read the word itself. -/
  | here
deriving DecidableEq, Repr

mutual

/-- A piece of a word. What comes from a quoted piece is never split and is matched literally. -/
inductive Piece where
  /-- Text as it stands. -/
  | text (s : Octets) (quoted : Bool)
  /-- The value of a parameter. -/
  | parameter (name : Octets) (quoted : Bool)
  /-- The length of the value of a parameter. -/
  | length (name : Octets) (quoted : Bool)
  /-- A parameter or a word, according to whether the parameter is there; with `orEmpty`, one
  without a value counts as missing. -/
  | substitute (name : Octets) (kind : Substitute) (orEmpty : Bool) (word : List Piece)
    (quoted : Bool)
  /-- The value of a parameter without what a pattern matches at its start or its end. -/
  | stripped (name : Octets) (atEnd longest : Bool) (pattern : List Piece) (quoted : Bool)
  /-- The output of a command, without line feeds at its end. -/
  | output (command : Command) (quoted : Bool)
  /-- The value of an arithmetic expression. -/
  | arithmetic (expression : List Piece) (quoted : Bool)
  /-- A parameter in a form that does not exist. -/
  | unknown

/-- A change of a descriptor. -/
inductive Redirect where
  | mk (descriptor : Nat) (kind : Redirection) (target : List Piece)

/-- A command. -/
inductive Command where
  /-- Do nothing. -/
  | nothing
  /-- Set variables and run what the words name. The line is the one it stands in. -/
  | simple (line : Nat) (assignments : List (Octets × List Piece)) (words : List (List Piece))
    (redirects : List Redirect)
  /-- One after the other. -/
  | sequence (first second : Command)
  /-- The second only after a success of the first. -/
  | both (first second : Command)
  /-- The second only after a failure of the first. -/
  | either (first second : Command)
  /-- Success for failure and failure for success. -/
  | negation (body : Command)
  /-- The second reads what the first writes. -/
  | pipe (first second : Command)
  /-- Run apart, without an effect on variables. -/
  | subshell (body : Command)
  /-- Run with changed descriptors. -/
  | redirected (body : Command) (redirects : List Redirect)
  /-- One of two commands, by the status of a condition. -/
  | branch (condition yes no : Command)
  /-- A body as long as a condition succeeds, or fails for `negated`. -/
  | loop (negated : Bool) (condition body : Command)
  /-- A body for every one of some words, or of the arguments. -/
  | each (name : Octets) (words : Option (List (List Piece))) (body : Command)
  /-- The command of the first pattern that matches a word. -/
  | choice (subject : List Piece) (cases : List (List (List Piece) × Command))
  /-- Let a name stand for a command. -/
  | definition (name : Octets) (body : Command)

end

end Conformance.Shell
