import Conformance.Shell.Octets
import Conformance.Text.Alphanumeric

/-!
# Arithmetic expressions

The integer expressions of scripts, with the operators and the precedence of C, on numbers of 64
bits. An expression may set variables; what it does not evaluate has no effect and makes no mistake.

## Main definitions

* `Shell.Arithmetic.tokens`: the signs, numbers and names of an expression
* `Shell.Arithmetic.evaluate`: the value of an expression, and the variables that it sets
-/

namespace Conformance.Shell.Arithmetic

open Text

/-! ## Tokens -/

/-- A part of an expression. -/
inductive Token where
  | number (n : Int64)
  | name (s : Octets)
  | sign (s : String)
deriving DecidableEq

/-- The number of 64 bits that is nearest to a number. -/
def saturate (n : Int) : Int64 :=
  if n < Int64.minValue.toInt then Int64.minValue
  else if Int64.maxValue.toInt < n then Int64.maxValue
  else Int64.ofInt n

/-- The value of a hexadecimal digit. -/
def hexValue? (c : Char) : Option Nat :=
  if isAsciiDigit c then some (c.toNat - '0'.toNat)
  else if 'a' ≤ c.toLower && c.toLower ≤ 'f' then some (c.toLower.toNat - 'a'.toNat + 10)
  else none

/-- The number at the start of a text that begins with a digit, and what follows it: hexadecimal
behind `0x`, octal behind a zero, else decimal. -/
def takeNumber (cs : Octets) : Nat × Octets :=
  let hexadecimal := match cs with
    | '0' :: x :: rest => if x == 'x' || x == 'X' then rest.takeWhile (hexValue? · |>.isSome) else []
    | _ => []
  if !hexadecimal.isEmpty then
    ((hexadecimal.filterMap hexValue?).foldl (fun n d => n * 16 + d) 0,
      cs.drop (hexadecimal.length + 2))
  else
    let base := if cs.head? == some '0' then 8 else 10
    let digits := cs.takeWhile fun c => '0' ≤ c && c.toNat < '0'.toNat + base
    (Octets.digitsValue base digits, cs.drop digits.length)

/-- The signs of several bytes, the longer ones first. -/
def longSigns : List String :=
  ["<<=", ">>=", "||", "&&", "==", "!=", "<=", ">=", "<<", ">>", "+=", "-=", "*=", "/=", "%=", "&=",
   "|=", "^="]

/-- The tokens of an expression, at most as many as there is fuel. -/
def tokens : (fuel : Nat) → Octets → List Token
  | 0, _ => []
  | _, [] => []
  | fuel + 1, c :: cs =>
    if c = ' ' ∨ c = '\t' ∨ c = '\n' then tokens fuel cs
    else if isAsciiDigit c then
      let (n, rest) := takeNumber (c :: cs)
      .number (saturate n) :: tokens fuel rest
    else if isAsciiLetter c || c == '_' then
      let name := (c :: cs).takeWhile fun c => isAsciiDigit c || isAsciiLetter c || c == '_'
      .name name :: tokens fuel ((c :: cs).drop name.length)
    else
      match longSigns.find? fun sign => sign.toList.isPrefixOf (c :: cs) with
      | some sign => .sign sign :: tokens fuel ((c :: cs).drop sign.length)
      | none => .sign (String.ofList [c]) :: tokens fuel cs

/-! ## Values -/

/-- A number that a variable holds, with blanks around it; nothing is zero. -/
def valueOf? (text : Octets) : Option Int64 :=
  let isSpace (c : Char) := c == ' ' || (9 ≤ c.toNat && c.toNat ≤ 13)
  let text := text.dropWhile isSpace
  let (negative, digits) := match text with
    | '-' :: rest => (true, rest)
    | '+' :: rest => (false, rest)
    | rest => (false, rest)
  let (n, rest) := takeNumber digits
  let value : Int := if negative then -n else n
  if text.isEmpty then some 0
  else if !digits.head?.any isAsciiDigit || !rest.all isSpace then none
  else if (saturate value).toInt = value then some (saturate value)
  else none

/-- The binary operators, the weakest first. -/
def levels : List (List String) :=
  [["||"], ["&&"], ["|"], ["^"], ["&"], ["==", "!="], ["<=", ">=", "<", ">"], ["<<", ">>"],
   ["+", "-"], ["*", "/", "%"]]

/-- The number for a truth value. -/
def truth (b : Bool) : Int64 :=
  if b then 1 else 0

/-- The value of a binary operation; none for a division by zero. -/
def apply (operator : String) (a b : Int64) : Option Int64 :=
  match operator with
  | "||" => some (truth (a != 0 || b != 0))
  | "&&" => some (truth (a != 0 && b != 0))
  | "|" => some (a ||| b)
  | "^" => some (a ^^^ b)
  | "&" => some (a &&& b)
  | "==" => some (truth (a == b))
  | "!=" => some (truth (a != b))
  | "<=" => some (truth (a ≤ b))
  | ">=" => some (truth (b ≤ a))
  | "<" => some (truth (a < b))
  | ">" => some (truth (b < a))
  | "<<" => some (a <<< b)
  | ">>" => some (a >>> b)
  | "+" => some (a + b)
  | "-" => some (a - b)
  | "*" => some (a * b)
  | "/" => if b = 0 then none else some (a / b)
  | "%" => if b = 0 then none else some (a % b)
  | _ => none

/-- The binary operation that an assignment carries out first; an empty text for none. -/
def assignment? (sign : String) : Option String :=
  if sign = "=" then some ""
  else if ["+=", "-=", "*=", "/=", "%=", "&=", "|=", "^=", "<<=", ">>="].contains sign then
    some (String.ofList sign.toList.dropLast)
  else none

/-- What is wrong with an expression. -/
inductive Mistake where
  /-- Something else should come next. -/
  | expecting (what : String)
  | divisionByZero
  /-- A variable holds no number. -/
  | badNumber (text : Octets)
deriving DecidableEq

/-- Where an evaluation stands: the tokens left, and the variables set, the latest first. -/
structure Point where
  tokens : List Token
  assigned : List (Octets × Int64) := []

/-- A value, and where the evaluation goes on. -/
abbrev Evaluation := Except Mistake (Int64 × Point)

/-- The value of a variable. -/
def valueAt (value? : Octets → Option Octets) (p : Point) (name : Octets) : Except Mistake Int64 :=
  match p.assigned.lookup name with
  | some v => .ok v
  | none =>
    let text := (value? name).getD []
    match valueOf? text with
    | some v => .ok v
    | none => .error (.badNumber text)

mutual

/-- The value of an operand; nothing is evaluated if `idle`. -/
def operand (value? : Octets → Option Octets) : (fuel : Nat) → (idle : Bool) → Point → Evaluation
  | 0, _, _ => .error (.expecting "primary")
  | n + 1, idle, p =>
    match p.tokens with
    | .number v :: rest => .ok (v, { p with tokens := rest })
    | .name name :: rest => do
      let v ← if idle then .ok 0 else valueAt value? p name
      .ok (v, { p with tokens := rest })
    | .sign "(" :: rest => do
      let (v, p) ← assignment value? n idle { p with tokens := rest }
      match p.tokens with
      | .sign ")" :: rest => .ok (v, { p with tokens := rest })
      | _ => .error (.expecting "')'")
    | .sign sign :: rest => do
      let apply ← match sign with
        | "-" => .ok (- ·)
        | "+" => .ok id
        | "!" => .ok fun v => truth (v == 0)
        | "~" => .ok (~~~ ·)
        | _ => .error (.expecting "primary")
      let (v, p) ← operand value? n idle { p with tokens := rest }
      .ok (apply v, p)
    | [] => .error (.expecting "primary")

/-- The value of operations of a level and of those that bind tighter. -/
def operation (value? : Octets → Option Octets) : (fuel : Nat) → List (List String) →
    (idle : Bool) → Point → Evaluation
  | 0, _, _, _ => .error (.expecting "primary")
  | n + 1, [], idle, p => operand value? n idle p
  | n + 1, operators :: tighter, idle, p => do
    let (v, p) ← operation value? n tighter idle p
    operations value? n operators tighter idle v p

/-- The value of further operations of a level on a value. The second operand of a conjunction or a
disjunction that is already decided is not evaluated. -/
def operations (value? : Octets → Option Octets) : (fuel : Nat) → List String →
    List (List String) → (idle : Bool) → Int64 → Point → Evaluation
  | 0, _, _, _, _, _ => .error (.expecting "primary")
  | n + 1, operators, tighter, idle, v, p =>
    match p.tokens with
    | .sign sign :: rest =>
      if operators.contains sign then do
        let decided := (sign == "&&" && v == 0) || (sign == "||" && v != 0)
        let (w, p) ← operation value? n tighter (idle || decided) { p with tokens := rest }
        match apply sign v w with
        | some v => operations value? n operators tighter idle v p
        | none =>
          if idle then operations value? n operators tighter idle 0 p else .error .divisionByZero
      else .ok (v, p)
    | _ => .ok (v, p)

/-- The value of a choice between two expressions, or of operations. -/
def choice (value? : Octets → Option Octets) : (fuel : Nat) → (idle : Bool) → Point → Evaluation
  | 0, _, _ => .error (.expecting "primary")
  | n + 1, idle, p => do
    let (v, p) ← operation value? n levels idle p
    match p.tokens with
    | .sign "?" :: rest =>
      let (yes, p) ← assignment value? n (idle || v == 0) { p with tokens := rest }
      match p.tokens with
      | .sign ":" :: rest =>
        let (no, p) ← choice value? n (idle || v != 0) { p with tokens := rest }
        .ok (if v != 0 then yes else no, p)
      | _ => .error (.expecting "':'")
    | _ => .ok (v, p)

/-- The value of an expression, which may be given to a variable. -/
def assignment (value? : Octets → Option Octets) : (fuel : Nat) → (idle : Bool) → Point →
    Evaluation
  | 0, _, _ => .error (.expecting "primary")
  | n + 1, idle, p =>
    match p.tokens with
    | .name name :: .sign sign :: rest =>
      match assignment? sign with
      | none => choice value? n idle p
      | some operator => do
        let (v, p) ← assignment value? n idle { p with tokens := rest }
        if idle then .ok (v, p)
        else if operator = "" then .ok (v, { p with assigned := (name, v) :: p.assigned })
        else
          let old ← valueAt value? p name
          match apply operator old v with
          | some v => .ok (v, { p with assigned := (name, v) :: p.assigned })
          | none => .error .divisionByZero
    | _ => choice value? n idle p

end

/-- The value of an expression in which names have values, with the variables that it sets, the
latest first. -/
def evaluate (value? : Octets → Option Octets) (expression : Octets) :
    Except Mistake (Int64 × List (Octets × Int64)) :=
  let ts := tokens expression.length expression
  match assignment value? (16 * ts.length + 16) false ⟨ts, []⟩ with
  | .error mistake => .error mistake
  | .ok (v, ⟨[], assigned⟩) => .ok (v, assigned)
  | .ok _ => .error (.expecting "EOF")

/-- The wording of a mistake in an expression. -/
def Mistake.message (expression : Octets) : Mistake → Octets
  | expecting what =>
    ("arithmetic expression: expecting " ++ what ++ ": \"").toList ++ expression ++ ['"']
  | divisionByZero =>
    "arithmetic expression: division by zero: \"".toList ++ expression ++ ['"']
  | badNumber text => "Illegal number: ".toList ++ text

end Conformance.Shell.Arithmetic
