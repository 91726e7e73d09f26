import InbandNull.Json.Reader

/-!
# Numbers

The grammar of a number is an automaton over its characters, `NumberState.step`; it decides where a
number ends and which texts are none. What a number is worth is computed from its characters
afterwards, in `Number.ofLexeme?`.

* Without fraction and exponent, a number is an integer if it fits an unsigned 64-bit word, or with
  a minus sign a signed one. `-0` is the floating-point number of that sign.
* Any other number is a floating-point one: as many digits as fit an unsigned 64-bit word, scaled by
  a power of ten. The scaling is one multiplication or division where the power has an entry among
  the first 309, and smaller powers are reached by dividing by `10 ^ 308` first. A number too large
  for floating point is malformed.
-/

namespace InbandNull.Json

/-- A number as a document means it. -/
inductive Number where
  | integer (value : Int)
  | float (bits : UInt64)
deriving DecidableEq, Repr

/-- Where a reader stands inside a number, named for what was read last. -/
inductive NumberState where
  /-- Nothing, or a minus sign. -/
  | start
  /-- The only digit of a whole part that begins with zero. -/
  | zero
  | whole
  | point
  | fraction
  /-- The letter before an exponent. -/
  | mark
  /-- The sign of an exponent. -/
  | markSign
  | exponent
deriving DecidableEq, Repr

/-- What one character does to a reader inside a number. -/
inductive NumberStep where
  | next (state : NumberState)
  /-- The number ended before this character. -/
  | stop
  | fault
deriving DecidableEq, Repr

namespace NumberState

def complete : NumberState → Bool
  | .zero | .whole | .fraction | .exponent => true
  | _ => false

def isMark (c : Char) : Bool := c = 'e' ∨ c = 'E'

def step : NumberState → Char → NumberStep
  | .start, c => if c = '0' then .next .zero else if c.isDigit then .next .whole else .fault
  | .zero, c =>
    if c.isDigit then .fault else if c = '.' then .next .point
    else if isMark c then .next .mark else .stop
  | .whole, c =>
    if c.isDigit then .next .whole else if c = '.' then .next .point
    else if isMark c then .next .mark else .stop
  | .point, c => if c.isDigit then .next .fraction else .fault
  | .fraction, c =>
    if c.isDigit then .next .fraction else if isMark c then .next .mark else .stop
  | .mark, c =>
    if c.isDigit then .next .exponent else if c = '+' ∨ c = '-' then .next .markSign else .fault
  | .markSign, c => if c.isDigit then .next .exponent else .fault
  | .exponent, c => if c.isDigit then .next .exponent else .stop

end NumberState

/-- Splits off the characters of a number. -/
def numberFrom : NumberState → Reader (List Char)
  | s, [] => if s.complete then .ok ([], []) else .error .truncated
  | s, c :: cs =>
    match s.step c with
    | .fault => .error .malformed
    | .stop => .ok ([], c :: cs)
    | .next s =>
      match numberFrom s cs with
      | .error fault => .error fault
      | .ok (lexeme, cs) => .ok (c :: lexeme, cs)

/-- The parts of a number, as it is written. -/
structure Numeral where
  negative : Bool
  whole : List Char
  fraction : List Char
  exponent : Option Int
deriving DecidableEq, Repr

def digitsValue (ds : List Char) : Nat :=
  ds.foldl (fun n d => 10 * n + (d.toNat - '0'.toNat)) 0

/-- The value of the digits of an exponent, with an optional sign before them. -/
def exponentValue : List Char → Int
  | '-' :: ds => -digitsValue ds
  | '+' :: ds => digitsValue ds
  | ds => digitsValue ds

/-- Takes the characters of a number apart. -/
def Numeral.ofLexeme (lexeme : List Char) : Numeral :=
  let negative := lexeme.head? == some '-'
  let cs := if negative then lexeme.drop 1 else lexeme
  let rest := cs.dropWhile Char.isDigit
  let (fraction, rest) :=
    match rest with
    | '.' :: rest => (rest.takeWhile Char.isDigit, rest.dropWhile Char.isDigit)
    | rest => ([], rest)
  { negative
    whole := cs.takeWhile Char.isDigit
    fraction
    exponent := if rest.isEmpty then none else some (exponentValue (rest.drop 1)) }

/-- Appends decimal digits to a number while it fits an unsigned 64-bit word. The digits left over
are returned with it. -/
def absorb : Nat → List Char → Nat × List Char
  | n, [] => (n, [])
  | n, d :: ds =>
    let next := 10 * n + (d.toNat - '0'.toNat)
    if next < UInt64.size then absorb next ds else (n, d :: ds)

def powerOfTen (k : Nat) : Float := Float.ofScientific 1 false k

/-- Scales by a power of ten, or answers `none` if the result is too large. -/
def scale? (f : Float) (e : Int) : Option Float :=
  if -308 ≤ e ∧ e < 0 then some (f / powerOfTen e.natAbs)
  else if 0 ≤ e ∧ e ≤ 308 then
    let g := f * powerOfTen e.natAbs
    if g.isInf then none else some g
  else if f == 0 then some f
  else if 0 ≤ e then none
  else scale? (f / powerOfTen 308) (e + 308)
termination_by e.natAbs

/-- What a numeral is worth, or `none` if it is too large. -/
def Numeral.value? (n : Numeral) : Option Number :=
  let (digits, left) := absorb 0 n.whole
  if left.isEmpty ∧ n.fraction.isEmpty ∧ n.exponent.isNone then
    if n.negative then
      if 0 < digits ∧ Int64.minValue.toInt ≤ -digits then some (.integer (-digits))
      else some (.float (-(UInt64.ofNat digits).toFloat).toBits)
    else some (.integer digits)
  else
    let (digits, dropped) := absorb digits n.fraction
    let power : Int :=
      left.length - (n.fraction.length - dropped.length : Nat) + n.exponent.getD 0
    (scale? (UInt64.ofNat digits).toFloat power).map fun f =>
      .float (if n.negative then -f else f).toBits

def Number.ofLexeme? (lexeme : List Char) : Option Number :=
  (Numeral.ofLexeme lexeme).value?

/-- Splits off the characters of a number, from its sign or first digit on. -/
def lexeme : Reader (List Char)
  | '-' :: cs => (numberFrom .start cs).map fun (ds, cs) => ('-' :: ds, cs)
  | cs => numberFrom .start cs

/-- Reads a number, from its sign or first digit on. -/
def number (cs : List Char) : Except Fault (Number × List Char) :=
  match lexeme cs with
  | .error fault => .error fault
  | .ok (ds, cs) =>
    match Number.ofLexeme? ds with
    | none => .error .malformed
    | some n => .ok (n, cs)

end InbandNull.Json
