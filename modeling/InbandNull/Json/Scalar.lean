import InbandNull.Json.Number
import InbandNull.Json.Text

/-!
# Scalars

Readers for the values that fields hold: 32-bit integers, booleans, strings, optional strings and
the members of an enumeration. Where another kind of value stands, `mistyped` reads as much of it as
the message shows, so a fault inside it is met first.

A member of an enumeration is written as a string or as an object with that string as its only key
and `null` as its value.
-/

namespace InbandNull.Json

/-- The fault of a value of the wrong kind. -/
def mistyped (expected : String) (cs : List Char) : Fault :=
  let wrong (found : Found) : Fault := .mismatch (.wrongType found expected)
  match cs with
  | [] => .malformed
  | c :: cs =>
    match literalTail? c with
    | some rest =>
      match word rest cs with
      | .error fault => fault
      | .ok _ => wrong (if c = 'n' then .null else .boolean (c = 't'))
    | none =>
      if c = '-' ∨ c.isDigit then
        match number (c :: cs) with
        | .error fault => fault
        | .ok (.integer n, _) => wrong (.integer n)
        | .ok (.float bits, _) => wrong (.float bits)
      else if c = '"' then
        match text cs with
        | .error fault => fault
        | .ok (s, _) => wrong (.string s)
      else if c = '[' then wrong .sequence
      else if c = '\x7b' then wrong .map
      else .malformed

def int32 (cs : List Char) : Except Fault (Int32 × List Char) :=
  match skipBlank cs with
  | [] => .error .truncated
  | c :: cs =>
    if c = '-' ∨ c.isDigit then
      match number (c :: cs) with
      | .error fault => .error fault
      | .ok (.float bits, _) => .error (.mismatch (.wrongType (.float bits) "i32"))
      | .ok (.integer n, cs) =>
        if Int32.minValue.toInt ≤ n ∧ n ≤ Int32.maxValue.toInt then .ok (.ofInt n, cs)
        else .error (.mismatch (.wrongValue n "i32"))
    else .error (mistyped "i32" (c :: cs))

def boolean (cs : List Char) : Except Fault (Bool × List Char) :=
  match skipBlank cs with
  | [] => .error .truncated
  | c :: cs =>
    if c = 't' then (word ['r', 'u', 'e'] cs).map fun cs => (true, cs)
    else if c = 'f' then (word ['a', 'l', 's', 'e'] cs).map fun cs => (false, cs)
    else .error (mistyped "a boolean" (c :: cs))

def string (cs : List Char) : Except Fault (String × List Char) :=
  match skipBlank cs with
  | [] => .error .truncated
  | c :: cs => if c = '"' then text cs else .error (mistyped "a string" (c :: cs))

def optionalString (cs : List Char) : Except Fault (Option String × List Char) :=
  match skipBlank cs with
  | [] => .error .truncated
  | c :: cs =>
    if c = 'n' then (word ['u', 'l', 'l'] cs).map fun cs => (none, cs)
    else (string (c :: cs)).map fun (s, cs) => (some s, cs)

def null (cs : List Char) : Except Fault (List Char) :=
  match skipBlank cs with
  | [] => .error .truncated
  | c :: cs => if c = 'n' then word ['u', 'l', 'l'] cs else .error (mistyped "unit" (c :: cs))

def closingBrace (cs : List Char) : Except Fault (List Char) :=
  match skipBlank cs with
  | [] => .error .truncated
  | c :: cs => if c = '\x7d' then .ok cs else .error .malformed

variable {α : Type}

/-- Reads the name of a member of an enumeration, after its opening quote. The enumeration is given
as its members with their names. -/
def memberName (members : List α) (key : α → String) (cs : List Char) :
    Except Fault (α × List Char) := do
  let (name, cs) ← text cs
  match members.find? fun a => key a == name with
  | some a => .ok (a, cs)
  | none => .error (.mismatch (.unknownVariant name (members.map key)))

def member (members : List α) (key : α → String) (cs : List Char) :
    Except Fault (α × List Char) :=
  match skipBlank cs with
  | [] => .error .truncated
  | c :: cs =>
    if c = '"' then memberName members key cs
    else if c = '\x7b' then do
      let (a, cs) ← memberName members key (← keyQuote cs)
      let cs ← colon cs
      let cs ← null cs
      let cs ← closingBrace cs
      return (a, cs)
    else .error .malformed

end InbandNull.Json
