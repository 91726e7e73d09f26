import InbandNull.Json.Reader

/-!
# Strings

A string is read by an automaton, `TextState.step`, from the character after its opening quote. It
has one switch: a string whose value is wanted must pair its surrogate escapes, one that is only
skipped need not.

A `\u` escape takes four hexadecimal digits. The four are counted in bytes: if fewer are left, the
text ended early, whatever they are; otherwise one that is no digit makes the text malformed.

`quote` writes a string. It escapes what must be escaped and nothing else.
-/

namespace InbandNull.Json

def hexDigit? (c : Char) : Option Nat :=
  if '0' ≤ c ∧ c ≤ '9' then some (c.toNat - '0'.toNat)
  else if 'a' ≤ c ∧ c ≤ 'f' then some (c.toNat - 'a'.toNat + 10)
  else if 'A' ≤ c ∧ c ≤ 'F' then some (c.toNat - 'A'.toNat + 10)
  else none

/-- The character that an escape of one letter stands for. -/
def escape? : Char → Option Char
  | '"' => some '"'
  | '\\' => some '\\'
  | '/' => some '/'
  | 'b' => some '\x08'
  | 'f' => some '\x0c'
  | 'n' => some '\n'
  | 'r' => some '\r'
  | 't' => some '\t'
  | _ => none

def isHighSurrogate (n : Nat) : Bool := 0xD800 ≤ n ∧ n ≤ 0xDBFF

def isLowSurrogate (n : Nat) : Bool := 0xDC00 ≤ n ∧ n ≤ 0xDFFF

/-- Where a reader stands inside a string. The high half of a surrogate pair is carried along until
its low half is read. -/
inductive TextState where
  | plain
  /-- A backslash was read. -/
  | escape
  /-- `seen` bytes of a code were read; `hex` says whether all of them were digits. -/
  | code (high : Option Nat) (seen value : Nat) (hex : Bool)
  /-- A high half was read, and the escape of its low half must follow. -/
  | low (high : Nat)
  /-- The backslash of that escape was read. -/
  | lowMark (high : Nat)
deriving DecidableEq, Repr

/-- What one character does to a reader inside a string. -/
inductive TextStep where
  | next (state : TextState) (out : Option Char)
  | close
deriving DecidableEq, Repr

/-- What the four digits of a code do, with `value` their value. -/
def TextState.finishCode (paired : Bool) (high : Option Nat) (value : Nat) :
    Except Fault TextStep :=
  if paired then
    match high with
    | none =>
      if isLowSurrogate value then .error .malformed
      else if isHighSurrogate value then .ok (.next (.low value) none)
      else .ok (.next .plain (some (Char.ofNat value)))
    | some h =>
      if isLowSurrogate value then
        .ok (.next .plain (some (Char.ofNat (0x10000 + (h - 0xD800) * 0x400 + (value - 0xDC00)))))
      else .error .malformed
  else .ok (.next .plain none)

/-- Reads one character of a string. With `paired`, a surrogate half without the other is a fault.
-/
def TextState.step (paired : Bool) : TextState → Char → Except Fault TextStep
  | .plain, c =>
    if c = '"' then .ok .close
    else if c = '\\' then .ok (.next .escape none)
    else if c.toNat < 0x20 then .error .malformed
    else .ok (.next .plain (some c))
  | .escape, c =>
    if c = 'u' then .ok (.next (.code none 0 0 true) none)
    else
      match escape? c with
      | some e => .ok (.next .plain (some e))
      | none => .error .malformed
  | .code high seen value hex, c =>
    let seen := seen + c.utf8Size
    let value := 16 * value + (hexDigit? c).getD 0
    let hex := hex && (hexDigit? c).isSome
    if seen < 4 then .ok (.next (.code high seen value hex) none)
    else if hex then finishCode paired high value
    else .error .malformed
  | .low high, c => if c = '\\' then .ok (.next (.lowMark high) none) else .error .malformed
  | .lowMark high, c =>
    if c = 'u' then .ok (.next (.code (some high) 0 0 true) none) else .error .malformed

/-- Reads the rest of a string, up to and including its closing quote. -/
def textFrom : TextState → Reader (List Char)
  | _, [] => .error .truncated
  | s, c :: cs =>
    match s.step true c with
    | .error fault => .error fault
    | .ok .close => .ok ([], cs)
    | .ok (.next s out) =>
      match textFrom s cs with
      | .error fault => .error fault
      | .ok (rest, cs) => .ok (out.toList ++ rest, cs)

/-- Reads a string whose opening quote has been read. -/
def text (cs : List Char) : Except Fault (String × List Char) :=
  (textFrom .plain cs).map fun (s, cs) => (String.ofList s, cs)

def quoteChar (c : Char) : List Char :=
  if c = '"' then ['\\', '"']
  else if c = '\\' then ['\\', '\\']
  else if c = '\x08' then ['\\', 'b']
  else if c = '\x0c' then ['\\', 'f']
  else if c = '\n' then ['\\', 'n']
  else if c = '\r' then ['\\', 'r']
  else if c = '\t' then ['\\', 't']
  else if c.toNat < 0x20 then
    ['\\', 'u', '0', '0', Nat.digitChar (c.toNat / 16), Nat.digitChar (c.toNat % 16)]
  else [c]

def quote (s : String) : String :=
  String.ofList ('"' :: s.toList.flatMap quoteChar ++ ['"'])

end InbandNull.Json
