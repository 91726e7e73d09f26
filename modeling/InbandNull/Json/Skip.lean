import InbandNull.Json.Number
import InbandNull.Json.Text

/-!
# Skipping a value

The value of a member that no reader asked for is skipped, whatever its depth: `skipFrom` runs an
automaton over its characters that keeps the open lists and objects on a stack. A skipped number has
no size limit, and one that the document ends in the middle of is malformed.
-/

namespace InbandNull.Json

inductive Frame where
  | list
  | object
deriving DecidableEq, Repr

/-- What a reader that skips a value expects next. -/
inductive SkipState where
  | value
  /-- Just inside a list: its end or a value. -/
  | firstElement
  /-- Just inside an object: its end or a key. -/
  | firstKey
  /-- After a comma in an object: a key. -/
  | key
  | colon
  /-- After a value: a comma, or the end of what encloses it. -/
  | after
  | word (rest : List Char)
  | number (state : NumberState)
  | text (state : TextState) (isKey : Bool)
deriving DecidableEq, Repr

/-- What one character does to a reader that skips a value. -/
inductive SkipStep where
  | next (state : SkipState) (frames : List Frame)
  /-- The value ended with this character. -/
  | close
  /-- The value ended before this character. -/
  | stop
deriving DecidableEq, Repr

namespace SkipState

/-- What the last character of a value leads to. -/
def finish : List Frame → SkipStep
  | [] => .close
  | frames => .next .after frames

def afterValue : List Frame → Char → Except Fault SkipStep
  | [], _ => .ok .stop
  | .list :: frames, c =>
    if isBlank c then .ok (.next .after (.list :: frames))
    else if c = ',' then .ok (.next .value (.list :: frames))
    else if c = ']' then .ok (finish frames)
    else .error .malformed
  | .object :: frames, c =>
    if isBlank c then .ok (.next .after (.object :: frames))
    else if c = ',' then .ok (.next .key (.object :: frames))
    else if c = '\x7d' then .ok (finish frames)
    else .error .malformed

def beginValue (frames : List Frame) (c : Char) : Except Fault SkipStep :=
  if c = '"' then .ok (.next (.text .plain false) frames)
  else if c = '[' then .ok (.next .firstElement (.list :: frames))
  else if c = '\x7b' then .ok (.next .firstKey (.object :: frames))
  else if c = '-' then .ok (.next (.number .start) frames)
  else
    match literalTail? c with
    | some rest => .ok (.next (.word rest) frames)
    | none =>
      match NumberState.start.step c with
      | .next s => .ok (.next (.number s) frames)
      | _ => .error .malformed

/-- Reads one character while skipping a value inside the given frames. -/
def step : SkipState → List Frame → Char → Except Fault SkipStep
  | .value, frames, c => if isBlank c then .ok (.next .value frames) else beginValue frames c
  | .firstElement, frames, c =>
    if isBlank c then .ok (.next .firstElement frames)
    else if c = ']' then .ok (finish frames.tail)
    else beginValue frames c
  | .firstKey, frames, c =>
    if isBlank c then .ok (.next .firstKey frames)
    else if c = '\x7d' then .ok (finish frames.tail)
    else if c = '"' then .ok (.next (.text .plain true) frames)
    else .error .malformed
  | .key, frames, c =>
    if isBlank c then .ok (.next .key frames)
    else if c = '"' then .ok (.next (.text .plain true) frames)
    else .error .malformed
  | .colon, frames, c =>
    if isBlank c then .ok (.next .colon frames)
    else if c = ':' then .ok (.next .value frames)
    else .error .malformed
  | .after, frames, c => afterValue frames c
  | .word [], frames, c => afterValue frames c
  | .word (w :: ws), frames, c =>
    if c ≠ w then .error .malformed
    else if ws.isEmpty then .ok (finish frames)
    else .ok (.next (.word ws) frames)
  | .number s, frames, c =>
    match s.step c with
    | .next s => .ok (.next (.number s) frames)
    | .stop => afterValue frames c
    | .fault => .error .malformed
  | .text s isKey, frames, c =>
    match s.step false c with
    | .error fault => .error fault
    | .ok (.next s _) => .ok (.next (.text s isKey) frames)
    | .ok .close => .ok (if isKey then .next .colon frames else finish frames)

end SkipState

/-- Reads on to the end of a value that is skipped. -/
def skipFrom : SkipState → List Frame → List Char → Except Fault (List Char)
  | .number s, [], [] => if s.complete then .ok [] else .error .malformed
  | .number s, _ :: _, [] => .error (if s.complete then .truncated else .malformed)
  | _, _, [] => .error .truncated
  | s, frames, c :: cs =>
    match s.step frames c with
    | .error fault => .error fault
    | .ok (.next s frames) => skipFrom s frames cs
    | .ok .close => .ok cs
    | .ok .stop => .ok (c :: cs)

def skipValue (cs : List Char) : Except Fault (List Char) :=
  skipFrom .value [] cs

end InbandNull.Json
