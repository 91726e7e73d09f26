import InbandNull.Json.Scalar
import InbandNull.Json.Skip

/-!
# Records

A record is written as an object, with its fields as members in any order and other members skipped,
or as a list of its fields in their order of declaration. Both fill a draft: a `Shape` says which
fields there are, how each is read into the draft, and whether the draft may go without it.

In an object a field may stand only once, and those left out are looked for when it ends. A list may
end before fields that the draft can go without; what is left out is looked for there and then.
-/

namespace InbandNull.Json

/-- A field of a record whose draft is a `δ`. -/
structure Field (δ : Type) where
  name : String
  required : Bool
  isSet : δ → Bool
  read : δ → Reader δ

/-- The field that is kept in one component of a draft. -/
def Field.of {δ β : Type} (name : String) (required : Bool) (read : Reader β)
    (get : δ → Option β) (set : δ → β → δ) : Field δ where
  name
  required
  isSet := fun d => (get d).isSome
  read := fun d cs => (read cs).map fun (v, cs) => (set d v, cs)

/-- The description of a record in messages, and its fields in order. -/
structure Shape (δ : Type) where
  title : String
  fields : List (Field δ)

variable {δ : Type}

/-- Reads on to the next key of an object, or to its end. -/
def nextKey (first : Bool) (cs : List Char) : Except Fault (Option String × List Char) :=
  match skipBlank cs with
  | [] => .error .truncated
  | c :: cs =>
    if c = '\x7d' then .ok (none, cs)
    else if first then
      if c = '"' then (text cs).map fun (key, cs) => (some key, cs) else .error .malformed
    else if c = ',' then do
      let (key, cs) ← text (← keyQuote cs)
      return (some key, cs)
    else .error .malformed

/-- Reads on to the next element of a list. At its end the answer is `none`, and the bracket stays.
-/
def nextElement (first : Bool) (cs : List Char) : Except Fault (Option (List Char)) :=
  match skipBlank cs with
  | [] => .error .truncated
  | c :: cs =>
    if c = ']' then .ok none
    else if first then .ok (some (c :: cs))
    else if c = ',' then
      match skipBlank cs with
      | [] => .error .truncated
      | c :: cs => if c = ']' then .error .malformed else .ok (some (c :: cs))
    else .error .malformed

/-- Reads the end of a list whose elements have all been read. -/
def closingBracket (cs : List Char) : Except Fault (List Char) :=
  match skipBlank cs with
  | [] => .error .truncated
  | c :: cs => if c = ']' then .ok cs else .error .malformed

namespace Shape

/-- The first field that a draft must have and has not. -/
def missing? (s : Shape δ) (d : δ) : Option String :=
  (s.fields.find? fun f => f.required && !f.isSet d).map Field.name

/-- Reads the members of an object into a draft. Each step reads at least the quotes of a key, so
the length of the text bounds their number. -/
def members (s : Shape δ) : Nat → Bool → δ → Reader δ
  | 0, _, _, _ => .error .malformed
  | fuel + 1, first, d, cs =>
    match nextKey first cs with
    | .error fault => .error fault
    | .ok (none, cs) =>
      match s.missing? d with
      | some name => .error (.mismatch (.missingField name))
      | none => .ok (d, cs)
    | .ok (some key, cs) =>
      match s.fields.find? fun f => f.name == key with
      | some f =>
        if f.isSet d then .error (.mismatch (.duplicateField key))
        else do
          let cs ← colon cs
          let (d, cs) ← f.read d cs
          s.members fuel false d cs
      | none => do
        let cs ← colon cs
        let cs ← skipValue cs
        s.members fuel false d cs

/-- Reads the elements of a list into a draft, with `index` the number of fields before these. -/
def elements (s : Shape δ) : List (Field δ) → Nat → Bool → δ → Reader δ
  | [], _, _, d, cs => (closingBracket cs).map fun cs => (d, cs)
  | f :: fs, index, first, d, cs => do
    match ← nextElement first cs with
    | some cs =>
      let (d, cs) ← f.read d cs
      s.elements fs (index + 1) false d cs
    | none =>
      if f.required then
        .error (.mismatch (.wrongLength index s!"{s.title} with {s.fields.length} elements"))
      else s.elements fs (index + 1) first d cs

def read (s : Shape δ) (blank : δ) : Reader δ := fun cs =>
  match skipBlank cs with
  | [] => .error .truncated
  | c :: cs =>
    if c = '\x7b' then s.members (cs.length + 1) true blank cs
    else if c = '[' then s.elements s.fields 0 true blank cs
    else .error (mistyped s.title (c :: cs))

end Shape

/-- Reads a whole document: one value, and nothing but blanks around it. -/
def document {α : Type} (read : Reader α) (s : String) : Except Fault α := do
  let (a, cs) ← read s.toList
  if (skipBlank cs).isEmpty then return a else throw .malformed

end InbandNull.Json
