import Mathlib.Data.Char
import Mathlib.Data.List.Forall2

/-!
# The grammar of documents

What a document may look like, stated apart from the readers: a relation for each kind of value,
between the value and its texts. A string or a record has many texts. Characters may be escaped,
members may come in any order, and blanks may stand around every value and name.

`Enclosed` is the shape that lists and objects share: items with commas between them, in brackets.
`ValueText` says that a text is a value at all, of any kind and any depth, and nothing more.
-/

namespace InbandNull.Json

def Blanks (cs : List Char) : Prop := ∀ c ∈ cs, c ∈ [' ', '\t', '\n', '\r']

/-! ## Numbers -/

def Digits (cs : List Char) : Prop := ∀ c ∈ cs, c.isDigit = true

/-- The part of a number before its point: zero, or digits of which the first is not zero. -/
inductive Whole : List Char → Prop where
  | zero : Whole ['0']
  | digits {d : Char} {ds : List Char} (hd : d.isDigit = true) (hzero : d ≠ '0') (hds : Digits ds) :
    Whole (d :: ds)

inductive Fraction : List Char → Prop where
  | absent : Fraction []
  | digits {d : Char} {ds : List Char} (hd : d.isDigit = true) (hds : Digits ds) :
    Fraction ('.' :: d :: ds)

inductive Exponent : List Char → Prop where
  | absent : Exponent []
  | digits {mark d : Char} {sign ds : List Char} (hmark : mark ∈ ['e', 'E'])
    (hsign : sign ∈ [[], ['+'], ['-']]) (hd : d.isDigit = true) (hds : Digits ds) :
    Exponent (mark :: (sign ++ d :: ds))

inductive NumberText : List Char → Prop where
  | mk {sign whole fraction exponent : List Char} (hsign : sign ∈ [[], ['-']])
    (hwhole : Whole whole) (hfraction : Fraction fraction) (hexponent : Exponent exponent) :
    NumberText (sign ++ (whole ++ (fraction ++ exponent)))

/-- The texts of an integer. Each integer has one: a point or an exponent makes a number a
floating-point one, and so does a sign before zero. -/
inductive IntegerText : Int → List Char → Prop where
  | nonneg {ds : List Char} (hds : Whole ds) : IntegerText (Nat.ofDigitChars 10 ds 0) ds
  | neg {ds : List Char} (hds : Whole ds) (hpos : 0 < Nat.ofDigitChars 10 ds 0) :
    IntegerText (-Nat.ofDigitChars 10 ds 0) ('-' :: ds)

/-! ## Strings -/

def Unescaped (c : Char) : Prop := 0x20 ≤ c.toNat ∧ c ≠ '"' ∧ c ≠ '\\'

/-- The letters that stand for a character after a backslash. -/
inductive Escape : Char → Char → Prop where
  | quotationMark : Escape '"' '"'
  | backslash : Escape '\\' '\\'
  | slash : Escape '/' '/'
  | backspace : Escape 'b' '\x08'
  | formFeed : Escape 'f' '\x0c'
  | lineFeed : Escape 'n' '\n'
  | carriageReturn : Escape 'r' '\r'
  | tab : Escape 't' '\t'

/-- A hexadecimal digit of either case. -/
def IsHex (v : Nat) (c : Char) : Prop := v < 16 ∧ (c = v.digitChar ∨ c = v.digitChar.toUpper)

/-- The texts of a number below `0x10000` in four hexadecimal digits. -/
inductive Code : Nat → List Char → Prop where
  | mk {i j k l : Nat} {a b c d : Char} (ha : IsHex i a) (hb : IsHex j b) (hc : IsHex k c)
    (hd : IsHex l d) : Code (16 * (16 * (16 * i + j) + k) + l) [a, b, c, d]

/-- `Spells cs s`: between quotation marks, `cs` is a text of the string `s`. A character beyond
`0xFFFF` is escaped as a pair of surrogates, and a surrogate stands for nothing without the other.
-/
inductive Spells : List Char → List Char → Prop where
  | nil : Spells [] []
  | unescaped {c : Char} {cs s : List Char} (hc : Unescaped c) (h : Spells cs s) :
    Spells (c :: cs) (c :: s)
  | escape {e c : Char} {cs s : List Char} (he : Escape e c) (h : Spells cs s) :
    Spells ('\\' :: e :: cs) (c :: s)
  | code {c : Char} {code cs s : List Char} (hc : Code c.toNat code) (h : Spells cs s) :
    Spells ('\\' :: 'u' :: (code ++ cs)) (c :: s)
  | pair {c : Char} {i j : Nat} {high low cs s : List Char} (hi : i < 0x400) (hj : j < 0x400)
    (hhigh : Code (0xD800 + i) high) (hlow : Code (0xDC00 + j) low)
    (hc : c.toNat = 0x10000 + i * 0x400 + j) (h : Spells cs s) :
    Spells ('\\' :: 'u' :: (high ++ '\\' :: 'u' :: (low ++ cs))) (c :: s)

/-- What may stand between quotation marks, also if it spells no string. -/
inductive TextBody : List Char → Prop where
  | nil : TextBody []
  | unescaped {c : Char} {cs : List Char} (hc : Unescaped c) (h : TextBody cs) : TextBody (c :: cs)
  | escape {e c : Char} {cs : List Char} (he : Escape e c) (h : TextBody cs) :
    TextBody ('\\' :: e :: cs)
  | code {n : Nat} {code cs : List Char} (hn : Code n code) (h : TextBody cs) :
    TextBody ('\\' :: 'u' :: (code ++ cs))

/-! ## Lists and objects -/

variable {α : Type}

/-- Items with commas between them, each with blanks around it. -/
inductive Separated (item : α → List Char → Prop) : List α → List Char → Prop where
  | one {a : α} {before cs after : List Char} (hbefore : Blanks before) (ha : item a cs)
    (hafter : Blanks after) : Separated item [a] (before ++ (cs ++ after))
  | cons {a : α} {as : List α} {before cs after rest : List Char} (hbefore : Blanks before)
    (ha : item a cs) (hafter : Blanks after) (h : Separated item as rest) :
    Separated item (a :: as) (before ++ (cs ++ (after ++ ',' :: rest)))

inductive Enclosed (opening closing : Char) (item : α → List Char → Prop) :
    List α → List Char → Prop where
  | empty {blanks : List Char} (hblanks : Blanks blanks) :
    Enclosed opening closing item [] (opening :: (blanks ++ [closing]))
  | items {as : List α} {cs : List Char} (h : Separated item as cs) :
    Enclosed opening closing item as (opening :: (cs ++ [closing]))

/-- The texts of a member, given by what stands in the quotation marks of its name and by the text
of its value. -/
inductive MemberText : List Char × List Char → List Char → Prop where
  | mk {name value before after : List Char} (hbefore : Blanks before) (hafter : Blanks after) :
    MemberText (name, value) ('"' :: (name ++ '"' :: (before ++ ':' :: (after ++ value))))

/-- The texts of a list, given by those of its elements. -/
abbrev ListText : List (List Char) → List Char → Prop := Enclosed '[' ']' Eq

/-- The texts of an object, given by what stands for its members. -/
abbrev ObjectText : List (List Char × List Char) → List Char → Prop :=
  Enclosed '\x7b' '\x7d' MemberText

/-- The texts of any value. -/
inductive ValueText : List Char → Prop where
  | null : ValueText ['n', 'u', 'l', 'l']
  | true : ValueText ['t', 'r', 'u', 'e']
  | false : ValueText ['f', 'a', 'l', 's', 'e']
  | number {cs : List Char} (h : NumberText cs) : ValueText cs
  | string {cs : List Char} (h : TextBody cs) : ValueText ('"' :: (cs ++ ['"']))
  | list {elements : List (List Char)} {cs : List Char} (h : ListText elements cs)
    (helements : ∀ e ∈ elements, ValueText e) : ValueText cs
  | object {members : List (List Char × List Char)} {cs : List Char} (h : ObjectText members cs)
    (hnames : ∀ m ∈ members, TextBody m.1) (hvalues : ∀ m ∈ members, ValueText m.2) : ValueText cs

/-! ## The values of fields -/

inductive BooleanText : Bool → List Char → Prop where
  | true : BooleanText true ['t', 'r', 'u', 'e']
  | false : BooleanText false ['f', 'a', 'l', 's', 'e']

inductive StringText : String → List Char → Prop where
  | mk {s : String} {cs : List Char} (h : Spells cs s.toList) : StringText s ('"' :: (cs ++ ['"']))

inductive OptionalText : Option String → List Char → Prop where
  | absent : OptionalText none ['n', 'u', 'l', 'l']
  | present {s : String} {cs : List Char} (h : StringText s cs) : OptionalText (some s) cs

/-- A member with a given name and the given text of its value. -/
inductive NamedMember : String × List Char → List Char → Prop where
  | mk {name : String} {spelling value cs : List Char} (hname : Spells spelling name.toList)
    (h : MemberText (spelling, value) cs) : NamedMember (name, value) cs

/-- The texts of a member of an enumeration: its name, or an object with that name only. -/
inductive ChoiceText (name : String) : List Char → Prop where
  | name {cs : List Char} (h : StringText name cs) : ChoiceText name cs
  | object {cs : List Char}
    (h : Enclosed '\x7b' '\x7d' NamedMember [(name, ['n', 'u', 'l', 'l'])] cs) : ChoiceText name cs

/-! ## Records -/

/-- A field of a record with a value: the texts of the value, and whether the field may be left out.
-/
structure Entry where
  name : String
  text : List Char → Prop
  mayOmit : Prop

/-- The members of an object that gives a record. Each field stands once, or not at all if it may be
left out; members of other names may have any value. -/
structure Describes (entries : List Entry) (members : List (String × List Char)) : Prop where
  once : ∀ e ∈ entries, (members.map Prod.fst).count e.name ≤ 1
  given : ∀ e ∈ entries, e.name ∈ members.map Prod.fst ∨ e.mayOmit
  value : ∀ e ∈ entries, ∀ m ∈ members, m.1 = e.name → e.text m.2
  other : ∀ m ∈ members, (∀ e ∈ entries, m.1 ≠ e.name) → ValueText m.2

/-- The texts of a record as an object. -/
inductive RecordText (entries : List Entry) : List Char → Prop where
  | mk {members : List (String × List Char)} {cs : List Char} (h : Describes entries members)
    (hcs : Enclosed '\x7b' '\x7d' NamedMember members cs) : RecordText entries cs

/-- The texts of a record as a list of all its fields. -/
inductive RowText (entries : List Entry) : List Char → Prop where
  | mk {values : List (List Char)} {cs : List Char}
    (h : List.Forall₂ (fun e value => e.text value) entries values) (hcs : ListText values cs) :
    RowText entries cs

/-- The documents whose value has a given text. -/
inductive DocumentText (value : List Char → Prop) : List Char → Prop where
  | mk {before cs after : List Char} (hbefore : Blanks before) (hcs : value cs)
    (hafter : Blanks after) : DocumentText value (before ++ (cs ++ after))

end InbandNull.Json
