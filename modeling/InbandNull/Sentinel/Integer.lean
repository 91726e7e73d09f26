import InbandNull.Violation

/-!
# Integer sentinels

Signed storage reserves its least value. The two unsigned widths are those of narrow dictionary ids,
where id 0 is a real entry, often the most frequent one; they reserve their greatest value instead.
`IntWidth` tabulates these. A column narrowed to some other whole number of bytes is not in the
table and takes `-2 ^ (bits - 1)`, computed by `narrowedNull`.

Every sentinel is given as the 64-bit integer that the stored value widens to.
-/

namespace InbandNull

inductive IntWidth where
  | i8
  | i16
  | i32
  | i64
  | u8
  | u16
deriving DecidableEq, Repr

namespace IntWidth

def bits : IntWidth → UInt32
  | .i8 | .u8 => 8
  | .i16 | .u16 => 16
  | .i32 => 32
  | .i64 => 64

/-- Whether the stored value is extended by its sign. -/
def signed : IntWidth → Bool
  | .u8 | .u16 => false
  | _ => true

/-- The stored value that means NULL. -/
def null : IntWidth → Int64
  | .i8 => Int8.minValue.toInt64
  | .i16 => Int16.minValue.toInt64
  | .i32 => Int32.minValue.toInt64
  | .i64 => Int64.minValue
  | .u8 => 255
  | .u16 => 65535

/-- The entry for a width in bits. Unsigned storage of 32 or 64 bits has none. -/
def ofBits? (bits : UInt32) (signed : Bool) : Option IntWidth :=
  match bits, signed with
  | 8, true => some .i8
  | 16, true => some .i16
  | 32, true => some .i32
  | 64, true => some .i64
  | 8, false => some .u8
  | 16, false => some .u16
  | _, _ => none

end IntWidth

def integerNull (bits : UInt32) (signed : Bool) : Except Violation Int64 :=
  match IntWidth.ofBits? bits signed with
  | some w => .ok w.null
  | none => .error (.integerWidth bits signed)

/-- The least signed integer of exactly `bits` bits. Shifting the least 64-bit integer keeps its
sign, so the width of 64 needs no case of its own. -/
def narrowedNull (bits : Int32) : Except Violation Int64 :=
  if bits ≤ 0 ∨ 64 < bits ∨ bits % 8 ≠ 0 then
    .error (.fixedWidth bits)
  else
    .ok (Int64.minValue >>> (64 - bits.toInt64))

end InbandNull
