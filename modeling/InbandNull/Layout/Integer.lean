import InbandNull.Sentinel.Integer

/-!
# Integer layouts

How the values of an integer-family column lie in a buffer. Strings count as integers here: what is
stored is their dictionary id.
-/

namespace InbandNull

structure IntLayout where
  /-- The bytes of one value, from one to eight. -/
  width : Nat
  /-- Whether the stored value is extended by its sign. -/
  signed : Bool
  /-- The stored value that means NULL, widened to 64 bits. -/
  null : Int64
deriving DecidableEq, Repr

namespace IntLayout

def ofWidth (w : IntWidth) : IntLayout where
  width := w.bits.toNat / 8
  signed := w.signed
  null := w.null

end IntLayout

end InbandNull
