/-!
# Physical encodings

`Encoding` is how the values of a column are compressed. The first four carry an in-band NULL; the
others are known to the storage layer and have no stored value that means NULL. As for column types,
`name` is the spelling in messages and `key` the one in JSON documents.
-/

namespace InbandNull

inductive Encoding where
  | plain
  /-- Strings replaced by integer ids into a dictionary. -/
  | dict
  /-- Integers narrowed to the number of bits that the descriptor's parameter gives. -/
  | fixed
  /-- Dates stored as a count of days. -/
  | dateInDays
  | runLength
  | diff
  | sparse
  | geoInt
deriving DecidableEq, Repr

namespace Encoding

instance : Inhabited Encoding := ⟨.plain⟩

def all : List Encoding :=
  [.plain, .dict, .fixed, .dateInDays, .runLength, .diff, .sparse, .geoInt]

def name : Encoding → String
  | .plain => "NONE"
  | .dict => "DICT"
  | .fixed => "FIXED"
  | .dateInDays => "DAYS"
  | .runLength => "RL"
  | .diff => "DIFF"
  | .sparse => "SPARSE"
  | .geoInt => "GEOINT"

def key : Encoding → String
  | .plain => "none"
  | .dict => "dict"
  | .fixed => "fixed"
  | .dateInDays => "date_in_days"
  | .runLength => "run_length"
  | .diff => "diff"
  | .sparse => "sparse"
  | .geoInt => "geo_int"

instance : ToString Encoding := ⟨name⟩

end Encoding

end InbandNull
