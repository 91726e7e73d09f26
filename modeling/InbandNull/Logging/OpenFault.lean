/-!
# Why a log file cannot be opened
-/

namespace InbandNull.Logging

/-- Why a path leads to no file that can be created or appended to. -/
inductive OpenFault where
  /-- The name holds a NUL, which no file name can. -/
  | nulInName
  | notFound
  | notADirectory
  | isADirectory
  | nameTooLong
  /-- Any other fault of the system, as it describes itself. -/
  | other (description : String)
deriving DecidableEq, Repr

def OpenFault.message : OpenFault → String
  | .nulInName => "file name contained an unexpected NUL byte"
  | .notFound => "No such file or directory (os error 2)"
  | .notADirectory => "Not a directory (os error 20)"
  | .isADirectory => "Is a directory (os error 21)"
  | .nameTooLong => "File name too long (os error 36)"
  | .other description => description

end InbandNull.Logging
