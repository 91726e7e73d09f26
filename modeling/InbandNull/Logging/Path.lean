import InbandNull.Logging.Directory
import InbandNull.Logging.OpenFault

/-!
# Where a log file is

An `Opening` says which file a path leads to when it is opened to be created or appended to, or why
it cannot be opened. That is up to the system: it depends on its directories and links, and on what
the process may do with them, and it may be another one at every call.

`Directory.locate` is the opening on a small system without links or permissions. A path is walked
from its first segment: every segment but the last has to lead to a directory, and the last must
not. Of the directories outside the working directory, which is one of `/tmp`, only `/`, `/dev` and
`/tmp` exist, and what is in `/dev` is a device. The files out there make up a `Directory` of their
own, under their whole paths.
-/

namespace InbandNull.Logging

/-- The segments of a path, empty ones included. -/
def segments : List Char → List (List Char)
  | [] => [[]]
  | c :: cs =>
    if c = '/' then [] :: segments cs
    else
      match segments cs with
      | [] => [[c]]
      | s :: ss => (c :: s) :: ss

/-- A directory on the way of a path. -/
inductive Spot where
  | working
  | outside (segments : List String)
deriving DecidableEq, Repr

/-- A file that keeps what is written to it. -/
inductive File where
  /-- A file of the working directory. -/
  | inside (name : String)
  /-- A file of another directory, by its path from the root. -/
  | outside (path : String)
deriving DecidableEq, Repr

/-- Where the lines of an opened file go. -/
inductive Place where
  | file (file : File)
  /-- A device, which takes lines and keeps none. -/
  | device
deriving DecidableEq, Repr

/-- How a system opens a path, given the files of the working directory and those outside. -/
abbrev Opening := Directory → Directory → String → Except OpenFault Place

def outsideDirectories : List (List String) := [[], ["dev"], ["tmp"]]

/-- The path from the root that visits the segments. -/
def rootPath (segments : List String) : String := String.join (segments.map ("/" ++ ·))

/-- The most bytes that a segment may have. -/
def segmentLimit : Nat := 255

/-- A path has fewer bytes than this. -/
def pathLimit : Nat := 4096

namespace Spot

def parent : Spot → Spot
  | .working => .outside ["tmp"]
  | .outside segments => .outside segments.dropLast

/-- The directory that a segment leads to. -/
def enter (dir outside : Directory) (spot : Spot) (segment : String) : Except OpenFault Spot :=
  if segment = "" ∨ segment = "." then .ok spot
  else if segment = ".." then .ok spot.parent
  else if segmentLimit < segment.utf8ByteSize then .error .nameTooLong
  else
    match spot with
    | .working => .error (if dir.contains segment then .notADirectory else .notFound)
    | .outside segments =>
      let segments := segments ++ [segment]
      if outsideDirectories.contains segments then .ok (.outside segments)
      else if segments = ["dev", "null"] ∨ outside.contains (rootPath segments) then
        .error .notADirectory
      else .error .notFound

/-- The file that the last segment leads to. -/
def place (spot : Spot) (segment : String) : Except OpenFault Place :=
  if segment = "" ∨ segment = "." ∨ segment = ".." then .error .isADirectory
  else if segmentLimit < segment.utf8ByteSize then .error .nameTooLong
  else
    match spot with
    | .working => .ok (.file (.inside segment))
    | .outside segments =>
      if outsideDirectories.contains (segments ++ [segment]) then .error .isADirectory
      else if segments = ["dev"] then .ok .device
      else .ok (.file (.outside (rootPath (segments ++ [segment]))))

/-- The file that a list of segments leads to. A slash at the end of a path asks for a directory. -/
def walk (dir outside : Directory) (spot : Spot) : List String → Except OpenFault Place
  | [] => .error .isADirectory
  | [segment] => spot.place segment
  | segment :: rest =>
    if rest.all (· == "") then .error .isADirectory
    else do (← spot.enter dir outside segment).walk dir outside rest

end Spot

def Directory.locate (dir outside : Directory) (path : String) : Except OpenFault Place :=
  if path.contains '\x00' then .error .nulInName
  else if path = "" then .error .notFound
  else if pathLimit ≤ path.utf8ByteSize then .error .nameTooLong
  else
    match (segments path.toList).map String.ofList with
    | "" :: rest => (Spot.outside []).walk dir outside rest
    | segments => Spot.working.walk dir outside segments

end InbandNull.Logging
