import OpeningHours.Text.Lines
import OpeningHours.Text.Utf8

/-
Files of hours texts. A path is brought to a plain form, without empty steps and steps that stay
where they are, and followed step by step; the file found at its end is decoded and cut into lines.
Where there is no such file, or no file at all but a directory, or a step leads on from a file, or
the octets are no text, the fault says so and names the path in its plain form.
-/

namespace OpeningHours.Command

open Text

/-- A path taken apart: how many slashes it begins with, two being kept apart from one, and its
steps. -/
structure Path where
  slashes : Nat
  steps : List (List Char)
  deriving DecidableEq, Repr

/-- The parts of a text between its slashes. -/
def splitAtSlashes : List Char → List (List Char)
  | [] => [[]]
  | char :: rest =>
    if char = '/' then [] :: splitAtSlashes rest
    else
      match splitAtSlashes rest with
      | [] => [[char]]
      | part :: parts => (char :: part) :: parts

namespace Path

/-- The path that a text names, empty steps and single dots left out. -/
def ofText (text : List Char) : Path where
  slashes :=
    match (text.takeWhile (· = '/')).length with
    | 0 => 0
    | 2 => 2
    | _ => 1
  steps := (splitAtSlashes text).filter fun step => decide (step ≠ [] ∧ step ≠ ['.'])

/-- A path in its plain form; the path without steps is the current directory. -/
def plain (path : Path) : List Char :=
  if path.slashes = 0 ∧ path.steps = [] then ['.']
  else List.replicate path.slashes '/' ++ (path.steps.intersperse ['/']).flatten

end Path

/-- Why a path leads to no file. -/
inductive PathFault where
  | notFound
  | notADirectory
  | isADirectory
  | tooLong
  deriving DecidableEq, Repr

/-- What is said of a path that leads to no file. -/
def PathFault.message : PathFault → String
  | notFound => "[Errno 2] No such file or directory"
  | notADirectory => "[Errno 20] Not a directory"
  | isADirectory => "[Errno 21] Is a directory"
  | tooLong => "[Errno 36] File name too long"

/-- Why a file cannot be had as a text. -/
inductive FileFault where
  | path (fault : PathFault) (plain : List Char)
  | undecodable (fault : Utf8.Fault)
  deriving DecidableEq, Repr

/-- What is said of a fault. -/
def FileFault.message : FileFault → String
  | path fault plain => fault.message ++ ": " ++ String.ofList (Quoted.encode plain)
  | undecodable fault => fault.message

/-- Files by their names, with the octets that each of them holds. -/
abbrev Files : Type := List (String × List UInt8)

/-- A step of more octets than this is refused. -/
def stepLimit : Nat := 255

/-- A path of this many octets is refused. -/
def pathLimit : Nat := 4096

/-- The number of octets of a text. -/
def octetCount (text : List Char) : Nat :=
  (String.ofList text).utf8ByteSize

/-- What is found at a place. -/
inductive Node where
  | file (octets : List UInt8)
  | directory
  | absent
  deriving DecidableEq, Repr

/-- A place on the way along a path: how many directories above the start it lies, and the steps
that lead down from there. -/
structure Spot where
  above : Nat := 0
  steps : List (List Char) := []

namespace Spot

/-- The place one step up. There is none above the root. -/
def up (spot : Spot) (fromRoot : Bool) : Spot :=
  if !spot.steps.isEmpty then { spot with steps := spot.steps.dropLast }
  else if fromRoot then spot
  else { spot with above := spot.above + 1 }

/-- The place one step down. -/
def down (spot : Spot) (step : List Char) : Spot :=
  { spot with steps := spot.steps ++ [step] }

end Spot

namespace Files

/-- What is found at a place below or above the start of paths that begin with so many slashes. The
names of files are paths themselves, and what leads on to a file is a directory; nothing is known of
the directories above. -/
def nodeAt (files : Files) (slashes : Nat) (spot : Spot) : Node :=
  let named := files.map fun file => (Path.ofText file.1.toList, file.2)
  if 0 < spot.above then .absent
  else
    match named.lookup ⟨slashes, spot.steps⟩ with
    | some octets => .file octets
    | none =>
      if named.any fun file =>
          file.1.slashes = slashes && spot.steps.isPrefixOf file.1.steps then
        .directory
      else .absent

/-- The octets of the file that the steps lead to from a directory. -/
def follow (files : Files) (slashes : Nat) (spot : Spot) :
    List (List Char) → Except PathFault (List UInt8)
  | [] => .error .isADirectory
  | step :: rest =>
    if stepLimit < octetCount step then .error .tooLong
    else if step = ['.', '.'] then files.follow slashes (spot.up (decide (0 < slashes))) rest
    else
      match files.nodeAt slashes (spot.down step) with
      | .absent => .error .notFound
      | .directory => files.follow slashes (spot.down step) rest
      | .file octets => if rest.isEmpty then .ok octets else .error .notADirectory

/-- The octets of the file at a path, or why there are none. -/
def octetsAt (files : Files) (path : Path) : Except FileFault (List UInt8) :=
  if pathLimit ≤ octetCount path.plain then .error (.path .tooLong path.plain)
  else (files.follow path.slashes {} path.steps).mapError fun fault => .path fault path.plain

/-- The hours texts in the file at a path, one for each line that is not blank. -/
def textsAt (files : Files) (path : Path) : Except FileFault (List String) :=
  match files.octetsAt path with
  | .error fault => .error fault
  | .ok octets =>
    match Utf8.decode octets with
    | .error fault => .error (.undecodable fault)
    | .ok text => .ok ((contentLines text).map String.ofList)

end Files

end OpeningHours.Command
