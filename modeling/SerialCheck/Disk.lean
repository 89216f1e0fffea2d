import SerialCheck.Text.Blank
import SerialCheck.Text.Quoted
import SerialCheck.Text.Search

/-!
# Files

A path is followed name by name from the root or from the working directory: an empty part and a
single period stay, two periods lead up, and every name but the last one has to name a directory.
A disk holds the files that are known by their paths; a directory is there if a known file is
below it or if every system has it. What is written outside of the working directory is not
kept.
-/
namespace SerialCheck

/-- The files with their texts. -/
abbrev Disk := List (String × String)

/-- Why a path leads to no file. -/
inductive PathFault where
  /-- Neither the file nor a place for it is there. -/
  | missing
  /-- It leads to a directory. -/
  | isDirectory
  /-- A file stands where it needs a directory. -/
  | notDirectory
  /-- It, or a name in it, is too long. -/
  | tooLong
  deriving Repr, DecidableEq

/-- The description of a fault in a path. -/
def PathFault.message : PathFault → String
  | .missing => "[Errno 2] No such file or directory"
  | .isDirectory => "[Errno 21] Is a directory"
  | .notDirectory => "[Errno 20] Not a directory"
  | .tooLong => "[Errno 36] File name too long"

/-- Why a file cannot be read or written. -/
inductive FileFault where
  /-- The path leads to no file. -/
  | unreachable (cause : PathFault) (path : String)
  /-- The path holds a null character. -/
  | invalid
  /-- There is no room for the text. -/
  | noSpace
  /-- A value of the kind is neither a path nor the number of a file. -/
  | noPath (kind : String)
  /-- The number of a file is not negative. -/
  | negativeNumber
  /-- No file is open under the number. -/
  | notOpen
  deriving Repr, DecidableEq

/-- The description of a fault. -/
def FileFault.message : FileFault → String
  | .unreachable cause path => cause.message ++ ": " ++ Text.quoted path
  | .invalid => "embedded null byte"
  | .noSpace => "[Errno 28] No space left on device"
  | .noPath kind => "expected str, bytes or os.PathLike object, not " ++ kind
  | .negativeNumber => "negative file descriptor"
  | .notOpen => "[Errno 9] Bad file descriptor"

namespace Disk

/-- A name between two separators of a path. -/
abbrev Name := List Char

/-- A place among all directories: the names that lead to it from the root. -/
abbrev Place := List Name

/-- The part of a path stays where it is. -/
def isIdle (part : Name) : Bool := part.isEmpty || part == ['.']

/-- The part of a path leads to the directory above. -/
def isUpward (part : Name) : Bool := part == ['.', '.']

/-- The parts of a path that lead somewhere. -/
def names (path : String) : List Name :=
  (Text.splitAt '/' path.toList).filter fun part => !isIdle part

/-- What a path starts from: the working directory, or the root by one separator or by exactly
two. -/
def startOf (path : String) : String :=
  if !Text.startsWith path "/" then ""
  else if Text.startsWith path "//" && !Text.startsWith path "///" then "//"
  else "/"

/-- A path without the parts that stay. -/
def normalPath (path : String) : String :=
  let short := startOf path ++ String.ofList (Text.join '/' (names path))
  if short.isEmpty then "." else short

/-- The working directory lies among the temporary files. Its own name is unknown, so it stands
under a name that no path can hold. -/
def home : Place := ["tmp".toList, ['/']]

/-- The place at which a path starts. -/
def originOf (path : String) : Place := if Text.startsWith path "/" then [] else home

/-- The directories that every system has. -/
def systemDirectories : List String :=
  ["/", "/boot", "/dev", "/dev/mqueue", "/dev/pts", "/dev/shm", "/etc", "/home", "/media", "/mnt",
    "/opt", "/proc", "/proc/self", "/root", "/run", "/srv", "/sys", "/tmp", "/usr", "/usr/bin",
    "/usr/include", "/usr/lib", "/usr/lib64", "/usr/local", "/usr/local/bin", "/usr/local/lib",
    "/usr/sbin", "/usr/share", "/usr/src", "/var", "/var/cache", "/var/lib", "/var/log",
    "/var/tmp"]

/-- The names at the root that stand for a directory below `/usr`. -/
def linkedNames : List Name := ["bin".toList, "lib".toList, "lib64".toList, "sbin".toList]

/-- A place with a linked name at the root replaced by what it stands for. -/
def resolve : Place → Place
  | [name] => if linkedNames.contains name then ["usr".toList, name] else [name]
  | place => place

/-- Files that are no plain files. -/
inductive Device where
  /-- It is always empty and takes any text. -/
  | sink
  /-- It has no room for any text. -/
  | full
  deriving Repr, DecidableEq

/-- The files that every system has. What they hold is not looked at, and what is written to them
is not kept. -/
def systemFiles : List String :=
  ["/dev/null", "/dev/zero", "/dev/random", "/dev/urandom", "/etc/group", "/etc/hostname",
    "/etc/hosts", "/etc/passwd", "/etc/resolv.conf", "/etc/shadow"]

/-- The devices that every system has. -/
def devices : List (Place × Device) :=
  (names "/dev/full", .full) :: systemFiles.map fun path => (names path, .sink)

/-- The place from which a part of a path leads on. -/
def stepFrom (place : Place) (part : Name) : Place :=
  if isIdle part then place
  else if isUpward part then place.dropLast
  else resolve (place ++ [part])

/-- The place of a known file. -/
def placeOf (path : String) : Place :=
  (Text.splitAt '/' path.toList).foldl stepFrom (originOf path)

/-- A directory is at the place. -/
def hasDirectory (disk : Disk) (place : Place) : Bool :=
  place == home || systemDirectories.any (names · == place) ||
    disk.any fun (path, _) =>
      place.isPrefixOf (placeOf path) && place.length < (placeOf path).length

/-- The path by which the file at a place is known. -/
def fileAt? (disk : Disk) (place : Place) : Option String :=
  (disk.find? fun (path, _) => placeOf path == place).map Prod.fst

/-- What a path leads to. -/
inductive Target where
  /-- The file that is known by the path. -/
  | file (path : String)
  /-- A device. -/
  | device (kind : Device)
  /-- No file, but a place for one in a directory. -/
  | free (place : Place)
  deriving Repr, DecidableEq

/-- How many bytes a name may have. -/
def nameLimit : Nat := 255

/-- How many bytes a path may have. -/
def pathLimit : Nat := 4095

/-- The name is too long. -/
def isTooLong (name : Name) : Bool := nameLimit < (String.ofList name).utf8ByteSize

/-- What a place below a directory holds, if it is no directory. -/
def targetAt (disk : Disk) (place : Place) : Except PathFault Target :=
  if hasDirectory disk place then .error .isDirectory
  else
    match fileAt? disk place, devices.lookup place with
    | some path, _ => .ok (.file path)
    | none, some kind => .ok (.device kind)
    | none, none => .ok (.free place)

/-- The directory to which parts of a path lead from a directory. -/
def enter (disk : Disk) (place : Place) : List Name → Except PathFault Place
  | [] => .ok place
  | part :: parts =>
    if isIdle part || isUpward part then enter disk (stepFrom place part) parts
    else if isTooLong part then .error .tooLong
    else
      match targetAt disk (stepFrom place part) with
      | .error .isDirectory => enter disk (stepFrom place part) parts
      | .error cause => .error cause
      | .ok (.free _) => .error .missing
      | .ok (.file _) | .ok (.device _) => .error .notDirectory

/-- What the last part of a path leads to from a directory. -/
def arrive (disk : Disk) (place : Place) (part : Name) : Except PathFault Target :=
  if isIdle part || isUpward part then .error .isDirectory
  else if isTooLong part then .error .tooLong
  else targetAt disk (stepFrom place part)

/-- What a path leads to. -/
def follow (disk : Disk) (path : String) : Except PathFault Target :=
  let parts := Text.splitAt '/' path.toList
  match enter disk (originOf path) parts.dropLast with
  | .error cause => .error cause
  | .ok place => arrive disk place (parts.getLast?.getD [])

/-- The path has a length that is allowed. -/
def checkLength (path : String) : Except PathFault Unit :=
  if pathLimit < path.utf8ByteSize then .error .tooLong else .ok ()

/-- The text of the file to which a path leads, or why there is none. -/
def read (disk : Disk) (path : String) : Except FileFault String :=
  let path := normalPath path
  if path.toList.contains '\x00' then .error .invalid
  else
    match checkLength path >>= fun _ => follow disk path with
    | .error cause => .error (.unreachable cause path)
    | .ok (.file known) => .ok ((disk.lookup known).getD "")
    | .ok (.device _) => .ok ""
    | .ok (.free _) => .error (.unreachable .missing path)

/-- The disk with a text in the file with a path. -/
def put (disk : Disk) (path text : String) : Disk := disk.filter (·.1 != path) ++ [(path, text)]

/-- The disk with a text at a free place. -/
def keep (disk : Disk) (place : Place) (text : String) : Disk :=
  if home.isPrefixOf place then
    disk.put (String.ofList (Text.join '/' (place.drop home.length))) text
  else disk

/-- The disk with a text in that to which a path leads. -/
def store (disk : Disk) (text : String) : Target → Except FileFault Disk
  | .file known => .ok (disk.put known text)
  | .device .sink => .ok disk
  | .device .full => .error .noSpace
  | .free place => .ok (disk.keep place text)

/-- What the last part of a path for writing leads to. With a separator behind it a name would be
that of a directory. -/
def arriveToWrite (disk : Disk) (isTrailed : Bool) (place : Place) (part : Name) :
    Except PathFault Target :=
  if isTrailed then .error .isDirectory else arrive disk place part

/-- What a path for writing leads to. -/
def followToWrite (disk : Disk) (path : String) : Except PathFault Target :=
  let bare := Text.trimEndOf '/' path
  let parts := Text.splitAt '/' bare.toList
  match enter disk (originOf path) parts.dropLast with
  | .error cause => .error cause
  | .ok place => arriveToWrite disk (bare != path) place (parts.getLast?.getD [])

/-- The disk with a text in the file to which a path leads, or why it cannot be written. -/
def write (disk : Disk) (path text : String) : Except FileFault Disk :=
  if path.toList.contains '\x00' then .error .invalid
  else
    match checkLength path >>= fun _ => followToWrite disk path with
    | .error cause => .error (.unreachable cause path)
    | .ok target => store disk text target

end Disk

end SerialCheck
