import PatternScan.File.Fault
import PatternScan.Machine
import PatternScan.Text.Utf8

/-!
# Files

What is asked of a file system: whether a path leads to something, what a file holds, and
to write a file together with the directories above it. A disk held in memory answers in
the same way; its paths are told by the names on the way from the working directory.
-/

namespace PatternScan

/-- The step at which writing a file fails. -/
inductive SaveStep where
  /-- The directories above the file are made. -/
  | directories
  | file
  deriving DecidableEq, Repr

/-- What is asked of a file system, and the machine it is on. -/
structure FileAccess (m : Type → Type) extends Machine where
  /-- The content of a file. -/
  read : String → m (Except FileFault Bytes)
  /-- The path leads to a file or a directory. -/
  leadsSomewhere : String → m Bool
  /-- Writes a file and makes the directories above it. -/
  save : String → Bytes → m (Except (SaveStep × FileFault) Unit)

/-- What a path leads to. -/
inductive DiskEntry where
  | file (content : Bytes)
  | directory
  deriving DecidableEq, Repr, Inhabited

/-- The entries of a disk, by the names on the way to each. -/
structure Disk where
  entries : List (List String × DiskEntry)
  deriving DecidableEq, Repr, Inhabited

namespace Disk

/-- The way to the root of the disk. -/
def rootWay : List String := ["/"]

/-- Goes on by one name: an empty name and a single point stay, two points step up. -/
def step (way : List String) (name : String) : List String :=
  if name == "" || name == "." then way
  else if name == ".." then
    match way.getLast? with
    | some ".." => way ++ [name]
    | some "/" => way
    | some _ => way.dropLast
    | none => [name]
  else way ++ [name]

/-- The names between the slashes of a path. -/
def names (path : String) : List String := path.splitOn "/"

/-- Where the way of a path begins. -/
def startOf (path : String) : List String := if path.startsWith "/" then rootWay else []

/-- The path can only lead to a directory. -/
def asksDirectory (path : String) : Bool := path.endsWith "/"

/-- The way leads to the working directory, to one above it or to the root, which are
always there. -/
def isStanding (way : List String) : Bool := way.all (· == "..") || way == rootWay

/-- The entry at the end of a way. -/
def entryAt? (d : Disk) (way : List String) : Option DiskEntry :=
  if isStanding way then some .directory else d.entries.lookup way

/-- What is found at the end of a way, and the way itself. -/
structure Place where
  way : List String
  entry : DiskEntry
  deriving DecidableEq, Repr

/-- Goes on by names, each of them from a directory. -/
def walk (d : Disk) (way : List String) : List String → Except FileFault Place
  | [] => match d.entryAt? way with
    | some entry => .ok ⟨way, entry⟩
    | none => .error .notFound
  | name :: rest => match d.entryAt? way with
    | some .directory => walk d (step way name) rest
    | some (.file _) => .error .notADirectory
    | none => .error .notFound

/-- The entry that a path leads to. -/
def find (d : Disk) (path : String) : Except FileFault DiskEntry :=
  if path.isEmpty then .error .notFound
  else (d.walk (startOf path) (names path)).map Place.entry

/-- The content of a file. -/
def read (d : Disk) (path : String) : Except FileFault Bytes :=
  match d.find path with
  | .ok (.file content) => .ok content
  | .ok .directory => .error .isADirectory
  | .error fault => .error fault

/-- The path leads to a file or a directory. -/
def leadsSomewhere (d : Disk) (path : String) : Bool := (d.find path).isOk

/-- Sets the entry at the end of a way. -/
def setEntry (d : Disk) (way : List String) (entry : DiskEntry) : Disk :=
  ⟨(way, entry) :: d.entries.filter fun e => e.1 != way⟩

/-- Makes the directories that the names lead through, from the end of a way on. A file
among them is a fault; `made` says that a directory had to be made before. -/
def makeDirectories (d : Disk) (made : Bool) (way : List String) :
    List String → Except FileFault Disk
  | [] => .ok d
  | name :: rest =>
      let here := step way name
      match d.entryAt? here with
      | some .directory => makeDirectories d made here rest
      | some (.file _) =>
          .error (if made || rest.isEmpty then .alreadyExists else .notADirectory)
      | none => makeDirectories (d.setEntry here .directory) true here rest

/-- The names of a path without those that stay where they are. -/
def properNames (path : String) : List String :=
  (names path).filter fun name => name != "" && name != "."

/-- Writes a file in a directory that is there. -/
def write (d : Disk) (path : String) (content : Bytes) : Except FileFault Disk :=
  match (names path).reverse.dropWhile (· == "") with
  | [] => .error (if path.isEmpty then .notFound else .isADirectory)
  | name :: above =>
      match d.walk (startOf path) above.reverse with
      | .error fault => .error fault
      | .ok ⟨_, .file _⟩ => .error .notADirectory
      | .ok ⟨way, .directory⟩ =>
          if name == "." || name == ".." || asksDirectory path then .error .isADirectory
          else match d.entryAt? (way ++ [name]) with
            | some .directory => .error .isADirectory
            | _ => .ok (d.setEntry (way ++ [name]) (.file content))

/-- Writes a file and makes the directories above it. -/
def save (d : Disk) (path : String) (content : Bytes) :
    Except (SaveStep × FileFault) Unit × Disk :=
  match d.makeDirectories false (startOf path) (properNames path).dropLast with
  | .error fault => (.error (.directories, fault), d)
  | .ok made =>
      match made.write path content with
      | .error fault => (.error (.file, fault), made)
      | .ok written => (.ok (), written)

/-- A disk in memory answers what is asked of a file system. -/
def access : FileAccess (StateM Disk) where
  read path := do return (← get).read path
  leadsSomewhere path := do return (← get).leadsSomewhere path
  save path content := modifyGet fun d => d.save path content

end Disk

end PatternScan
