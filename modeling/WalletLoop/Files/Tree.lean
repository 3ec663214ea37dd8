import WalletLoop.Files.Path

/-!
A tree of directories and files, how a path leads through it, and the calls that look at it.

A path names either a directory, by ending in `.` or `..`, or an entry of a directory, which may be
missing. All names before the last have to lead through directories. The current directory can be
taken away: it then has no entries and takes none, but `..` still leads out of it.
-/

namespace WalletLoop

inductive FileError where
  | missing
  | occupied
  | notDirectory
  | isDirectory
  | nameTooLong
  | zeroInName
  | notText
  | refused (reason : String)
deriving DecidableEq

def FileError.message : FileError → String
  | .missing => "No such file or directory (os error 2)"
  | .occupied => "File exists (os error 17)"
  | .notDirectory => "Not a directory (os error 20)"
  | .isDirectory => "Is a directory (os error 21)"
  | .nameTooLong => "File name too long (os error 36)"
  | .zeroInName => "file name contained an unexpected NUL byte"
  | .notText => "stream did not contain valid UTF-8"
  | .refused reason => reason

inductive Content where
  | text (s : String)
  | binary (bytes : List UInt8) (unreadable : String.fromUTF8? ⟨bytes.toArray⟩ = none)
deriving DecidableEq

def Content.ofBytes (bytes : List UInt8) : Content :=
  match found : String.fromUTF8? ⟨bytes.toArray⟩ with
  | some s => .text s
  | none => .binary bytes found

inductive Node where
  | directory
  | file (content : Content)
deriving DecidableEq

abbrev Location := List String

/-- A directory: one in the tree, or one that was taken away from below it. -/
structure Place where
  here : Location
  lost : Nat
deriving DecidableEq

def Place.above (d : Place) : Place :=
  match d.lost with
  | 0 => ⟨d.here.dropLast, 0⟩
  | n + 1 => ⟨d.here, n⟩

inductive Target where
  | directory (d : Place)
  | entry (d : Place) (name : String)

structure Files where
  nodes : List (Location × Node)
  current : Place
  /-- What the next calls that change the tree meet: nothing, or an error that they answer with. -/
  faults : List (Option FileError)

namespace Files

def empty : Files := ⟨[], ⟨[], 0⟩, []⟩

def node? (fs : Files) (l : Location) : Option Node :=
  if l = [] then some .directory else (fs.nodes.find? fun entry => entry.1 == l).map Prod.snd

def nameLimit : Nat := 255

def pathLimit : Nat := 4095

def entry (fs : Files) (d : Place) (name : String) : Except FileError (Location × Option Node) :=
  if d.lost ≠ 0 then .error .missing
  else if nameLimit < name.utf8ByteSize then .error .nameTooLong
  else .ok (d.here ++ [name], fs.node? (d.here ++ [name]))

def enter (fs : Files) (d : Place) (name : String) : Except FileError Place :=
  if name = ".." then .ok d.above
  else
    (fs.entry d name).bind fun
      | (l, some .directory) => .ok ⟨l, 0⟩
      | (_, some (.file _)) => .error .notDirectory
      | (_, none) => .error .missing

def follow (fs : Files) (d : Place) : List String → Except FileError Place
  | [] => .ok d
  | name :: rest => (fs.enter d name).bind fun d => follow fs d rest

def start (fs : Files) (p : String) : Except FileError Place :=
  if '\x00' ∈ p.toList then .error .zeroInName
  else if p = "" then .error .missing
  else if pathLimit < p.utf8ByteSize then .error .nameTooLong
  else .ok (if Path.isAbsolute p then ⟨[], 0⟩ else fs.current)

/-- Follows a path up to its last name, and through that name if it stands for a directory by itself. -/
def resolve (fs : Files) (p : String) : Except FileError Target :=
  (fs.start p).bind fun d =>
    match (Path.names p).getLast? with
    | none => .ok (.directory d)
    | some name =>
      if name = ".." ∨ Path.endsInDot p then (fs.follow d (Path.names p)).map .directory
      else (fs.follow d (Path.names p).dropLast).map fun d => .entry d name

def locate (fs : Files) (p : String) : Except FileError Place :=
  (fs.resolve p).bind fun
    | .directory d => .ok d
    | .entry d name => (fs.entry d name).map fun (l, _) => ⟨l, 0⟩

def look (fs : Files) (p : String) : Except FileError Node :=
  (fs.resolve p).bind fun
    | .directory _ => .ok .directory
    | .entry d name =>
      (fs.entry d name).bind fun
        | (_, some .directory) => .ok .directory
        | (_, some (.file c)) =>
          if Path.endsInSlash p then .error .notDirectory else .ok (.file c)
        | (_, none) => .error .missing

def isThere (fs : Files) (p : String) : Bool :=
  match fs.look p with
  | .ok _ => true
  | .error _ => false

def read (fs : Files) (p : String) : Except FileError Content :=
  (fs.look p).bind fun
    | .directory => .error .isDirectory
    | .file c => .ok c

def readText (fs : Files) (p : String) : Except FileError String :=
  (fs.read p).bind fun
    | .text s => .ok s
    | .binary .. => .error .notText

def before : Location → Location → Bool
  | [], _ => true
  | _ :: _, [] => false
  | a :: as, b :: bs => if a = b then before as bs else decide (a < b)

def below (fs : Files) (l : Location) : List (Location × Node) :=
  let found := fs.nodes.filterMap fun entry =>
    if l.isPrefixOf entry.1 ∧ entry.1 ≠ l then some (entry.1.drop l.length, entry.2) else none
  found.mergeSort fun a b => before a.1 b.1

end Files
end WalletLoop
