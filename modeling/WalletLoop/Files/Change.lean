import WalletLoop.Files.Tree

namespace WalletLoop

def Place.without (d : Place) (l : Location) : Place :=
  if l.isPrefixOf d.here then ⟨l.dropLast, d.lost + (d.here.length + 1 - l.length)⟩ else d

namespace Files

def put (fs : Files) (l : Location) (n : Node) : Files :=
  { fs with nodes := fs.nodes.filter (fun entry => entry.1 != l) ++ [(l, n)] }

def remove (fs : Files) (l : Location) : Files :=
  { fs with
    nodes := fs.nodes.filter fun entry => !l.isPrefixOf entry.1
    current := fs.current.without l }

def guarded (fs : Files) (call : Files → Except FileError Unit × Files) :
    Except FileError Unit × Files :=
  match fs.faults with
  | [] => call fs
  | none :: later => call { fs with faults := later }
  | some e :: later => (.error e, { fs with faults := later })

def makeDirectory (fs : Files) (p : String) : Except FileError Unit × Files :=
  match fs.resolve p with
  | .error e => (.error e, fs)
  | .ok (.directory _) => (.ok (), fs)
  | .ok (.entry d name) =>
    match fs.entry d name with
    | .error e => (.error e, fs)
    | .ok (_, some .directory) => (.ok (), fs)
    | .ok (_, some (.file _)) => (.error .occupied, fs)
    | .ok (l, none) => (.ok (), fs.put l .directory)

/-- Makes the first of some directories, each of which stands in the next; those after it are made
only where they are missing. -/
def makeFirst (fs : Files) : List String → Except FileError Unit × Files
  | [] => (.ok (), fs)
  | p :: above =>
    match fs.makeDirectory p with
    | (.error .missing, fs) =>
      match makeFirst fs above with
      | (.ok (), fs) => fs.makeDirectory p
      | failure => failure
    | answer => answer

def makeDirectories (fs : Files) (p : String) : Except FileError Unit × Files :=
  if p = "" then (.ok (), fs) else fs.guarded fun fs => fs.makeFirst (Path.lineage p)

/-- Replaces the content of a file, or makes the file in a directory that is there. A slash at the
end of the path is refused before the last name is looked up. -/
def write (fs : Files) (p : String) (c : Content) : Except FileError Unit × Files :=
  fs.guarded fun fs =>
    match fs.resolve p with
    | .error e => (.error e, fs)
    | .ok (.directory _) => (.error .isDirectory, fs)
    | .ok (.entry d name) =>
      if Path.endsInSlash p then (.error .isDirectory, fs)
      else
        match fs.entry d name with
        | .error e => (.error e, fs)
        | .ok (_, some .directory) => (.error .isDirectory, fs)
        | .ok (l, _) => (.ok (), fs.put l (.file c))

def place (fs : Files) (p : String) (c : Content) : Except FileError Unit × Files :=
  match (Path.parent? p).elim (.ok (), fs) fs.makeDirectories with
  | (.error e, fs) => (.error e, fs)
  | (.ok (), fs) => fs.write p c

end Files
end WalletLoop
