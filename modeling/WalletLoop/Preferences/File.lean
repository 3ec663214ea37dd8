import WalletLoop.Files.Change
import WalletLoop.Log.Notice
import WalletLoop.Toml.Reading
import WalletLoop.Toml.Writing

/-!
Preferences kept in a file: the whole table is in memory, and every change writes the whole file.

A change takes effect in memory first. When the file then cannot be written, the call answers with
an error and the change stays in memory. Taking away a key that the table does not hold writes
nothing.
-/

namespace WalletLoop

def Preference.ofItem? : Toml.Item → Option Preference
  | .flag b => some (.flag b)
  | .text s => some (.text s)
  | .number (some n) =>
    if Int64.minValue.toInt ≤ n ∧ n ≤ Int64.maxValue.toInt then some (.number (Int64.ofInt n))
    else none
  | _ => none

def PreferenceTable.ofEntries? : Toml.Entries → Option PreferenceTable
  | [] => some .empty
  | (key, item) :: rest =>
    (Preference.ofItem? item).bind fun value => (ofEntries? rest).map fun t => t.insert key value

def PreferenceTable.parse (text : String) : Except Toml.Fault PreferenceTable :=
  (Toml.parse text).bind fun es => Toml.wellFormed (ofEntries? es)

structure PreferenceFile where
  path : String
  table : PreferenceTable

namespace PreferenceFile

/-- Opens the file at a path; where nothing is, the table starts empty. -/
def «open» (fs : Files) (path : String) : Except PreferenceError (PreferenceFile × Notice) :=
  if fs.isThere path then
    match fs.readText path with
    | .error e => .error (.access e)
    | .ok text =>
      match PreferenceTable.parse text with
      | .error fault => .error (.format fault)
      | .ok t => .ok (⟨path, t⟩, .loaded t.size path)
  else .ok (⟨path, .empty⟩, .noFile path)

def save (f : PreferenceFile) (fs : Files) : Except FileError Unit × Files :=
  fs.place f.path (.text (Toml.writeTable f.table))

end PreferenceFile

structure Saving (α : Type) where
  store : α
  files : Files
  result : Except PreferenceError Unit
  notices : List Notice

namespace PreferenceFile

def saved (f : PreferenceFile) (fs : Files) : Saving PreferenceFile :=
  match f.save fs with
  | (.ok (), fs) => ⟨f, fs, .ok (), [.wrote f.path]⟩
  | (.error e, fs) => ⟨f, fs, .error (.access e), []⟩

def set (f : PreferenceFile) (fs : Files) (key : String) (value : Preference) :
    Saving PreferenceFile :=
  saved { f with table := f.table.insert key value } fs

def remove (f : PreferenceFile) (fs : Files) (key : String) : Saving PreferenceFile :=
  if (f.table.get? key).isSome then saved { f with table := f.table.erase key } fs
  else ⟨f, fs, .ok (), []⟩

end PreferenceFile
end WalletLoop
