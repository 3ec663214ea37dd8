import WalletLoop.Preferences.File
import WalletLoop.Preferences.Settings

/-!
Preference stores: a table in memory, a preference file, or a table in memory behind a guard that
denies some calls. A denied call changes nothing.
-/

namespace WalletLoop

inductive PreferenceCall where
  | get
  | set
  | remove
deriving DecidableEq

def PreferenceCall.name : PreferenceCall → String
  | .get => "get"
  | .set => "set"
  | .remove => "remove"

def PreferenceCall.all : List PreferenceCall := [.get, .set, .remove]

def PreferenceCall.ofName? (s : String) : Option PreferenceCall := all.find? fun c => c.name == s

inductive PreferenceStore where
  | memory (table : PreferenceTable)
  | file (f : PreferenceFile)
  | guarded (denied : List PreferenceCall) (table : PreferenceTable)

namespace PreferenceStore

def denial (call : PreferenceCall) : PreferenceError := .access (.refused (call.name ++ " denied"))

def lookup : PreferenceStore → Lookup
  | memory t => fun key => .ok (t.get? key)
  | file f => fun key => .ok (f.table.get? key)
  | guarded denied t => fun key =>
    if .get ∈ denied then .error (denial .get) else .ok (t.get? key)

def ofFile (s : Saving PreferenceFile) : Saving PreferenceStore :=
  ⟨file s.store, s.files, s.result, s.notices⟩

def set (fs : Files) (key : String) (value : Preference) : PreferenceStore → Saving PreferenceStore
  | memory t => ⟨memory (t.insert key value), fs, .ok (), []⟩
  | file f => ofFile (f.set fs key value)
  | guarded denied t =>
    if .set ∈ denied then ⟨guarded denied t, fs, .error (denial .set), []⟩
    else ⟨guarded denied (t.insert key value), fs, .ok (), []⟩

def remove (fs : Files) (key : String) : PreferenceStore → Saving PreferenceStore
  | memory t => ⟨memory (t.erase key), fs, .ok (), []⟩
  | file f => ofFile (f.remove fs key)
  | guarded denied t =>
    if .remove ∈ denied then ⟨guarded denied t, fs, .error (denial .remove), []⟩
    else ⟨guarded denied (t.erase key), fs, .ok (), []⟩

end PreferenceStore
end WalletLoop
