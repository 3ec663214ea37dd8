import WalletLoop.Files.Tree
import WalletLoop.Toml.Fault

namespace WalletLoop

inductive Preference where
  | flag (b : Bool)
  | number (n : Int64)
  | text (s : String)
deriving DecidableEq

inductive PreferenceKind where
  | flag
  | number
  | text
deriving DecidableEq

def PreferenceKind.name : PreferenceKind → String
  | .flag => "bool"
  | .number => "integer"
  | .text => "string"

def Preference.kind : Preference → PreferenceKind
  | .flag _ => .flag
  | .number _ => .number
  | .text _ => .text

inductive PreferenceError where
  | access (e : FileError)
  | format (fault : Toml.Fault)
  | mismatch (key : String) (expected found : PreferenceKind)
deriving DecidableEq

def PreferenceError.message : PreferenceError → String
  | .access e => "failed to access preference file: " ++ e.message
  | .format fault => "failed to parse preference file: " ++ fault.message
  | .mismatch key expected found =>
    "preference \x60" ++ key ++ "\x60 holds a " ++ found.name ++ " value, expected " ++ expected.name

abbrev Entry := String × Preference

/-- Keys in ascending order, each once. -/
structure PreferenceTable where
  entries : List Entry
  ascending : entries.Pairwise fun a b => a.1 < b.1

namespace PreferenceTable

def empty : PreferenceTable := ⟨[], .nil⟩

def insertEntry (key : String) (value : Preference) : List Entry → List Entry
  | [] => [(key, value)]
  | entry :: rest =>
    if key < entry.1 then (key, value) :: entry :: rest
    else if key = entry.1 then (key, value) :: rest
    else entry :: insertEntry key value rest

theorem mem_insertEntry {key : String} {value : Preference} {entries : List Entry} {e : Entry}
    (h : e ∈ insertEntry key value entries) : e = (key, value) ∨ e ∈ entries := by
  induction entries with
  | nil => simpa [insertEntry] using h
  | cons entry rest ih =>
    simp only [insertEntry] at h
    split at h
    · simpa using h
    · split at h
      · rcases List.mem_cons.1 h with h | h
        · exact .inl h
        · exact .inr (List.mem_cons_of_mem _ h)
      · rcases List.mem_cons.1 h with h | h
        · exact .inr (h ▸ List.mem_cons_self)
        · exact (ih h).imp_right (List.mem_cons_of_mem _)

theorem insertEntry_ascending (key : String) (value : Preference) {entries : List Entry}
    (h : entries.Pairwise fun a b => a.1 < b.1) :
    (insertEntry key value entries).Pairwise fun a b => a.1 < b.1 := by
  induction entries with
  | nil => simp [insertEntry]
  | cons entry rest ih =>
    have hr := List.pairwise_cons.1 h
    simp only [insertEntry]
    split
    · rename_i lt
      refine List.pairwise_cons.2 ⟨fun e he => ?_, h⟩
      rcases List.mem_cons.1 he with he | he
      · exact he ▸ lt
      · exact String.lt_trans lt (hr.1 e he)
    · rename_i notLt
      split
      · rename_i eq
        exact List.pairwise_cons.2 ⟨fun e he => by simpa [eq] using hr.1 e he, hr.2⟩
      · rename_i ne
        refine List.pairwise_cons.2 ⟨fun e he => ?_, ih hr.2⟩
        rcases mem_insertEntry he with he | he
        · subst he
          exact Classical.byContradiction fun hc =>
            ne (String.le_antisymm (String.not_lt.1 hc) (String.not_lt.1 notLt))
        · exact hr.1 e he

def get? (t : PreferenceTable) (key : String) : Option Preference :=
  (t.entries.find? fun entry => entry.1 == key).map Prod.snd

def insert (t : PreferenceTable) (key : String) (value : Preference) : PreferenceTable :=
  ⟨insertEntry key value t.entries, insertEntry_ascending key value t.ascending⟩

def erase (t : PreferenceTable) (key : String) : PreferenceTable :=
  ⟨t.entries.filter fun entry => entry.1 != key, t.ascending.filter _⟩

def size (t : PreferenceTable) : Nat := t.entries.length

end PreferenceTable
end WalletLoop
