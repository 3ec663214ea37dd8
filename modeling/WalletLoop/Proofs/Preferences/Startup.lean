import WalletLoop.Proofs.Files.Placing
import WalletLoop.Proofs.Preferences.Stores
import WalletLoop.Proofs.Toml.Documents
import WalletLoop.Simulation

namespace WalletLoop

def Persisted.ofKeys (found : String → Option Preference) : Persisted where
  altCurrencyDisplayed :=
    match found SettingKey.altCurrencyDisplayed with
    | some (.flag b) => b
    | _ => standard.altCurrencyDisplayed
  touchIdEnabled :=
    match found SettingKey.touchIdEnabled with
    | some (.flag b) => b
    | _ => standard.touchIdEnabled
  maxDisplayDigits :=
    match found SettingKey.maxDisplayDigits with
    | some (.number n) => n
    | _ => standard.maxDisplayDigits
  pushNotificationsEnabled :=
    match found SettingKey.pushToken with
    | some (.text _) => true
    | _ => standard.pushNotificationsEnabled
  defaultCurrencyCode :=
    match found SettingKey.defaultCurrencyCode with
    | some (.text s) => s
    | _ => standard.defaultCurrencyCode

section Load
variable {get : Lookup} {found : String → Option Preference}

theorem Lookup.typed_eq {α : Type} (same : ∀ key, get key = .ok (found key))
    (kind : PreferenceKind) (cast : Preference → Option α) (key : String) :
    get.typed kind cast key =
      match found key with
      | none => .ok none
      | some value =>
        match cast value with
        | some a => .ok (some a)
        | none => .error (.mismatch key kind value.kind) := by
  rw [typed, same]
  cases found key <;> rfl

theorem Persisted.load_eq_ofKeys (same : ∀ key, get key = .ok (found key)) :
    (load get).1 = ofKeys found := by
  simp only [load, ofKeys, Lookup.flag, Lookup.number, Lookup.text, Lookup.typed_eq same]
  congr 1
  · cases found SettingKey.altCurrencyDisplayed with
    | none => rfl
    | some value => cases value <;> rfl
  · cases found SettingKey.touchIdEnabled with
    | none => rfl
    | some value => cases value <;> rfl
  · cases found SettingKey.maxDisplayDigits with
    | none => rfl
    | some value => cases value <;> rfl
  · cases found SettingKey.pushToken with
    | none => rfl
    | some value => cases value <;> rfl
  · cases found SettingKey.defaultCurrencyCode with
    | none => rfl
    | some value => cases value <;> rfl

end Load

namespace PreferenceTable

theorem ofEntries?_eq_none {es : Toml.Entries}
    (other : ∃ e ∈ es, Preference.ofItem? e.2 = none) : ofEntries? es = none := by
  induction es with
  | nil =>
      obtain ⟨e, member, -⟩ := other
      cases member
  | cons e es ih =>
      rw [ofEntries?]
      cases value : Preference.ofItem? e.2 with
      | none => rfl
      | some v =>
          obtain ⟨e', member, bad⟩ := other
          obtain rfl | later := List.mem_cons.1 member
          · rw [bad] at value
            cases value
          · rw [Option.bind_some, ih ⟨e', later, bad⟩]
            rfl

theorem get?_ofEntries {es : Toml.Entries}
    (all : ∀ e ∈ es, (Preference.ofItem? e.2).isSome) :
    ∃ t, ofEntries? es = some t ∧
      ∀ key, t.get? key = (es.find? key).bind Preference.ofItem? := by
  induction es with
  | nil => exact ⟨.empty, rfl, fun key => rfl⟩
  | cons e es ih =>
      obtain ⟨v, value⟩ := Option.isSome_iff_exists.1 (all e (by simp))
      obtain ⟨t, rest, reads⟩ := ih fun e' member => all e' (by simp [member])
      refine ⟨t.insert e.1 v, by rw [ofEntries?, value, Option.bind_some, rest]; rfl, fun key => ?_⟩
      rw [get?_insert, Toml.Entries.find?, List.find?_cons]
      by_cases here : key = e.1
      · simp [here, value]
      · rw [if_neg here, beq_false_of_ne (Ne.symm here)]
        exact reads key

end PreferenceTable

namespace Toml

def digitsLine : List Token :=
  [.word "SETTINGS_MAX_DIGITS".toList, .blanks [' '], .equals, .blanks [' '], .openBracket,
    .closeBracket, .lineEnd]

theorem statement_digitsLine (ts : List Token) : statement (digitsLine ++ ts) =
    some (.assign [some SettingKey.maxDisplayDigits] (.brackets []), .lineEnd :: ts) := by
  have key : keys (digitsLine ++ ts) =
      ([some SettingKey.maxDisplayDigits], digitsLine.drop 2 ++ ts) := rfl
  have empty {fuel : Nat} (enough : 0 < fuel) (depth : Nat) (ts : List Token) :
      values fuel depth (.closeBracket :: ts) = some ([], ts) := by
    cases fuel with
    | zero => cases enough
    | succ fuel => simp [values, skipSpace]
  change assignment (digitsLine ++ ts) = _
  rw [assignment, key]
  simp only [digitsLine, List.drop_succ_cons, List.drop_zero, List.cons_append, List.nil_append,
    skipBlanks, value]
  rw [if_pos (by decide), empty (by simp)]
  rfl

def touchId : Entry := (SettingKey.touchIdEnabled, .flag true)

theorem parse_digits_touchId : parse "SETTINGS_MAX_DIGITS = []\nistouchidenabled = true\n" =
    .ok [("SETTINGS_MAX_DIGITS", .array []), ("istouchidenabled", .flag true)] := by
  have later : lines 13 ([touchId].flatMap entryTokens) =
      some [.assign (assigned touchId).1 (assigned touchId).2] := lines_entries (by decide)
  have all : statements? "SETTINGS_MAX_DIGITS = []\nistouchidenabled = true\n" =
      lines 14 (digitsLine ++ [touchId].flatMap entryTokens) := rfl
  rw [parse, all, lines_line rfl (statement_digitsLine _), later]
  rfl

end Toml

namespace Simulation

theorem openPreferences_table {c : Configuration} {env : Environment} {fs fs' : Files}
    {path text : String} (located : c.preferencesPath env fs = (.ok path, fs'))
    (read : fs'.readText path = .ok text) :
    (openPreferences c env fs).1 =
      match PreferenceTable.parse text with
      | .ok t => .file ⟨path, t⟩
      | .error _ => .memory .empty := by
  have there := Files.isThere_of_readText read
  simp only [openPreferences, located, PreferenceFile.open, there, read, if_true]
  cases PreferenceTable.parse text <;> rfl

/-- A file gives each setting by its own key alone if all its values are preferences, and else no
setting at all. -/
theorem load_openPreferences {c : Configuration} {env : Environment} {fs fs' : Files}
    {path text : String} {es : Toml.Entries}
    (located : c.preferencesPath env fs = (.ok path, fs'))
    (read : fs'.readText path = .ok text) (parsed : Toml.parse text = .ok es) :
    let settings := (Persisted.load (openPreferences c env fs).1.lookup).1
    ((∀ e ∈ es, (Preference.ofItem? e.2).isSome) →
        settings = .ofKeys fun key => (es.find? key).bind Preference.ofItem?) ∧
      ((∃ e ∈ es, Preference.ofItem? e.2 = none) → settings = .standard) := by
  have opened := openPreferences_table located read
  refine ⟨fun all => ?_, fun other => ?_⟩
  · obtain ⟨t, table, reads⟩ := PreferenceTable.get?_ofEntries all
    have whole : PreferenceTable.parse text = .ok t := by
      rw [PreferenceTable.parse, parsed]
      simp only [Except.bind, table, Toml.wellFormed]
    rw [opened, whole]
    exact Persisted.load_eq_ofKeys fun key => congrArg Except.ok (reads key)
  · have nothing : PreferenceTable.parse text = .error .malformed := by
      rw [PreferenceTable.parse, parsed]
      simp only [Except.bind, PreferenceTable.ofEntries?_eq_none other, Toml.wellFormed]
    rw [opened, nothing]
    exact Persisted.load_eq_ofKeys fun _ => rfl

def configured : Configuration := { Configuration.standard with preferencesFile := some "p" }

def fileWith (text : String) : Files := ⟨[(["p"], .file (.text text))], ⟨[], 0⟩, []⟩

theorem touchId_loaded :
    let text := "istouchidenabled = true\n"
    let settings :=
      (Persisted.load (openPreferences configured ⟨none, none, none⟩ (fileWith text)).1.lookup).1
    Toml.parse text = .ok [("istouchidenabled", .flag true)] ∧ settings.touchIdEnabled = true := by
  intro text settings
  have located : configured.preferencesPath ⟨none, none, none⟩ (fileWith text) =
      (.ok "p", fileWith text) := rfl
  have read : (fileWith text).readText "p" = .ok text := rfl
  have parsed : Toml.parse text = .ok [("istouchidenabled", .flag true)] :=
    Toml.parse_writeTable (PreferenceTable.empty.insert Toml.touchId.1 Toml.touchId.2)
  have all := (load_openPreferences located read parsed).1 (by simp [Preference.ofItem?])
  exact ⟨parsed, congrArg Persisted.touchIdEnabled all⟩

theorem array_costs_touchId :
    let text := "SETTINGS_MAX_DIGITS = []\nistouchidenabled = true\n"
    let settings :=
      (Persisted.load (openPreferences configured ⟨none, none, none⟩ (fileWith text)).1.lookup).1
    Toml.parse text =
        .ok [("SETTINGS_MAX_DIGITS", .array []), ("istouchidenabled", .flag true)] ∧
      settings.touchIdEnabled = false := by
  intro text settings
  have parsed : Toml.parse text = _ := Toml.parse_digits_touchId
  have failed : PreferenceTable.parse text = .error .malformed := by
    rw [PreferenceTable.parse, parsed]
    rfl
  have opened : (openPreferences configured ⟨none, none, none⟩ (fileWith text)).1 =
      .memory .empty := by
    rw [openPreferences_table rfl rfl, failed]
  refine ⟨parsed, ?_⟩
  change (Persisted.load (openPreferences configured _ _).1.lookup).1.touchIdEnabled = false
  rw [opened]
  rfl

end Simulation
end WalletLoop
