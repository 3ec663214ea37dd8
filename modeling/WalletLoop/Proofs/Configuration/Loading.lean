import WalletLoop.Configuration.Basic
import WalletLoop.Proofs.Files.Placing
import WalletLoop.Proofs.Toml.DistinctKeys
import WalletLoop.Proofs.Toml.Documents

namespace WalletLoop

theorem Files.readText_iff {fs : Files} {path text : String} :
    fs.readText path = .ok text ↔ fs.look path = .ok (.file (.text text)) := by
  refine ⟨fun read => ?_, readText_of_look⟩
  rw [readText, Files.read] at read
  cases found : fs.look path with
  | error e => simp [found, Except.bind] at read
  | ok node =>
      cases node with
      | directory => simp [found, Except.bind] at read
      | file content =>
          cases content with
          | binary bytes unreadable => simp [found, Except.bind] at read
          | text s =>
              simp only [found, Except.bind, Except.ok.injEq] at read
              rw [read]

namespace Configuration
open Toml

def Under {α : Type} (es : Entries) (key : String) (kind : α → Item) : Option α → Prop
  | some a => (key, kind a) ∈ es
  | none => ∀ item, (key, item) ∉ es

/-- The settings that the entries of a document give. A setting whose key is missing has its
standard value. -/
structure Holds (es : Entries) (c : Configuration) : Prop where
  preferencesFile : Under es "preferences_file" .text c.preferencesFile
  telemetryEnabled :
    ∃ found, Under es "telemetry_enabled" .flag found ∧ c.telemetryEnabled = found.getD true
  logLevel : ∃ found, Under es "log_level" .text found ∧ c.logLevel = found.getD "info"

def Fits (key : String) (item : Item) : Prop :=
  (key = "preferences_file" → ∃ s, item = .text s) ∧
    (key = "telemetry_enabled" → ∃ b, item = .flag b) ∧
    (key = "log_level" → ∃ s, item = .text s)

section Document
variable {es es' : Entries} {key : String}

theorem text?_iff (distinct : es.Distinct) {found : Option String} :
    text? es key = some found ↔ Under es key .text found := by
  unfold text?
  cases under : es.find? key with
  | none =>
      have missing := Entries.find?_eq_none.1 under
      cases found <;> simp [Under, missing]
  | some item => cases found <;> cases item <;> simp [Under, distinct.mem_iff under]

theorem flag?_iff (distinct : es.Distinct) {found : Option Bool} :
    flag? es key = some found ↔ Under es key .flag found := by
  unfold flag?
  cases under : es.find? key with
  | none =>
      have missing := Entries.find?_eq_none.1 under
      cases found <;> simp [Under, missing]
  | some item => cases found <;> cases item <;> simp [Under, distinct.mem_iff under]

theorem ofEntries?_iff (distinct : es.Distinct) {c : Configuration} :
    ofEntries? es = some c ↔ Holds es c := by
  simp only [ofEntries?, Option.bind_eq_some_iff, Option.map_eq_some_iff, text?_iff distinct,
    flag?_iff distinct]
  constructor
  · rintro ⟨file, underFile, flag, underFlag, level, underLevel, rfl⟩
    exact ⟨underFile, ⟨flag, underFlag, rfl⟩, ⟨level, underLevel, rfl⟩⟩
  · rintro ⟨underFile, ⟨flag, underFlag, sameFlag⟩, ⟨level, underLevel, sameLevel⟩⟩
    refine ⟨c.preferencesFile, underFile, flag, underFlag, level, underLevel, ?_⟩
    cases c
    rw [Configuration.mk.injEq]
    exact ⟨rfl, sameFlag.symm, sameLevel.symm⟩

theorem exists_under {α : Type} {kind : α → Item} (distinct : es.Distinct) :
    (∃ found, Under es key kind found) ↔ ∀ item, (key, item) ∈ es → ∃ a, item = kind a := by
  constructor
  · rintro ⟨found, under⟩ item there
    cases found with
    | none => exact absurd there (under item)
    | some a =>
        have found := distinct.find?_eq_some.2 there
        exact ⟨a, (distinct.mem_iff found).1 under⟩
  · intro only
    cases under : es.find? key with
    | none => exact ⟨none, Entries.find?_eq_none.1 under⟩
    | some item =>
        have there := distinct.find?_eq_some.1 under
        obtain ⟨a, rfl⟩ := only item there
        exact ⟨some a, there⟩

theorem exists_holds (distinct : es.Distinct) :
    (∃ c, Holds es c) ↔ ∀ e ∈ es, Fits e.1 e.2 := by
  constructor
  · rintro ⟨c, underFile, ⟨flag, underFlag, -⟩, ⟨level, underLevel, -⟩⟩ ⟨key, item⟩ there
    refine ⟨?_, ?_, ?_⟩ <;> rintro rfl
    · exact (exists_under distinct).1 ⟨_, underFile⟩ item there
    · exact (exists_under distinct).1 ⟨_, underFlag⟩ item there
    · exact (exists_under distinct).1 ⟨_, underLevel⟩ item there
  · intro fits
    obtain ⟨file, underFile⟩ := (exists_under distinct).2 fun item there => (fits _ there).1 rfl
    obtain ⟨flag, underFlag⟩ := (exists_under distinct).2 fun item there => (fits _ there).2.1 rfl
    obtain ⟨level, underLevel⟩ := (exists_under distinct).2 fun item there => (fits _ there).2.2 rfl
    exact ⟨⟨file, flag.getD true, level.getD "info"⟩, underFile, ⟨flag, underFlag, rfl⟩,
      ⟨level, underLevel, rfl⟩⟩

def Agree (es es' : Entries) (key : String) : Prop := ∀ item, (key, item) ∈ es ↔ (key, item) ∈ es'

theorem under_congr {α : Type} {kind : α → Item} {found : Option α} (agree : Agree es es' key) :
    Under es key kind found ↔ Under es' key kind found := by
  cases found with
  | none => exact forall_congr' fun item => not_congr (agree item)
  | some a => exact agree (kind a)

theorem Holds.congr {c : Configuration} (holds : Holds es c)
    (agree : ∀ key ∈ ["preferences_file", "telemetry_enabled", "log_level"], Agree es es' key) :
    Holds es' c := by
  have file : Agree es es' "preferences_file" := agree _ (by simp)
  have flag : Agree es es' "telemetry_enabled" := agree _ (by simp)
  have level : Agree es es' "log_level" := agree _ (by simp)
  exact ⟨(under_congr file).1 holds.preferencesFile,
    holds.telemetryEnabled.imp fun _ => And.imp_left (under_congr flag).1,
    holds.logLevel.imp fun _ => And.imp_left (under_congr level).1⟩

theorem parse_iff {text : String} (parsed : Toml.parse text = .ok es) {c : Configuration} :
    parse text = .ok c ↔ Holds es c := by
  rw [← ofEntries?_iff (distinct_parse parsed), parse, parsed, Except.bind]
  cases ofEntries? es <;> simp [wellFormed]

end Document

def Loads (fs : Files) (path : String) (c : Configuration) : Prop :=
  ∃ text es, fs.look path = .ok (.file (.text text)) ∧ Toml.parse text = .ok es ∧ Holds es c

inductive Useless (fs : Files) (path : String) : Prop where
  | unreachable (e : FileError) (found : fs.look path = .error e)
  | directory (found : fs.look path = .ok .directory)
  | binary (bytes : List UInt8) (unreadable : String.fromUTF8? ⟨bytes.toArray⟩ = none)
      (found : fs.look path = .ok (.file (.binary bytes unreadable)))
  | malformed (text : String) (fault : Fault) (found : fs.look path = .ok (.file (.text text)))
      (failed : Toml.parse text = .error fault)
  | misfit (text : String) (es : Entries) (key : String) (item : Item)
      (found : fs.look path = .ok (.file (.text text))) (parsed : Toml.parse text = .ok es)
      (there : (key, item) ∈ es) (unfit : ¬ Fits key item)

section Files
variable {fs : Files} {path : String} {c : Configuration}

theorem loads_text {text : String} {es : Entries} (found : fs.look path = .ok (.file (.text text)))
    (parsed : Toml.parse text = .ok es) : Loads fs path c ↔ Holds es c := by
  refine ⟨?_, fun holds => ⟨text, es, found, parsed, holds⟩⟩
  rintro ⟨text', es', found', parsed', holds⟩
  obtain rfl : text = text' := by simpa [found] using found'
  obtain rfl : es = es' := by simpa [parsed] using parsed'
  exact holds

theorem loads_iff :
    Loads fs path c ↔ ∃ text, fs.readText path = .ok text ∧ parse text = .ok c := by
  constructor
  · rintro ⟨text, es, found, parsed, holds⟩
    exact ⟨text, Files.readText_iff.2 found, (parse_iff parsed).2 holds⟩
  · rintro ⟨text, read, accepted⟩
    obtain ⟨es, parsed, -⟩ := Entries.eq_ok_of_bind accepted
    exact ⟨text, es, Files.readText_iff.1 read, parsed, (parse_iff parsed).1 accepted⟩

theorem useless_iff : Useless fs path ↔ ∀ c, ¬ Loads fs path c := by
  constructor
  · rintro useless c ⟨text, es, found, parsed, holds⟩
    cases useless with
    | unreachable e other => simp [found] at other
    | directory other => simp [found] at other
    | binary bytes unreadable other => simp [found] at other
    | malformed text' fault other failed =>
        obtain rfl : text = text' := by simpa [found] using other
        simp [parsed] at failed
    | misfit text' es' key item other parsed' there unfit =>
        obtain rfl : text = text' := by simpa [found] using other
        obtain rfl : es = es' := by simpa [parsed] using parsed'
        exact unfit ((exists_holds (distinct_parse parsed)).1 ⟨c, holds⟩ _ there)
  · intro nothing
    cases found : fs.look path with
    | error e => exact .unreachable e found
    | ok node =>
        cases node with
        | directory => exact .directory found
        | file content =>
            cases content with
            | binary bytes unreadable => exact .binary bytes unreadable found
            | text text =>
                cases parsed : Toml.parse text with
                | error fault => exact .malformed text fault found parsed
                | ok es =>
                    have unfit : ¬ ∀ e ∈ es, Fits e.1 e.2 := by
                      rw [← exists_holds (distinct_parse parsed)]
                      rintro ⟨c, holds⟩
                      exact nothing c ⟨text, es, found, parsed, holds⟩
                    simp only [not_forall] at unfit
                    obtain ⟨⟨key, item⟩, there, unfit⟩ := unfit
                    exact .misfit text es key item found parsed there unfit

theorem loadFirst_of_loads (loads : Loads fs path c) (rest : List String) :
    (loadFirst fs (path :: rest)).1 = c := by
  obtain ⟨text, read, accepted⟩ := loads_iff.1 loads
  rw [loadFirst, read]
  simp only [accepted]

theorem loadFirst_of_useless (useless : Useless fs path) (rest : List String) :
    (loadFirst fs (path :: rest)).1 = (loadFirst fs rest).1 := by
  rw [loadFirst]
  split
  · rfl
  · split
    · exact absurd (loads_iff.2 ⟨_, ‹_›, ‹_›⟩) (useless_iff.1 useless _)
    · rfl

theorem loads_or_useless (fs : Files) (path : String) : (∃ c, Loads fs path c) ∨ Useless fs path := by
  rw [useless_iff, ← not_exists]
  exact Classical.em _

end Files

def AtHome (env : Environment) (fs : Files) (c : Configuration) : Prop :=
  ∃ home, env.home = some home ∧ Loads fs (Path.join home ".wallet-store.toml") c

def NotAtHome (env : Environment) (fs : Files) : Prop :=
  ∀ home, env.home = some home → Useless fs (Path.join home ".wallet-store.toml")

/-- The configuration in the current directory, else the one in the home directory, else the
standard one. -/
inductive Chosen (env : Environment) (fs : Files) : Configuration → Prop where
  | here {c : Configuration} (loads : Loads fs ".wallet-store.toml" c) : Chosen env fs c
  | home {c : Configuration} (useless : Useless fs ".wallet-store.toml") (loads : AtHome env fs c) :
      Chosen env fs c
  | standard (useless : Useless fs ".wallet-store.toml") (nowhere : NotAtHome env fs) :
      Chosen env fs ⟨none, true, "info"⟩

section Choice
variable {env env' : Environment} {fs fs' : Files} {c : Configuration}

theorem load_of_chosen (chosen : Chosen env fs c) : (load env fs).1 = c := by
  rw [load, candidates]
  cases chosen with
  | here loads => exact loadFirst_of_loads loads _
  | home useless loads =>
      obtain ⟨home, named, loads⟩ := loads
      rw [fileName, loadFirst_of_useless useless, named]
      exact loadFirst_of_loads loads _
  | standard useless nowhere =>
      rw [fileName, loadFirst_of_useless useless]
      cases named : env.home with
      | none => rfl
      | some home => exact loadFirst_of_useless (nowhere home named) []

theorem exists_chosen (env : Environment) (fs : Files) : ∃ c, Chosen env fs c := by
  obtain ⟨c, loads⟩ | useless := loads_or_useless fs ".wallet-store.toml"
  · exact ⟨c, .here loads⟩
  cases named : env.home with
  | none => exact ⟨_, .standard useless fun home there => by simp [named] at there⟩
  | some home =>
      obtain ⟨c, loads⟩ | nothing := loads_or_useless fs (Path.join home ".wallet-store.toml")
      · exact ⟨c, .home useless ⟨home, named, loads⟩⟩
      · refine ⟨_, .standard useless fun home' there => ?_⟩
        obtain rfl : home = home' := by simpa [named] using there
        exact nothing

theorem load_iff_chosen : (load env fs).1 = c ↔ Chosen env fs c := by
  refine ⟨?_, load_of_chosen⟩
  rintro rfl
  obtain ⟨c, chosen⟩ := exists_chosen env fs
  rwa [load_of_chosen chosen]

theorem notAtHome_iff : NotAtHome env fs ↔ ∀ c, ¬ AtHome env fs c := by
  simp only [NotAtHome, AtHome, useless_iff]
  constructor
  · rintro nowhere c ⟨home, named, loads⟩
    exact nowhere home named c loads
  · exact fun nowhere home named c loads => nowhere c ⟨home, named, loads⟩

theorem chosen_congr
    (here : ∀ c, Loads fs ".wallet-store.toml" c ↔ Loads fs' ".wallet-store.toml" c)
    (home : Useless fs ".wallet-store.toml" → ∀ c, AtHome env fs c ↔ AtHome env' fs' c)
    (chosen : Chosen env fs c) : Chosen env' fs' c := by
  have same : Useless fs ".wallet-store.toml" → Useless fs' ".wallet-store.toml" := by
    simp only [useless_iff, here]
    exact id
  cases chosen with
  | here loads => exact .here ((here c).1 loads)
  | home useless loads => exact .home (same useless) ((home useless c).1 loads)
  | standard useless nowhere =>
      refine .standard (same useless) (notAtHome_iff.2 fun c loads => ?_)
      exact notAtHome_iff.1 nowhere c ((home useless c).2 loads)

end Choice

/-- What is loaded is the choice among the two files. A useless file has no part in it, whatever
makes it useless, and neither has the file at home when the one here was accepted; in an accepted
text, nothing but the three known keys counts. -/
theorem load_chosen (env : Environment) (fs : Files) :
    (∀ c, (load env fs).1 = c ↔ Chosen env fs c) ∧
      (∀ path, Useless fs path ↔ ∀ c, ¬ Loads fs path c) ∧
      (∀ env' fs',
        (∀ c, Loads fs ".wallet-store.toml" c ↔ Loads fs' ".wallet-store.toml" c) →
        (Useless fs ".wallet-store.toml" → ∀ c, AtHome env fs c ↔ AtHome env' fs' c) →
        (load env' fs').1 = (load env fs).1) ∧
      ∀ fs' path path' text text' es es',
        fs.look path = .ok (.file (.text text)) → fs'.look path' = .ok (.file (.text text')) →
        Toml.parse text = .ok es → Toml.parse text' = .ok es' →
        (∀ key ∈ ["preferences_file", "telemetry_enabled", "log_level"], Agree es es' key) →
        ∀ c, Loads fs path c ↔ Loads fs' path' c := by
  refine ⟨fun c => load_iff_chosen, fun path => useless_iff, fun env' fs' here home => ?_, ?_⟩
  · exact load_of_chosen (chosen_congr here home (load_iff_chosen.1 rfl))
  · intro fs' path path' text text' es es' found found' parsed parsed' agree c
    rw [loads_text found parsed, loads_text found' parsed']
    have agree' : ∀ key ∈ ["preferences_file", "telemetry_enabled", "log_level"], Agree es' es key :=
      fun key known item => (agree key known item).symm
    exact ⟨(·.congr agree), (·.congr agree')⟩

def traceText : String := "extra = false\nlog_level = \"trace\"\n"

def unfitText : String := "log_level = true\n"

def unfitHere : Files :=
  ⟨[([".wallet-store.toml"], .file (.text unfitText)), (["h"], .directory),
    (["h", ".wallet-store.toml"], .file (.text traceText))], ⟨[], 0⟩, []⟩

def directoryHere : Files :=
  ⟨[([".wallet-store.toml"], .directory), (["h"], .directory),
    (["h", ".wallet-store.toml"], .file (.text traceText))], ⟨[], 0⟩, []⟩

theorem parse_unfitText : Toml.parse unfitText = .ok [("log_level", .flag true)] :=
  Toml.parse_writeTable (PreferenceTable.empty.insert "log_level" (.flag true))

theorem parse_traceText :
    Toml.parse traceText = .ok [("extra", .flag false), ("log_level", .text "trace")] :=
  Toml.parse_writeTable ⟨[("extra", .flag false), ("log_level", .text "trace")], by decide⟩

theorem trace_from_home :
    let env : Environment := ⟨some "h", none, none⟩
    (load env unfitHere).1 = ⟨none, true, "trace"⟩ ∧
      (load env directoryHere).1 = ⟨none, true, "trace"⟩ := by
  intro env
  obtain ⟨chosen, reasons, only, texts⟩ := load_chosen env unfitHere
  have found : unfitHere.look "h/.wallet-store.toml" = .ok (.file (.text traceText)) := rfl
  have found' : directoryHere.look "h/.wallet-store.toml" = .ok (.file (.text traceText)) := rfl
  have useless : Useless unfitHere ".wallet-store.toml" :=
    .misfit unfitText _ "log_level" (.flag true) rfl parse_unfitText (by simp) (by simp [Fits])
  have useless' : Useless directoryHere ".wallet-store.toml" := .directory rfl
  have holds : Holds [("extra", .flag false), ("log_level", .text "trace")] ⟨none, true, "trace"⟩ :=
    ⟨by simp [Under], ⟨none, by simp [Under], rfl⟩, ⟨some "trace", by simp [Under], rfl⟩⟩
  have home : AtHome env unfitHere ⟨none, true, "trace"⟩ :=
    ⟨"h", rfl, traceText, _, found, parse_traceText, holds⟩
  have loaded : (load env unfitHere).1 = ⟨none, true, "trace"⟩ := (chosen _).2 (.home useless home)
  refine ⟨loaded, ?_⟩
  rw [only env directoryHere ?_ ?_, loaded]
  · intro c
    simp only [(reasons _).1 useless, useless_iff.1 useless']
  · intro _ c
    have same := texts directoryHere _ _ _ _ _ _ found found' parse_traceText parse_traceText
      (fun _ _ _ => Iff.rfl) c
    constructor <;> rintro ⟨home, named, loads⟩
    · cases named
      exact ⟨"h", rfl, same.1 loads⟩
    · cases named
      exact ⟨"h", rfl, same.2 loads⟩

end Configuration
end WalletLoop
