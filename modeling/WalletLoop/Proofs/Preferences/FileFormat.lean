import WalletLoop.Proofs.Files.Placing
import WalletLoop.Proofs.Toml.Documents

namespace WalletLoop.PreferenceFile

theorem readText_save {f : PreferenceFile} {fs fs' : Files} (saved : f.save fs = (.ok (), fs')) :
    fs'.isThere f.path = true ∧ fs'.readText f.path = .ok (Toml.writeTable f.table) :=
  have found := Files.look_place saved
  ⟨Files.isThere_of_look found, Files.readText_of_look found⟩

theorem open_written {fs : Files} {path : String} {t : PreferenceTable}
    (there : fs.isThere path = true) (written : fs.readText path = .ok (Toml.writeTable t)) :
    PreferenceFile.open fs path = .ok (⟨path, t⟩, .loaded t.size path) := by
  simp only [PreferenceFile.open, there, if_true, written,
    PreferenceTable.parse_writeTable]

/-- What a preference file is written as is a document of its entries, and where it was written it
is opened with all of them. -/
theorem open_save (f : PreferenceFile) :
    Toml.parse (Toml.writeTable f.table) =
        .ok (f.table.entries.map fun e => (e.1, e.2.item)) ∧
      PreferenceTable.parse (Toml.writeTable f.table) = .ok f.table ∧
      ∀ fs fs', f.save fs = (.ok (), fs') →
        fs'.readText f.path = .ok (Toml.writeTable f.table) ∧
        PreferenceFile.open fs' f.path = .ok (f, .loaded f.table.size f.path) := by
  refine ⟨Toml.parse_writeTable f.table, PreferenceTable.parse_writeTable f.table,
    fun fs fs' saved => ?_⟩
  obtain ⟨there, written⟩ := readText_save saved
  exact ⟨written, open_written there written⟩

def awkward : PreferenceFile :=
  ⟨"p", ((PreferenceTable.empty.insert "" (.text "'''\"\"\"\n\r\\")).insert "a.b" (.number 7)).insert
    "\x07 é" (.text "true")⟩

theorem open_awkward : awkward.save .empty = (.ok (), (awkward.save .empty).2) ∧
    PreferenceFile.open (awkward.save .empty).2 "p" = .ok (awkward, .loaded 3 "p") :=
  have saved : awkward.save .empty = (.ok (), (awkward.save .empty).2) := rfl
  ⟨saved, ((open_save awkward).2.2 _ _ saved).2⟩

end WalletLoop.PreferenceFile
