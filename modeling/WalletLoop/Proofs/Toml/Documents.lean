import Mathlib.Data.List.TakeDrop
import WalletLoop.Preferences.File
import WalletLoop.Proofs.Toml.QuotedTexts
import WalletLoop.Proofs.Toml.Scalars

namespace WalletLoop

def Preference.item : Preference → Toml.Item
  | .flag b => .flag b
  | .number n => .number (some n.toInt)
  | .text s => .text s

namespace Toml
open Token

def marks : List Char :=
  ['.', '=', ',', '[', ']', '\x7b', '\x7d', ' ', '\t', '#', '\n', '\r', '"', '\'', '\ufeff']

theorem isBare_apart {c : Char} (bare : isBare c = true) : c ∉ marks := by
  have quoted : marks.all (fun d => !isBare d) = true := rfl
  intro member
  have unfit := List.all_eq_true.1 quoted c member
  simp [bare] at unfit

theorem endsWord_of_isBare {c : Char} (bare : isBare c = true) : endsWord c = false := by
  have apart := isBare_apart bare
  simp only [marks, List.mem_cons, not_or] at apart
  simp [endsWord, ofMark?, isBlank, apart]

theorem readQuoted?_of_isBare {c : Char} (bare : isBare c = true) (s : List Char) :
    readQuoted? (c :: s) = none := by
  have apart := isBare_apart bare
  simp only [marks, List.mem_cons, not_or] at apart
  rw [readQuoted?]
  all_goals
    rintro t ⟨⟩
    simp at apart

/-- A text that is one token where a character follows that ends words. -/
structure Stands (w : List Char) (token : Token) : Prop where
  head : ∃ c t, w = c :: t ∧ isBlank c = false ∧ c ≠ '\ufeff'
  reads : ∀ bound d rest, endsWord d = true →
    read? (bound + 1) (w ++ d :: rest) = (read? bound (d :: rest)).map (token :: ·)

theorem span_append {p : Char → Bool} {w : List Char} {d : Char} (inside : ∀ c ∈ w, p c = true)
    (outside : p d = false) (rest : List Char) : (w ++ d :: rest).span p = (w, d :: rest) := by
  rw [List.span_eq_takeWhile_dropWhile, List.takeWhile_append_of_pos inside,
    List.dropWhile_append_of_pos inside]
  simp [outside]

theorem stands_word {w : List Char} (nonempty : w ≠ []) (bare : w.all isBare = true) :
    Stands w (.word w) := by
  cases w with
  | nil => exact absurd rfl nonempty
  | cons c w =>
      have allBare := List.all_eq_true.1 bare
      have first := allBare c (by simp)
      have apart := isBare_apart first
      simp only [marks, List.mem_cons, not_or] at apart
      refine ⟨⟨c, w, rfl, by simp [isBlank, apart], by simp [apart]⟩, fun bound d rest ends => ?_⟩
      have span := span_append (p := fun c => !endsWord c) (w := c :: w) (d := d)
        (fun e member => by simp [endsWord_of_isBare (allBare e member)]) (by simp [ends]) rest
      have unmarked : ofMark? c = none := by simp [ofMark?, apart]
      have noBlank : isBlank c = false := by simp [isBlank, apart]
      rw [List.cons_append] at span ⊢
      rw [read?.eq_def]
      simp only [unmarked, readQuoted?_of_isBare first, noBlank, span, apart, Bool.false_eq_true,
        if_false, or_self]

theorem quotedAs_head (s : List Char) (f : Form) :
    ∃ c t, quotedAs s f = c :: t ∧ (c = '"' ∨ c = '\'') := by
  cases f with
  | basic => exact ⟨'"', _, rfl, .inl rfl⟩
  | literal => exact ⟨'\'', _, rfl, .inr rfl⟩
  | basicLines => exact ⟨'"', _, rfl, .inl rfl⟩
  | literalLines => exact ⟨'\'', _, rfl, .inr rfl⟩

theorem stands_quoted {s : List Char} {f : Form} (suits : Suits s f) :
    Stands (quotedAs s f) (.quoted f (afterQuotes s f)) := by
  obtain ⟨c, t, same, quote⟩ := quotedAs_head s f
  refine ⟨⟨c, t, same, ?_⟩, fun bound d rest ends => ?_⟩
  · obtain rfl | rfl := quote <;> decide
  · have apart : d ≠ '"' ∧ d ≠ '\'' := by
      refine ⟨?_, ?_⟩ <;> (rintro rfl; revert ends; decide)
    have unmarked : ofMark? c = none := by obtain rfl | rfl := quote <;> rfl
    have quoted := readQuoted?_quotedAs suits apart rest
    rw [same, List.cons_append] at quoted ⊢
    rw [read?.eq_def]
    simp [unmarked, quoted]

def keyToken (s : List Char) : Token :=
  match keyForm s with
  | none => .word s
  | some f => .quoted f (afterQuotes s f)

def valueToken : Preference → Token
  | .flag b => .word (if b then "true".toList else "false".toList)
  | .number n => .word (decimalInt n.toInt)
  | .text s => .quoted (form s.toList) (afterQuotes s.toList (form s.toList))

def entryTokens (e : Entry) : List Token :=
  [keyToken e.1.toList, .blanks [' '], .equals, .blanks [' '], valueToken e.2, .lineEnd]

theorem bare_of_keyForm {s : List Char} (bare : keyForm s = none) : s ≠ [] ∧ s.all isBare := by
  unfold keyForm at bare
  split at bare
  · assumption
  · extract_lets plain at bare
    split at bare
    · cases bare
    · split at bare <;> cases bare

theorem stands_key (s : List Char) : Stands (writeKey s) (keyToken s) := by
  unfold writeKey keyToken
  cases quoted : keyForm s with
  | none =>
      have bare := bare_of_keyForm quoted
      exact stands_word bare.1 bare.2
  | some f => exact stands_quoted (suits_keyForm quoted).1

theorem isBare_of_isDigit {c : Char} (digit : Scalar.isDigit c = true) : isBare c = true := by
  simp only [Scalar.isDigit] at digit
  simp [isBare, digit]

theorem stands_value (v : Preference) : Stands (writeValue v) (valueToken v) := by
  cases v with
  | flag b => cases b <;> exact stands_word (by decide) (by decide)
  | number n =>
      obtain ⟨c, s, same, first, later⟩ := Scalar.decimalInt_cons n.toInt
      refine stands_word (w := decimalInt n.toInt) (by simp [same]) ?_
      rw [same, List.all_cons, Bool.and_eq_true, List.all_eq_true]
      refine ⟨?_, fun d member => isBare_of_isDigit (later d member)⟩
      obtain rfl | digit := first
      · decide
      · exact isBare_of_isDigit digit
  | text s => exact stands_quoted (suits_form s.toList)

theorem read?_space (bound : Nat) {d : Char} (solid : isBlank d = false) (rest : List Char) :
    read? (bound + 1) (' ' :: d :: rest) =
      (read? bound (d :: rest)).map (.blanks [' '] :: ·) := by
  have span : (' ' :: d :: rest).span isBlank = ([' '], d :: rest) :=
    span_append (w := [' ']) (fun c member => by rw [List.mem_singleton.1 member]; rfl) solid rest
  rw [read?.eq_def]
  simp only [show ofMark? ' ' = none from rfl, show isBlank ' ' = true from rfl, if_true, span]
  rfl

theorem read?_entry (e : Entry) (bound : Nat) (rest : List Char) :
    read? (bound + 6) (writeEntry e ++ rest) = (read? bound rest).map (entryTokens e ++ ·) := by
  obtain ⟨c, t, value, solid, -⟩ := (stands_value e.2).head
  have line : writeEntry e ++ rest =
      writeKey e.1.toList ++ ' ' :: '=' :: ' ' :: (writeValue e.2 ++ '\n' :: rest) := by
    simp [writeEntry]
  have space : read? (bound + 3) (' ' :: (writeValue e.2 ++ '\n' :: rest)) =
      (read? (bound + 2) (writeValue e.2 ++ '\n' :: rest)).map (.blanks [' '] :: ·) := by
    rw [value]
    exact read?_space _ solid _
  have equals (s : List Char) :
      read? (bound + 4) ('=' :: s) = (read? (bound + 3) s).map (.equals :: ·) := rfl
  have lineEnd : read? (bound + 1) ('\n' :: rest) = (read? bound rest).map (.lineEnd :: ·) := rfl
  rw [line, (stands_key _).reads _ _ _ rfl, read?_space _ rfl, equals, space,
    (stands_value _).reads _ _ _ rfl, lineEnd]
  cases read? bound rest <;> rfl

theorem length_writeEntry (e : Entry) : 6 ≤ (writeEntry e).length := by
  obtain ⟨c, t, key, -⟩ := (stands_key e.1.toList).head
  obtain ⟨d, u, value, -⟩ := (stands_value e.2).head
  simp only [writeEntry, key, value, List.length_append, List.length_cons, List.length_nil]
  omega

theorem read?_entries {entries : List Entry} {bound : Nat}
    (enough : (entries.flatMap writeEntry).length ≤ bound) :
    read? bound (entries.flatMap writeEntry) = some (entries.flatMap entryTokens) := by
  induction entries generalizing bound with
  | nil => rw [List.flatMap_nil, read?]; rfl
  | cons e entries ih =>
      have long := length_writeEntry e
      rw [List.flatMap_cons, List.length_append] at enough
      obtain ⟨bound, rfl⟩ := Nat.exists_eq_add_of_le' (show 6 ≤ bound by omega)
      rw [List.flatMap_cons, List.flatMap_cons, read?_entry, ih (by omega), Option.map_some]

def assigned (e : Entry) : List WrittenKey × Value := ([some e.1], .leaf (some e.2.item))

theorem keys_keyToken (key : String) (ts : List Token) :
    keys (keyToken key.toList :: .blanks [' '] :: .equals :: ts) =
      ([some key], .equals :: ts) := by
  have more (bound : Nat) :
      moreKeys bound (.blanks [' '] :: .equals :: ts) = ([], .equals :: ts) := by
    cases bound <;> rfl
  unfold keyToken
  cases quoted : keyForm key.toList with
  | none =>
      have bare := bare_of_keyForm quoted
      simp only [keys, more, consKey, bareKey, bare, ne_eq, not_false_eq_true, and_self, if_true,
        String.ofList_toList]
  | some f =>
      obtain ⟨suits, oneLine⟩ := suits_keyForm quoted
      have text := text?_afterQuotes suits
      simp only [keys, more, consKey]
      obtain rfl | rfl := oneLine <;> simp only [quotedKey, text, String.ofList_toList]

theorem plainWord_word (s : List Char) (ts : List Token) :
    plainWord (.word s :: .lineEnd :: ts) = (s, .lineEnd :: ts) := by
  simp [plainWord, joinWord]

theorem value_valueToken (v : Preference) (fuel depth : Nat) (ts : List Token) :
    value (fuel + 1) depth (valueToken v :: .lineEnd :: ts) =
      some (.leaf (some v.item), .lineEnd :: ts) := by
  cases v with
  | flag b =>
      simp only [valueToken, value, plainWord_word]
      cases b <;> rfl
  | number n =>
      have low : -Int.pow 2 127 ≤ n.toInt := Int.le_trans (by decide) n.le_toInt
      have high : n.toInt < Int.pow 2 128 := Int.lt_of_lt_of_le n.toInt_lt (by decide)
      have fits : Scalar.inRange n.toInt = true := by
        rw [Scalar.inRange, decide_eq_true low, decide_eq_true high]
        rfl
      simp only [valueToken, value, plainWord_word, Scalar.item?_decimalInt fits]
      rfl
  | text s =>
      simp only [valueToken, value, text?_afterQuotes (suits_form _), String.ofList_toList]
      rfl

theorem assignment_entry (e : Entry) (ts : List Token) :
    assignment (entryTokens e ++ ts) =
      some (.assign (assigned e).1 (assigned e).2, .lineEnd :: ts) := by
  have read := value_valueToken e.2 (2 * (valueToken e.2 :: .lineEnd :: ts).length) 0 ts
  have shape : (∃ s, valueToken e.2 = .word s) ∨ ∃ f s, valueToken e.2 = .quoted f s := by
    cases e.2 with
    | flag b => exact .inl ⟨_, rfl⟩
    | number n => exact .inl ⟨_, rfl⟩
    | text s => exact .inr ⟨_, _, rfl⟩
  simp only [assignment, entryTokens, List.cons_append, List.nil_append, keys_keyToken, skipBlanks]
  obtain ⟨s, same⟩ | ⟨f, s, same⟩ := shape <;>
    (rw [same] at read ⊢; simp only [skipBlanks, read]; rfl)

theorem statement_entry (e : Entry) (ts : List Token) :
    statement (entryTokens e ++ ts) =
      some (.assign (assigned e).1 (assigned e).2, .lineEnd :: ts) := by
  have same : statement (entryTokens e ++ ts) = assignment (entryTokens e ++ ts) := by
    unfold entryTokens keyToken
    cases keyForm e.1.toList <;> rfl
  rw [same, assignment_entry]

theorem length_entryTokens (entries : List Entry) :
    (entries.flatMap entryTokens).length = 6 * entries.length := by
  induction entries with
  | nil => rfl
  | cons e entries ih =>
      rw [List.flatMap_cons, List.length_append, ih, List.length_cons]
      exact Nat.add_comm _ _

theorem lines_line {line ts : List Token} {s : Statement}
    (visible : skipSpace (line ++ ts) = line ++ ts)
    (stated : statement (line ++ ts) = some (s, .lineEnd :: ts)) (fuel : Nat) :
    lines (fuel + 1) (line ++ ts) = (lines fuel ts).map (s :: ·) := by
  have finished : finishLine (.lineEnd :: ts) = some ts := rfl
  rw [lines, visible]
  cases all : line ++ ts with
  | nil =>
      rw [all] at stated
      cases stated
  | cons t rest =>
      rw [all] at stated
      simp only [stated, Option.bind_some, finished]

theorem lines_entries {entries : List Entry} {fuel : Nat} (enough : entries.length < fuel) :
    lines fuel (entries.flatMap entryTokens) =
      some (entries.map fun e => .assign (assigned e).1 (assigned e).2) := by
  induction entries generalizing fuel with
  | nil =>
      obtain ⟨fuel, rfl⟩ := Nat.exists_eq_add_of_lt enough
      rfl
  | cons e entries ih =>
      cases fuel with
      | zero => cases enough
      | succ fuel =>
          have visible : skipSpace (entryTokens e ++ entries.flatMap entryTokens) =
              entryTokens e ++ entries.flatMap entryTokens := by
            unfold entryTokens keyToken
            cases keyForm e.1.toList <;> rfl
          rw [List.flatMap_cons, lines_line visible (statement_entry e _),
            ih (by simpa using enough)]
          rfl

theorem statements?_writeTable (t : PreferenceTable) :
    statements? (writeTable t) =
      some (t.entries.map fun e => .assign (assigned e).1 (assigned e).2) := by
  have unmarked : afterMark (t.entries.flatMap writeEntry) = t.entries.flatMap writeEntry := by
    cases t.entries with
    | nil => rfl
    | cons e entries =>
        obtain ⟨c, w, key, -, noMark⟩ := (stands_key e.1.toList).head
        rw [List.flatMap_cons, writeEntry, key, List.cons_append, List.cons_append, afterMark]
        rintro s ⟨⟩
        exact noMark rfl
  have enough : t.entries.length < (t.entries.flatMap entryTokens).length + 1 := by
    rw [length_entryTokens]
    omega
  simp only [statements?, writeTable, String.toList_ofList, unmarked,
    read?_entries (Nat.le_refl _), Option.bind_some, lines_entries enough]

theorem sections_assign (pairs : List (List WrittenKey × Value)) :
    sections (pairs.map fun p => .assign p.1 p.2) = (pairs, []) := by
  induction pairs with
  | nil => rfl
  | cons p pairs ih => simp [sections, ih]

theorem ofWritten_single (key : String) : KeyPath.ofWritten [some key] = .ok ⟨[], key⟩ := rfl

theorem assignAll_assigned {entries : List Entry} (ascending : entries.Pairwise fun a b => a.1 < b.1)
    {es : Entries} (new : ∀ e ∈ entries, es.find? e.1 = none) :
    assignAll es (entries.map assigned) =
      .ok (es ++ entries.map fun e => (e.1, e.2.item)) := by
  induction entries generalizing es with
  | nil => simp [assignAll]
  | cons e entries ih =>
      obtain ⟨later, ascending⟩ := List.pairwise_cons.1 ascending
      have still : ∀ e' ∈ entries, Entries.find? (es ++ [(e.1, e.2.item)]) e'.1 = none := by
        intro e' member
        have apart : e.1 ≠ e'.1 := String.ne_of_lt (later e' member)
        have none := new e' (by simp [member])
        simp only [Entries.find?, Option.map_eq_none_iff] at none ⊢
        simp [List.find?_append, none, apart]
      have first : assignAll es ((e :: entries).map assigned) =
          assignAll (es ++ [(e.1, e.2.item)]) (entries.map assigned) := by
        have added : es.assign ⟨[], e.1⟩ e.2.item = .ok (es ++ [(e.1, e.2.item)]) := by
          simp [Entries.assign, Entries.assignBelow, Entries.add, new e (by simp)]
        simp only [List.map_cons, assignAll, assigned, ofWritten_single, Value.item, wellFormed,
          Except.bind, added]
      rw [first, ih ascending still]
      simp

theorem readableEntries_items (entries : List Entry) :
    readableEntries (entries.map fun e => (e.1, e.2.item)) = true := by
  induction entries with
  | nil => rfl
  | cons e entries ih =>
      have readable : e.2.item.isReadable = true := by
        cases e.2 <;> rfl
      simp [readableEntries, readable, ih]

theorem parse_writeTable (t : PreferenceTable) :
    parse (writeTable t) = .ok (t.entries.map fun e => (e.1, e.2.item)) := by
  have pairs : (t.entries.map fun e => Statement.assign (assigned e).1 (assigned e).2) =
      (t.entries.map assigned).map fun p => .assign p.1 p.2 := by simp
  have new : ∀ e ∈ t.entries, Entries.find? [] e.1 = none := fun _ _ => rfl
  have assigns := assignAll_assigned t.ascending new
  simp only [parse, statements?_writeTable, wellFormed, build, pairs, sections_assign, assigns,
    Except.bind, applySections, List.nil_append, readableEntries_items, if_true]

end Toml

theorem Preference.ofItem?_item (v : Preference) : Preference.ofItem? v.item = some v := by
  cases v with
  | flag b => rfl
  | number n => rw [item, ofItem?, if_pos ⟨n.minValue_le_toInt, n.toInt_le⟩, Int64.ofInt_toInt]
  | text s => rfl

theorem PreferenceTable.ofEntries?_items {entries : List Entry}
    (ascending : entries.Pairwise fun a b => a.1 < b.1) :
    ofEntries? (entries.map fun e => (e.1, e.2.item)) = some ⟨entries, ascending⟩ := by
  induction entries with
  | nil => rfl
  | cons e entries ih =>
      obtain ⟨later, sorted⟩ := List.pairwise_cons.1 ascending
      -- The entries are put in from the last to the first, each in front of those after it.
      have front : insertEntry e.1 e.2 entries = e :: entries := by
        cases entries with
        | nil => rfl
        | cons e' entries => simp [insertEntry, later e' (by simp)]
      simp [ofEntries?, Preference.ofItem?_item, ih sorted, insert, front]

theorem PreferenceTable.parse_writeTable (t : PreferenceTable) :
    parse (Toml.writeTable t) = .ok t := by
  simp [parse, Toml.parse_writeTable, ofEntries?_items t.ascending, Except.bind, Toml.wellFormed]

end WalletLoop
