import WalletLoop.Json.Reading

namespace WalletLoop.Json

def shortEscapes : List (Char × Char) :=
  [('"', '"'), ('\\', '\\'), ('/', '/'), ('b', '\x08'), ('f', '\x0c'), ('n', '\n'), ('r', '\r'),
    ('t', '\t')]

inductive SpellsUnit : Nat → List Char → Prop
  | digits {a b c d : Char} {w x y z : Nat} (first : hexValue? a = some w)
      (second : hexValue? b = some x) (third : hexValue? c = some y)
      (fourth : hexValue? d = some z) :
      SpellsUnit (((w * 16 + x) * 16 + y) * 16 + z) [a, b, c, d]

/-- What stands between quotes, and the characters of the text; none if there is a half of a pair
without the other. -/
inductive SpellsChars : List Char → Option (List Char) → Prop
  | done : SpellsChars [] (some [])
  | plain {c : Char} {s : List Char} {cs : Option (List Char)} (quote : c ≠ '"')
      (backslash : c ≠ '\\') (printed : 32 ≤ c.toNat) (rest : SpellsChars s cs) :
      SpellsChars (c :: s) (cs.map (c :: ·))
  | short {letter c : Char} {s : List Char} {cs : Option (List Char)}
      (known : (letter, c) ∈ shortEscapes) (rest : SpellsChars s cs) :
      SpellsChars ('\\' :: letter :: s) (cs.map (c :: ·))
  | number {n : Nat} {unit s : List Char} {cs : Option (List Char)} (digits : SpellsUnit n unit)
      (high : isHigh n = false) (low : isLow n = false) (rest : SpellsChars s cs) :
      SpellsChars ('\\' :: 'u' :: unit ++ s) (cs.map (Char.ofNat n :: ·))
  | pair {n m : Nat} {unit other s : List Char} {cs : Option (List Char)}
      (first : SpellsUnit n unit) (high : isHigh n = true) (second : SpellsUnit m other)
      (low : isLow m = true) (rest : SpellsChars s cs) :
      SpellsChars ('\\' :: 'u' :: unit ++ '\\' :: 'u' :: other ++ s)
        (cs.map (Char.ofNat (0x10000 + (n - 0xD800) * 1024 + (m - 0xDC00)) :: ·))
  | half {n : Nat} {unit s : List Char} {cs : Option (List Char)} (digits : SpellsUnit n unit)
      (single : isLow n = true ∨ isHigh n = true ∧ ∀ m other more, SpellsUnit m other →
        isLow m = true → s ≠ '\\' :: 'u' :: other ++ more)
      (rest : SpellsChars s cs) : SpellsChars ('\\' :: 'u' :: unit ++ s) none

theorem readUnit_spelled {n : Nat} {unit : List Char} (spells : SpellsUnit n unit)
    (s : List Char) : readUnit (unit ++ s) = some (n, s) := by
  cases spells with
  | digits first second third fourth => simp [readUnit, first, second, third, fourth]

theorem readEscape_short {letter c : Char} (known : (letter, c) ∈ shortEscapes) (s : List Char) :
    readEscape (letter :: s) = some (some c, s) := by
  simp only [shortEscapes, List.mem_cons, List.not_mem_nil, or_false, Prod.mk.injEq] at known
  rcases known with ⟨rfl, rfl⟩ | ⟨rfl, rfl⟩ | ⟨rfl, rfl⟩ | ⟨rfl, rfl⟩ | ⟨rfl, rfl⟩ | ⟨rfl, rfl⟩ |
    ⟨rfl, rfl⟩ | ⟨rfl, rfl⟩ <;> rfl

theorem not_low_of_high {n : Nat} (high : isHigh n = true) : isLow n = false := by
  simp only [isHigh, isLow, decide_eq_true_eq, decide_eq_false_iff_not] at *
  omega

theorem not_high_of_low {n : Nat} (low : isLow n = true) : isHigh n = false := by
  simp only [isHigh, isLow, decide_eq_true_eq, decide_eq_false_iff_not] at *
  omega

theorem readLow_unit {n : Nat} {unit : List Char} (spells : SpellsUnit n unit) (s : List Char) :
    readLow ('\\' :: 'u' :: unit ++ s) = if isLow n then some (n, s) else none := by
  simp only [List.cons_append, readLow, readUnit_spelled spells, Option.bind_some]

theorem readLow_other {c d : Char} (other : c ≠ '\\' ∨ d ≠ 'u') (s : List Char) :
    readLow (c :: d :: s) = none := by
  unfold readLow
  split
  · rename_i same
    simp only [List.cons.injEq] at same
    simp [same] at other
  · rfl

theorem readLow_single {s : List Char} {cs : Option (List Char)} (spells : SpellsChars s cs)
    (single : ∀ m other more, SpellsUnit m other → isLow m = true →
      s ≠ '\\' :: 'u' :: other ++ more) (rest : List Char) : readLow (s ++ '"' :: rest) = none := by
  cases spells with
  | done =>
      cases rest with
      | nil => rfl
      | cons c rest => exact readLow_other (.inl (by decide)) rest
  | @plain c s _ quote backslash printed more =>
      cases s with
      | nil => exact readLow_other (.inl backslash) rest
      | cons d s => exact readLow_other (.inl backslash) _
  | short known more =>
      refine readLow_other (.inr ?_) _
      rintro rfl
      simp [shortEscapes] at known
  | number digits high low more =>
      rw [List.append_assoc, readLow_unit digits, low]
      rfl
  | pair first high second low more =>
      rw [List.append_assoc, List.append_assoc, readLow_unit first, not_low_of_high high]
      rfl
  | half digits kind more =>
      rw [List.append_assoc, readLow_unit digits, if_neg (single _ _ _ digits · rfl)]

section Numbered
variable {n : Nat} {unit : List Char} (spells : SpellsUnit n unit)
include spells

theorem readEscape_number (high : isHigh n = false) (low : isLow n = false) (s : List Char) :
    readEscape ('u' :: (unit ++ s)) = some (some (Char.ofNat n), s) := by
  simp [readEscape, readNumbered, readUnit_spelled spells, high, low]

theorem readEscape_pair {m : Nat} {other : List Char} (high : isHigh n = true)
    (second : SpellsUnit m other) (low : isLow m = true) (s : List Char) :
    readEscape ('u' :: (unit ++ ('\\' :: 'u' :: other ++ s))) =
      some (some (Char.ofNat (0x10000 + (n - 0xD800) * 1024 + (m - 0xDC00))), s) := by
  simp only [readEscape, readNumbered, readUnit_spelled spells, Option.map_some, if_pos high,
    readLow_unit second, if_pos low]

theorem readEscape_half {s : List Char}
    (single : isLow n = true ∨ isHigh n = true ∧ readLow s = none) :
    readEscape ('u' :: (unit ++ s)) = some (none, s) := by
  rcases single with low | ⟨high, alone⟩
  · simp [readEscape, readNumbered, readUnit_spelled spells, not_high_of_low low, low]
  · simp [readEscape, readNumbered, readUnit_spelled spells, high, alone]

end Numbered

theorem readChars_escape {bound : Nat} {s rest after : List Char} {c : Option Char}
    {cs : Option (List Char)} (read : readEscape s = some (c, rest))
    (later : readChars bound rest = some (cs, after)) :
    readChars (bound + 1) ('\\' :: s) = some (c.bind fun c => cs.map (c :: ·), after) := by
  simp [readChars, read, later]

theorem readChars_spelled {s : List Char} {cs : Option (List Char)} (spells : SpellsChars s cs)
    {bound : Nat} (enough : s.length < bound) (rest : List Char) :
    readChars bound (s ++ '"' :: rest) = some (cs, rest) := by
  -- what is spelled for a character takes one step of the bound and at least one of the length
  induction spells generalizing bound with
  | done =>
      match bound, enough with
      | bound + 1, _ => rfl
  | plain quote backslash printed _ ih =>
      match bound, enough with
      | bound + 1, enough =>
          have later := ih (Nat.lt_of_succ_lt_succ enough)
          simp [readChars, quote, backslash, Nat.not_lt.2 printed, later]
  | short known _ ih =>
      match bound, enough with
      | bound + 1, enough =>
          simp only [List.length_cons] at enough
          exact readChars_escape (readEscape_short known _) (ih (by omega))
  | number digits high low _ ih =>
      match bound, enough with
      | bound + 1, enough =>
          simp only [List.cons_append, List.length_cons, List.length_append] at enough
          rw [List.append_assoc]
          exact readChars_escape (readEscape_number digits high low _) (ih (by omega))
  | pair first high second low _ ih =>
      match bound, enough with
      | bound + 1, enough =>
          simp only [List.cons_append, List.length_cons, List.length_append] at enough
          rw [List.append_assoc, List.append_assoc]
          exact readChars_escape (readEscape_pair first high second low _) (ih (by omega))
  | half digits kind more ih =>
      match bound, enough with
      | bound + 1, enough =>
          simp only [List.cons_append, List.length_cons, List.length_append] at enough
          have alone := kind.imp_right fun single =>
            And.intro single.1 (readLow_single more single.2 rest)
          rw [List.append_assoc]
          exact readChars_escape (readEscape_half digits alone) (ih (by omega))

theorem readText_spelled {s : List Char} {cs : Option (List Char)} (spells : SpellsChars s cs)
    (rest : List Char) : readText (s ++ '"' :: rest) = some (cs.map String.ofList, rest) := by
  rw [readText, readChars_spelled spells (by rw [List.length_append]; omega)]
  rfl

theorem hexValue_hexDigit : ∀ n < 16, hexValue? (Text.hexDigit n) = some n := by
  decide

theorem spellsUnit_control {n : Nat} (control : n < 32) :
    SpellsUnit n ['0', '0', Text.hexDigit (n / 16), Text.hexDigit (n % 16)] := by
  have spelled := SpellsUnit.digits (hexValue_hexDigit 0 (by decide)) (hexValue_hexDigit 0 (by decide))
    (hexValue_hexDigit (n / 16) (by omega)) (hexValue_hexDigit (n % 16) (by omega))
  rwa [show ((0 * 16 + 0) * 16 + n / 16) * 16 + n % 16 = n by omega] at spelled

theorem escape_cases (c : Char) :
    (∃ letter, (letter, c) ∈ shortEscapes ∧ escape c = ['\\', letter]) ∨
    (c.toNat < 32 ∧ escape c =
      ['\\', 'u', '0', '0', Text.hexDigit (c.toNat / 16), Text.hexDigit (c.toNat % 16)]) ∨
    (c ≠ '"' ∧ c ≠ '\\' ∧ 32 ≤ c.toNat ∧ escape c = [c]) := by
  have by_number {d : Char} (same : c.toNat = d.toNat) : c = d := by
    rw [← Char.ofNat_toNat c, same, Char.ofNat_toNat]
  by_cases known : ∃ letter, (letter, c) ∈ shortEscapes ∧ letter ≠ '/'
  · obtain ⟨letter, known, needed⟩ := known
    have all : ∀ p ∈ shortEscapes, p.1 ≠ '/' → escape p.2 = ['\\', p.1] := by decide
    exact .inl ⟨letter, known, all _ known needed⟩
  · have other {letter d : Char} (short : (letter, d) ∈ shortEscapes) (needed : letter ≠ '/') :
        c ≠ d := by
      rintro rfl
      exact known ⟨letter, short, needed⟩
    have backspace : c.toNat ≠ 8 := fun same =>
      other (show ('b', '\x08') ∈ shortEscapes by decide) (by decide) (by_number same)
    have feed : c.toNat ≠ 12 := fun same =>
      other (show ('f', '\x0c') ∈ shortEscapes by decide) (by decide) (by_number same)
    have quote : c ≠ '"' := other (show ('"', _) ∈ shortEscapes by decide) (by decide)
    have backslash : c ≠ '\\' := other (show ('\\', _) ∈ shortEscapes by decide) (by decide)
    have tab : c ≠ '\t' := other (show ('t', _) ∈ shortEscapes by decide) (by decide)
    have line : c ≠ '\n' := other (show ('n', _) ∈ shortEscapes by decide) (by decide)
    have back : c ≠ '\r' := other (show ('r', _) ∈ shortEscapes by decide) (by decide)
    by_cases control : c.toNat < 32
    · refine .inr (.inl ⟨control, ?_⟩)
      simp [escape, quote, backslash, backspace, tab, line, feed, back, control]
    · refine .inr (.inr ⟨quote, backslash, Nat.not_lt.1 control, ?_⟩)
      simp [escape, quote, backslash, backspace, tab, line, feed, back, control]

theorem spells_escape (c : Char) {s : List Char} {cs : Option (List Char)}
    (rest : SpellsChars s cs) : SpellsChars (escape c ++ s) (cs.map (c :: ·)) := by
  rcases escape_cases c with ⟨letter, known, same⟩ | ⟨control, same⟩ | ⟨quote, backslash, printed, same⟩
  · rw [same]
    exact .short known rest
  · rw [same]
    have high : isHigh c.toNat = false := by simp [isHigh]; omega
    have low : isLow c.toNat = false := by simp [isLow]; omega
    have spelled := SpellsChars.number (spellsUnit_control control) high low rest
    rwa [Char.ofNat_toNat] at spelled
  · rw [same]
    exact .plain quote backslash printed rest

theorem spells_escaped (s : List Char) : SpellsChars (s.flatMap escape) (some s) := by
  induction s with
  | nil => exact .done
  | cons c s ih => exact spells_escape c ih

theorem spells_writeText (t : JsonText) :
    ∃ s cs, writeText t = '"' :: s ++ ['"'] ∧ SpellsChars s cs ∧ t = cs.map String.ofList := by
  cases t with
  | some t => exact ⟨_, _, rfl, spells_escaped t.toList, by simp⟩
  | none =>
      have unit : SpellsUnit 0xD800 ['d', '8', '0', '0'] :=
        .digits (show hexValue? 'd' = some 13 from rfl) (show hexValue? '8' = some 8 from rfl)
          (show hexValue? '0' = some 0 from rfl) (show hexValue? '0' = some 0 from rfl)
      refine ⟨"\\ud800".toList, none, rfl, .half unit (.inr ⟨by decide, ?_⟩) .done, rfl⟩
      simp

end WalletLoop.Json
