import WalletLoop.Toml.Quoted
import WalletLoop.Toml.Writing

namespace WalletLoop.Toml
open Token Quoted

def Plain (c : Char) : Prop := isForbidden c = false ∧ c ≠ '"' ∧ c ≠ '\\'

instance : DecidablePred Plain := fun _ => inferInstanceAs (Decidable (_ ∧ _ ∧ _))

structure Escapes (c d : Char) (later : List Char) : Prop where
  reads : ∀ s, escaped (d :: (later ++ s)) = some (c, s)
  first : d = '\\' ∨ d = '"' ∨ Plain d
  inLine : isBlank d = false ∧ d ≠ '\n' ∧ d ≠ '\r'
  plain : ∀ e ∈ later, Plain e

def shortEscapes : List (Char × Char) :=
  [('\x08', 'b'), ('\t', 't'), ('\n', 'n'), ('\x0c', 'f'), ('\r', 'r'), ('\\', '\\'), ('"', '"')]

theorem Escapes.short {p : Char × Char} (known : p ∈ shortEscapes) :
    escape p.1 = ['\\', p.2] ∧ Escapes p.1 p.2 [] := by
  have fine : ∀ p ∈ shortEscapes, escape p.1 = ['\\', p.2] ∧
      (p.2 = '\\' ∨ p.2 = '"' ∨ Plain p.2) ∧ isBlank p.2 = false ∧ p.2 ≠ '\n' ∧ p.2 ≠ '\r' := by
    decide
  have reads : ∀ p ∈ shortEscapes, ∀ s, escaped (p.2 :: s) = some (p.1, s) := by
    simp [shortEscapes, escaped]
  obtain ⟨written, first, inLine⟩ := fine p known
  exact ⟨written, reads p known, first, inLine, by simp⟩

theorem hexValue_hexUpper : ∀ n < 128,
    hexValue ['0', '0', hexUpper (n / 16), hexUpper (n % 16)] = some n := by
  decide

theorem plain_hexUpper : ∀ n < 16, Plain (hexUpper n) := by
  decide

theorem Escapes.number {c : Char} (control : isControl c = true) :
    Escapes c 'u' ['0', '0', hexUpper (c.toNat / 16), hexUpper (c.toNat % 16)] := by
  have small : c.toNat < 128 := by
    simp only [isControl, Bool.or_eq_true, Bool.and_eq_true, decide_eq_true_eq, beq_iff_eq] at control
    omega
  refine ⟨fun s => ?_, by decide, by decide, ?_⟩
  · have valid : c.toNat.isValidChar := c.valid
    change escapedNumber 4 _ = _
    simp [escapedNumber, hexValue_hexUpper c.toNat small, valid]
  · have zero : Plain '0' := by decide
    simpa [zero] using
      ⟨plain_hexUpper (c.toNat / 16) (by omega), plain_hexUpper (c.toNat % 16) (by omega)⟩

theorem escape_eq (c : Char) : escape c = [c] ∧ Plain c ∨
    ∃ d later, escape c = '\\' :: d :: later ∧ Escapes c d later := by
  by_cases short : c ∈ shortEscapes.map Prod.fst
  · obtain ⟨p, known, rfl⟩ := List.mem_map.1 short
    obtain ⟨written, escapes⟩ := Escapes.short known
    exact .inr ⟨p.2, [], written, escapes⟩
  · simp only [shortEscapes, List.map_cons, List.map_nil, List.mem_cons, List.not_mem_nil, or_false,
      not_or] at short
    by_cases control : isControl c = true
    · exact .inr ⟨'u', _, by simp [escape, short, control], .number control⟩
    · refine .inl ⟨by simp [escape, short, control], ?_, by simp [short], by simp [short]⟩
      simpa [isControl, isForbidden, short] using control

def Passed (span : List Char → List Char × List Char) (p : List Char) : Prop :=
  ∀ s, span (p ++ s) = (p ++ (span s).1, (span s).2)

variable {span : List Char → List Char × List Char}

theorem Passed.nil : Passed span [] := fun _ => rfl

theorem Passed.single {c : Char} (step : ∀ s, span (c :: s) = more c (span s)) :
    Passed span [c] := step

theorem Passed.append {p p' : List Char} (first : Passed span p) (second : Passed span p') :
    Passed span (p ++ p') := by
  intro s
  rw [List.append_assoc, first, second, List.append_assoc]

theorem Passed.flatMap {α : Type} {f : α → List Char} {l : List α}
    (each : ∀ a ∈ l, Passed span (f a)) : Passed span (l.flatMap f) := by
  induction l with
  | nil => exact .nil
  | cons a l ih =>
      rw [List.flatMap_cons]
      exact (each a (by simp)).append (ih fun b member => each b (by simp [member]))

theorem Passed.all {p : List Char} (each : ∀ c ∈ p, Passed span [c]) : Passed span p := by
  simpa using Passed.flatMap each

structure SkipsEscapes (span : List Char → List Char × List Char) : Prop where
  plain : ∀ c, Plain c → Passed span [c]
  backslash : Passed span ['\\', '\\']
  quote : Passed span ['\\', '"']
  letter : ∀ c, Plain c → Passed span ['\\', c]

theorem SkipsEscapes.escape (skips : SkipsEscapes span) (c : Char) : Passed span (escape c) := by
  obtain ⟨same, plain⟩ | ⟨d, later, same, escapes⟩ := escape_eq c
  · exact same ▸ skips.plain c plain
  · have first : Passed span ['\\', d] := by
      obtain rfl | rfl | plain := escapes.first
      · exact skips.backslash
      · exact skips.quote
      · exact skips.letter d plain
    exact same ▸ first.append (.all fun e member => skips.plain e (escapes.plain e member))

theorem Plain.ne_lineFeed {c : Char} (plain : Plain c) : c ≠ '\n' := by
  rintro rfl
  revert plain
  decide

theorem spanBasic_plain {c : Char} (plain : Plain c) : Passed spanBasic [c] := by
  refine .single fun s => ?_
  rw [spanBasic]
  · exact plain.2.1
  · exact plain.ne_lineFeed
  · exact fun _ escaped => absurd escaped plain.2.2
  · exact fun _ escaped => absurd escaped plain.2.2

theorem spanBasic_skips : SkipsEscapes spanBasic where
  plain _ := spanBasic_plain
  backslash _ := rfl
  quote _ := rfl
  letter c plain s := by
    have next : spanBasic ('\\' :: c :: s) = more '\\' (spanBasic (c :: s)) := by
      rw [spanBasic]
      · decide
      · decide
      · rintro t - ⟨⟩
        exact plain.2.2 rfl
      · rintro t - ⟨⟩
        exact plain.2.1 rfl
    exact next.trans (congrArg (more '\\') (spanBasic_plain plain s))

theorem spanBasicLines_single {c : Char} (quote : c ≠ '"') (backslash : c ≠ '\\') :
    Passed spanBasicLines [c] := by
  refine .single fun s => ?_
  rw [spanBasicLines]
  · exact fun _ closing => absurd closing quote
  · exact fun _ escaped => absurd escaped backslash
  · exact fun _ escaped => absurd escaped backslash

theorem spanBasicLines_skips : SkipsEscapes spanBasicLines where
  plain _ plain := spanBasicLines_single plain.2.1 plain.2.2
  backslash _ := rfl
  quote _ := rfl
  letter c plain s := by
    have next : spanBasicLines ('\\' :: c :: s) = more '\\' (spanBasicLines (c :: s)) := by
      rw [spanBasicLines]
      · exact fun _ closing => absurd closing (by decide)
      · rintro t - ⟨⟩
        exact plain.2.2 rfl
      · rintro t - ⟨⟩
        exact plain.2.1 rfl
    exact next.trans (congrArg (more '\\') (spanBasicLines_single plain.2.1 plain.2.2 s))

theorem spanLiteral_single {c : Char} (quote : c ≠ '\'') (lineFeed : c ≠ '\n') :
    Passed spanLiteral [c] := by
  refine .single fun s => ?_
  rw [spanLiteral]
  · exact quote
  · exact lineFeed

theorem spanLiteralLines_single {c : Char} (quote : c ≠ '\'') : Passed spanLiteralLines [c] := by
  refine .single fun s => ?_
  rw [spanLiteralLines]
  exact fun _ closing => absurd closing quote

theorem escape_ne_nil (c : Char) : escape c ≠ [] := by
  obtain ⟨same, -⟩ | ⟨d, later, same, -⟩ := escape_eq c <;> simp [same]

theorem length_le_escaped (s : List Char) : s.length ≤ (s.flatMap escape).length := by
  induction s with
  | nil => simp
  | cons c s ih =>
      have some := List.length_pos_iff.2 (escape_ne_nil c)
      simp only [List.flatMap_cons, List.length_append, List.length_cons]
      omega

theorem basicText_escape (fuel : Nat) (c : Char) (s : List Char) :
    basicText (fuel + 1) (escape c ++ s) =
      (basicText fuel s).map fun (text, s) => (c :: text, s) := by
  obtain ⟨same, allowed, quote, backslash⟩ | ⟨d, later, same, escapes⟩ := escape_eq c
  · simp [same, basicText, allowed, quote, backslash]
  · simp [same, basicText, escapes.reads]

theorem basicText_escaped {fuel : Nat} {s : List Char} (enough : s.length < fuel) :
    basicText fuel (s.flatMap escape ++ ['"']) = some (s, []) := by
  induction s generalizing fuel with
  | nil =>
      obtain ⟨fuel, rfl⟩ := Nat.exists_eq_add_of_lt enough
      rfl
  | cons c s ih =>
      cases fuel with
      | zero => cases enough
      | succ fuel =>
          rw [List.flatMap_cons, List.append_assoc, basicText_escape, ih (by simpa using enough)]
          rfl

theorem literalText_plain {s : List Char} (plain : ∀ c ∈ s, isForbidden c = false ∧ c ≠ '\'') :
    literalText (s ++ ['\'']) = some (s, []) := by
  induction s with
  | nil => rfl
  | cons c s ih =>
      obtain ⟨allowed, quote⟩ := plain c (by simp)
      simp [literalText, allowed, quote, ih fun d member => plain d (by simp [member])]

theorem spanBasic_escaped (s rest : List Char) :
    spanBasic (s.flatMap escape ++ ['"'] ++ rest) = (s.flatMap escape ++ ['"'], rest) := by
  have passed : Passed spanBasic (s.flatMap escape) := .flatMap fun c _ => spanBasic_skips.escape c
  rw [List.append_assoc, passed]
  rfl

theorem spanLiteral_plain {s : List Char} (plain : ∀ c ∈ s, isForbidden c = false ∧ c ≠ '\'')
    (rest : List Char) : spanLiteral (s ++ ['\''] ++ rest) = (s ++ ['\''], rest) := by
  have passed : Passed spanLiteral s := by
    refine .all fun c member => spanLiteral_single (plain c member).2 ?_
    rintro rfl
    exact absurd (plain _ member).1 (by decide)
  rw [List.append_assoc, passed]
  rfl

theorem escaped_opens (s : List Char) {d : Char} (apart : d ≠ '"') (rest t : List Char) :
    s.flatMap escape ++ ['"'] ++ d :: rest ≠ '"' :: '"' :: t := by
  intro same
  cases s with
  | nil => exact apart (List.cons.inj (List.cons.inj same).2).1
  | cons c s =>
      obtain ⟨one, -, quote, -⟩ | ⟨e, later, several, -⟩ := escape_eq c
      · rw [List.flatMap_cons, one] at same
        exact quote (List.cons.inj same).1
      · rw [List.flatMap_cons, several] at same
        exact absurd (List.cons.inj same).1 (by decide)

end WalletLoop.Toml
