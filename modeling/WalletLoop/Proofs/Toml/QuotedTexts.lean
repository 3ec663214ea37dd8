import WalletLoop.Proofs.Toml.TextLines

namespace WalletLoop.Toml
open Token Quoted

def afterQuotes (s : List Char) : Form → List Char
  | .basic => s.flatMap escape ++ ['"']
  | .literal => s ++ ['\'']
  | .basicLines => opening s ++ escapeLines 0 s ++ ['"', '"', '"']
  | .literalLines => opening s ++ s ++ ['\'', '\'', '\'']

def Suits (s : List Char) : Form → Prop
  | .basic | .basicLines => True
  | .literal => ∀ c ∈ s, isForbidden c = false ∧ c ≠ '\''
  | .literalLines => (∀ c ∈ s, isControl c = false) ∧ hasRun '\'' 3 0 s = false

theorem suits_literal {s : List Char} (uncontrolled : ∀ c ∈ s, isControl c = false)
    (quote : '\'' ∉ s) (lineFeed : '\n' ∉ s) : Suits s .literal := by
  intro c member
  refine ⟨(allowed_of_not_control (uncontrolled c member)).resolve_left ?_, ?_⟩
  · exact fun same => lineFeed (same ▸ member)
  · exact fun same => quote (same ▸ member)

theorem suits_form (s : List Char) : Suits s (form s) := by
  unfold form
  extract_lets plain noBackslash
  split
  · trivial
  split
  · rename_i literal
    simp only [plain, Bool.and_eq_true, Bool.not_eq_true', List.any_eq_false, Bool.not_eq_true,
      List.contains_eq_mem, decide_eq_false_iff_not] at literal
    obtain ⟨⟨uncontrolled, quote⟩, lineFeed⟩ := literal
    exact suits_literal uncontrolled quote lineFeed
  split
  · trivial
  split
  · rename_i literal
    simpa only [Suits, plain, Bool.and_eq_true, Bool.not_eq_true', List.any_eq_false,
      Bool.not_eq_true] using literal
  split
  · trivial
  · trivial

theorem suits_keyForm {s : List Char} {f : Form} (quoted : keyForm s = some f) :
    Suits s f ∧ (f = .basic ∨ f = .literal) := by
  unfold keyForm at quoted
  split at quoted
  · cases quoted
  extract_lets plain at quoted
  split at quoted
  · cases quoted
    exact ⟨trivial, .inl rfl⟩
  split at quoted
  · rename_i literal
    cases quoted
    simp only [plain, Bool.and_eq_true, Bool.not_eq_true', List.any_eq_false, Bool.or_eq_true,
      beq_iff_eq, not_or, Bool.not_eq_true, List.contains_eq_mem, decide_eq_false_iff_not] at literal
    obtain ⟨uncontrolled, quote⟩ := literal
    exact ⟨suits_literal (fun c member => (uncontrolled c member).1) quote
      (fun member => (uncontrolled _ member).2 rfl), .inr rfl⟩
  · cases quoted
    exact ⟨trivial, .inl rfl⟩

theorem readQuoted?_quotedAs {s : List Char} {f : Form} (suits : Suits s f) {d : Char}
    (apart : d ≠ '"' ∧ d ≠ '\'') (rest : List Char) :
    readQuoted? (quotedAs s f ++ d :: rest) =
      some (quoted f (afterQuotes s f), d :: rest) := by
  cases f with
  | basic =>
      have closed := spanBasic_escaped s (d :: rest)
      rw [quotedAs, afterQuotes, List.cons_append, List.cons_append, readQuoted?, closed]
      · rfl
      · exact escaped_opens s apart.1 rest
  | literal =>
      have closed := spanLiteral_plain suits (d :: rest)
      rw [quotedAs, afterQuotes, List.cons_append, List.cons_append, readQuoted?, closed]
      · rfl
      · intro t same
        cases s with
        | nil => exact apart.2 (List.cons.inj (List.cons.inj same).2).1
        | cons c s => exact (suits c (by simp)).2 (List.cons.inj same).1
  | basicLines =>
      have inside := inside_escapeLines (Nat.zero_le 2) s
      have closed := basicQuotes.span_afterOpening inside apart.1 rest
      calc readQuoted? (quotedAs s .basicLines ++ d :: rest)
        _ = some (ofQuoted .basicLines
              (spanBasicLines (afterQuotes s .basicLines ++ d :: rest))) := by
          simp [quotedAs, afterQuotes, readQuoted?]
        _ = some (quoted .basicLines (afterQuotes s .basicLines), d :: rest) := by
          rw [afterQuotes, closed]
          rfl
  | literalLines =>
      have inside := inside_literal suits.1 suits.2
      have closed := literalQuotes.span_afterOpening inside apart.2 rest
      calc readQuoted? (quotedAs s .literalLines ++ d :: rest)
        _ = some (ofQuoted .literalLines
              (spanLiteralLines (afterQuotes s .literalLines ++ d :: rest))) := by
          simp [quotedAs, afterQuotes, readQuoted?]
        _ = some (quoted .literalLines (afterQuotes s .literalLines), d :: rest) := by
          rw [afterQuotes, closed]
          rfl

theorem text?_afterQuotes {s : List Char} {f : Form} (suits : Suits s f) :
    text? f (afterQuotes s f) = some (String.ofList s) := by
  unfold text?
  cases f with
  | basic =>
      have enough : s.length < (afterQuotes s .basic).length + 1 := by
        have := length_le_escaped s
        simp only [afterQuotes, List.length_append]
        omega
      dsimp only
      rw [afterQuotes] at enough ⊢
      rw [basicText_escaped enough]
  | literal =>
      dsimp only
      rw [afterQuotes, literalText_plain suits]
  | basicLines =>
      have inside := inside_escapeLines (Nat.zero_le 2) s
      dsimp only
      rw [afterQuotes, basicQuotes.linesText_afterOpening inside (Nat.le_succ _)]
  | literalLines =>
      have inside := inside_literal suits.1 suits.2
      dsimp only
      rw [afterQuotes, literalQuotes.linesText_afterOpening inside (Nat.le_succ _)]

end WalletLoop.Toml
