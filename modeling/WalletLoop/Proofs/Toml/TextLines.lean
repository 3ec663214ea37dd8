import WalletLoop.Proofs.Toml.Escapes

namespace WalletLoop.Toml
open Token Quoted

variable {span : List Char → List Char × List Char}

section Lines
variable {q : Char} {escapes : Bool}

structure Quotes (q : Char) (escapes : Bool) (span : List Char → List Char × List Char) :
    Prop where
  reads : ∀ fuel s, closing q (q :: s) = none → linesText q escapes (fuel + 1) (q :: s) =
    (linesText q escapes fuel s).map fun (text, s) => (q :: text, s)
  ends : ∀ s, span (q :: q :: q :: s) = spanClosing q s
  stay : ∀ s, (∀ t, s ≠ q :: q :: t) → span (q :: s) = more q (span s)
  lineFeed : Passed span ['\n']
  inLine : q ≠ '\n' ∧ q ≠ '\r'

theorem lineEnd?_eq_none {d : Char} (s : List Char) (inLine : d ≠ '\n' ∧ d ≠ '\r') :
    lineEnd? (d :: s) = none := by
  rw [lineEnd?]
  · exact fun _ same => inLine.1 (List.cons.inj same).1
  · exact fun _ same => inLine.2 (List.cons.inj same).1

structure Piece (q : Char) (escapes : Bool) (span : List Char → List Char × List Char) (c : Char)
    (p : List Char) : Prop where
  head : ∃ d t, p = d :: t ∧ d ≠ q ∧ d ≠ '\r' ∧ (d = '\n' → c = '\n')
  passed : Passed span p
  reads : ∀ fuel s, linesText q escapes (fuel + 1) (p ++ s) =
    (linesText q escapes fuel s).map fun (text, s) => (c :: text, s)

/-- What is written of a text of several lines, with the text; `n` quotes stand just before. -/
inductive Inside (q : Char) (escapes : Bool) (span : List Char → List Char × List Char) :
    Nat → List Char → List Char → Prop
  | nil (n : Nat) : Inside q escapes span n [] []
  | quote {n : Nat} {w s : List Char} : n < 2 → Inside q escapes span (n + 1) w s →
    Inside q escapes span n (q :: w) (q :: s)
  | piece {n : Nat} {c : Char} {p w s : List Char} : Piece q escapes span c p →
    Inside q escapes span 0 w s → Inside q escapes span n (p ++ w) (c :: s)

theorem replicate_closing (q : Char) (k : Nat) :
    List.replicate k q ++ [q, q, q] = List.replicate (k + 3) q :=
  List.replicate_append_replicate (n := k) (m := 3)

theorem closing_replicate (q : Char) {k : Nat} (few : k ≤ 2) :
    closing q (List.replicate k q ++ [q, q, q]) = some (k, []) := by
  rw [replicate_closing]
  simp only [closing, List.takeWhile_replicate, decide_true, if_true, List.length_replicate,
    List.drop_replicate]
  rw [if_neg (by omega), if_pos (by omega)]
  simp

theorem closing_eq_none {d : Char} {k : Nat} (s : List Char) (few : k ≤ 2) (other : d ≠ q) :
    closing q (List.replicate k q ++ d :: s) = none := by
  have count : ((List.replicate k q ++ d :: s).takeWhile (· = q)).length = k := by
    simp [other]
  simp only [closing, count]
  rw [if_pos (by omega)]

theorem linesText_replicate (fuel : Nat) {k : Nat} (few : k ≤ 2) :
    linesText q escapes (fuel + 1) (List.replicate k q ++ [q, q, q]) =
      some (List.replicate k q, []) := by
  unfold linesText
  rw [closing_replicate q few]

theorem Inside.quotes {n : Nat} {w s : List Char} (inside : Inside q escapes span n w s)
    (few : n ≤ 2) : ∃ k, k + n ≤ 2 ∧ (w = List.replicate k q ∧ s = List.replicate k q ∨
      ∃ d t, w = List.replicate k q ++ d :: t ∧ d ≠ q) := by
  induction inside with
  | nil n => exact ⟨0, by omega, .inl ⟨rfl, rfl⟩⟩
  | @quote n w s more _ ih =>
      obtain ⟨k, bound, ⟨rfl, rfl⟩ | ⟨d, t, rfl, other⟩⟩ := ih (by omega)
      · exact ⟨k + 1, by omega, .inl ⟨rfl, rfl⟩⟩
      · exact ⟨k + 1, by omega, .inr ⟨d, t, rfl, other⟩⟩
  | @piece n c p w s piece _ _ =>
      obtain ⟨d, t, rfl, other, -⟩ := piece.head
      exact ⟨0, by omega, .inr ⟨d, t ++ w, rfl, other⟩⟩

theorem Inside.length_le {n : Nat} {w s : List Char} (inside : Inside q escapes span n w s) :
    s.length ≤ w.length := by
  induction inside with
  | nil n => exact Nat.le_refl 0
  | quote _ _ ih => exact Nat.succ_le_succ ih
  | piece piece _ ih =>
      obtain ⟨d, t, rfl, -⟩ := piece.head
      simp only [List.length_append, List.length_cons]
      omega

namespace Quotes
variable {n : Nat} {w s : List Char}

theorem linesText_inside (quotes : Quotes q escapes span) (inside : Inside q escapes span n w s)
    (few : n ≤ 2) {fuel : Nat} (enough : s.length < fuel) :
    linesText q escapes fuel (w ++ [q, q, q]) = some (s, []) := by
  induction inside generalizing fuel with
  | nil n =>
      obtain ⟨fuel, rfl⟩ := Nat.exists_eq_add_of_lt enough
      exact linesText_replicate _ (Nat.zero_le 2)
  | @quote n w s more rest ih =>
      cases fuel with
      | zero => cases enough
      | succ fuel =>
          obtain ⟨k, bound, ⟨rfl, rfl⟩ | ⟨d, t, rfl, other⟩⟩ := rest.quotes more
          -- Quotes at the end are read together with the closing ones.
          · exact linesText_replicate (k := k + 1) fuel (by omega)
          -- Before another character there are too few of them to close the text.
          · have goesOn := closing_eq_none (k := k + 1) (t ++ [q, q, q]) (by omega) other
            rw [List.cons_append, quotes.reads, ih more (by simpa using enough)]
            · rfl
            · simpa [List.replicate_succ] using goesOn
  | @piece n c p w s piece _ ih =>
      cases fuel with
      | zero => cases enough
      | succ fuel =>
          rw [List.append_assoc, piece.reads, ih (by omega) (by simpa using enough)]
          rfl

theorem span_replicate (quotes : Quotes q escapes span) {k : Nat} (few : k ≤ 2) {d : Char}
    (other : d ≠ q) (rest : List Char) : span (List.replicate k q ++ [q, q, q] ++ d :: rest) =
      (List.replicate k q ++ [q, q, q], d :: rest) := by
  have extra : spanExtra q (List.replicate k q ++ d :: rest) = (List.replicate k q, d :: rest) := by
    match k with
    | 0 => cases rest <;> simp [spanExtra, other]
    | 1 => simp [spanExtra, other]
    | 2 => simp [spanExtra, List.replicate_succ]
  rw [replicate_closing]
  simp [List.replicate_succ, quotes.ends, spanClosing, extra, Token.more]

theorem span_inside (quotes : Quotes q escapes span) (inside : Inside q escapes span n w s)
    (few : n ≤ 2) {d : Char} (other : d ≠ q) (rest : List Char) :
    span (w ++ [q, q, q] ++ d :: rest) = (w ++ [q, q, q], d :: rest) := by
  induction inside with
  | nil n => exact quotes.span_replicate (Nat.zero_le 2) other rest
  | @quote n w s more inside ih =>
      obtain ⟨k, bound, ⟨rfl, rfl⟩ | ⟨e, t, rfl, apart⟩⟩ := inside.quotes more
      · exact quotes.span_replicate (k := k + 1) (by omega) other rest
      · rw [List.cons_append, List.cons_append, quotes.stay, ih more]
        · rfl
        · intro t' start
          match k, bound with
          | 0, _ => exact apart (List.cons.inj start).1
          | 1, _ => exact apart (List.cons.inj (List.cons.inj start).2).1
          | k + 2, bound => omega
  | @piece n c p w s piece inside ih =>
      simp only [List.append_assoc] at ih ⊢
      rw [piece.passed, ih (by omega)]

theorem span_afterOpening (quotes : Quotes q escapes span) (inside : Inside q escapes span 0 w s)
    {d : Char} (other : d ≠ q) (rest : List Char) :
    span (opening s ++ w ++ [q, q, q] ++ d :: rest) =
      (opening s ++ w ++ [q, q, q], d :: rest) := by
  have passed : Passed span (opening s) := by
    unfold opening
    split
    · exact quotes.lineFeed
    · exact .nil
  have closed := quotes.span_inside inside (Nat.zero_le 2) other rest
  simp only [List.append_assoc] at closed ⊢
  rw [passed, closed]

theorem afterOpening_eq (quotes : Quotes q escapes span) (inside : Inside q escapes span 0 w s) :
    afterOpening (opening s ++ w ++ [q, q, q]) = w ++ [q, q, q] := by
  by_cases feeds : '\n' ∈ s
  · simp [opening, feeds, afterOpening, lineEnd?]
  · have head : ∃ d t, w ++ [q, q, q] = d :: t ∧ d ≠ '\n' ∧ d ≠ '\r' := by
      cases inside with
      | nil => exact ⟨q, _, rfl, quotes.inLine⟩
      | quote => exact ⟨q, _, rfl, quotes.inLine⟩
      | piece piece _ =>
          obtain ⟨d, t, rfl, -, noReturn, lineFeed⟩ := piece.head
          exact ⟨d, _, rfl, fun feed => feeds (by simp [lineFeed feed]), noReturn⟩
    obtain ⟨d, t, same, inLine⟩ := head
    simp [opening, feeds, same, afterOpening, lineEnd?_eq_none t inLine]

theorem linesText_afterOpening (quotes : Quotes q escapes span)
    (inside : Inside q escapes span 0 w s) {fuel : Nat}
    (enough : (opening s ++ w ++ [q, q, q]).length ≤ fuel) :
    linesText q escapes fuel (afterOpening (opening s ++ w ++ [q, q, q])) = some (s, []) := by
  have := inside.length_le
  rw [quotes.afterOpening_eq inside, quotes.linesText_inside inside (Nat.zero_le 2)]
  simp only [List.length_append, List.length_cons] at enough
  omega

end Quotes

theorem ne_return {c : Char} (allowed : isForbidden c = false) : c ≠ '\r' := by
  rintro rfl
  revert allowed
  decide

theorem linesText_single {c : Char} (quote : c ≠ q) (backslash : escapes = true → c ≠ '\\')
    (allowed : c = '\n' ∨ isForbidden c = false) (fuel : Nat) (s : List Char) :
    linesText q escapes (fuel + 1) (c :: s) =
      (linesText q escapes fuel s).map fun (text, s) => (c :: text, s) := by
  have goesOn : closing q (c :: s) = none := closing_eq_none (k := 0) s (Nat.zero_le 2) quote
  have none : (escapes && decide (c = '\\')) = false := by
    cases escapes <;> simp_all
  rw [linesText.eq_def]
  simp only [goesOn, none, Bool.false_eq_true, if_false]
  obtain rfl | allowed := allowed
  · rfl
  · simp only [ne_return allowed, allowed, Bool.false_eq_true, if_false]
    split
    · subst c
      rfl
    · rfl

theorem Piece.single {c : Char} (quote : c ≠ q) (backslash : escapes = true → c ≠ '\\')
    (allowed : c = '\n' ∨ isForbidden c = false) (passed : Passed span [c]) :
    Piece q escapes span c [c] where
  head := by
    refine ⟨c, [], rfl, quote, ?_, id⟩
    obtain rfl | allowed := allowed
    · decide
    · exact ne_return allowed
  passed := passed
  reads := linesText_single quote backslash allowed

end Lines

theorem basicQuotes : Quotes '"' true spanBasicLines where
  reads fuel s goesOn := by
    rw [linesText.eq_def, goesOn]
    rfl
  ends _ := rfl
  stay s few := by
    rw [spanBasicLines]
    · exact fun t _ closing => few t closing
    · exact fun _ escaped => absurd escaped (by decide)
    · exact fun _ escaped => absurd escaped (by decide)
  lineFeed := spanBasicLines_single (by decide) (by decide)
  inLine := by decide

theorem skipFold_eq_none {d : Char} (s : List Char)
    (inLine : isBlank d = false ∧ d ≠ '\n' ∧ d ≠ '\r') : skipFold (d :: s) = none := by
  simp [skipFold, inLine.1, lineEnd?_eq_none s inLine.2]

theorem piece_escape (c : Char) : Piece '"' true spanBasicLines c (escape c) := by
  obtain ⟨same, allowed, quote, backslash⟩ | ⟨d, later, same, escapes⟩ := escape_eq c
  · exact same ▸ .single quote (fun _ => backslash) (.inr allowed)
      (spanBasicLines_single quote backslash)
  · refine ⟨⟨'\\', d :: later, same, by decide, by decide, fun h => absurd h (by decide)⟩,
      spanBasicLines_skips.escape c, fun fuel s => ?_⟩
    have goesOn : closing '"' ('\\' :: d :: (later ++ s)) = none :=
      closing_eq_none (k := 0) _ (Nat.zero_le 2) (by decide)
    rw [same, List.cons_append, List.cons_append, linesText.eq_def]
    simp [goesOn, skipFold_eq_none _ escapes.inLine, escapes.reads]

theorem inside_escapeLines {n : Nat} (few : n ≤ 2) (s : List Char) :
    Inside '"' true spanBasicLines n (escapeLines n s) s := by
  induction s generalizing n with
  | nil => exact .nil n
  | cons c s ih =>
      unfold escapeLines
      split
      · subst c
        exact .piece (.single (by decide) (fun _ => by decide) (.inl rfl)
          (spanBasicLines_single (by decide) (by decide))) (ih (Nat.zero_le 2))
      split
      · subst c
        split
        · exact .piece (piece_escape '"') (ih (Nat.zero_le 2))
        · exact .quote (by omega) (ih (by omega))
      · exact .piece (piece_escape c) (ih (Nat.zero_le 2))

theorem literalQuotes : Quotes '\'' false spanLiteralLines where
  reads fuel s goesOn := by
    rw [linesText.eq_def, goesOn]
    rfl
  ends _ := rfl
  stay s few := by
    rw [spanLiteralLines]
    exact fun t _ closing => few t closing
  lineFeed := spanLiteralLines_single (by decide)
  inLine := by decide

theorem allowed_of_not_control {c : Char} (uncontrolled : isControl c = false) :
    c = '\n' ∨ isForbidden c = false := by
  by_cases lineFeed : c = '\n'
  · exact .inl lineFeed
  · right
    simpa [isControl, isForbidden, lineFeed] using uncontrolled

theorem lt_of_hasRun {c : Char} {count seen : Nat} {s : List Char}
    (few : hasRun c count seen s = false) : seen < count := by
  cases s <;> simp_all [hasRun]

theorem inside_literal {n : Nat} {s : List Char} (uncontrolled : ∀ c ∈ s, isControl c = false)
    (few : hasRun '\'' 3 n s = false) : Inside '\'' false spanLiteralLines n s s := by
  induction s generalizing n with
  | nil => exact .nil n
  | cons c s ih =>
      have later : ∀ d ∈ s, isControl d = false := fun d member => uncontrolled d (by simp [member])
      simp only [hasRun, Bool.or_eq_false_iff] at few
      split at few
      · subst c
        exact .quote (Nat.lt_of_succ_lt_succ (lt_of_hasRun few.2)) (ih later few.2)
      · rename_i quote
        have allowed := allowed_of_not_control (uncontrolled c (by simp))
        exact .piece (.single quote (by simp) allowed (spanLiteralLines_single quote))
          (ih later few.2)

end WalletLoop.Toml
