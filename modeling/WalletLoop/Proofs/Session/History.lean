import Mathlib.Data.List.Basic
import Mathlib.Data.List.Induction
import WalletLoop.Proofs.Session.Paths

namespace WalletLoop.Session

variable {C : Clients}

def Each (fits : List (Event C) → Event C → Prop) (journal : List (Event C)) : Prop :=
  ∀ before e after, journal = before ++ e :: after → fits before e

theorem each_nil (fits : List (Event C) → Event C → Prop) : Each fits [] := by
  intro before e after same
  simp at same

theorem each_concat {fits : List (Event C) → Event C → Prop} {journal : List (Event C)}
    {e : Event C} : Each fits (journal ++ [e]) ↔ Each fits journal ∧ fits journal e := by
  constructor
  · intro each
    refine ⟨?_, each journal e [] rfl⟩
    rintro before other after rfl
    exact each before other (after ++ [e]) (by simp)
  · rintro ⟨each, last⟩ before other after same
    rcases after.eq_nil_or_concat' with rfl | ⟨after, final, rfl⟩
    · obtain ⟨rfl, ends⟩ := List.append_inj' same rfl
      cases ends
      exact last
    · have split : journal ++ [e] = (before ++ other :: after) ++ [final] := by simp [same]
      obtain ⟨rfl, -⟩ := List.append_inj' split rfl
      exact each before other after rfl

theorem Each.front {fits : List (Event C) → Event C → Prop} {journal front later : List (Event C)}
    (each : Each fits journal) (parts : journal = front ++ later) : Each fits front := by
  rintro before e after rfl
  exact each before e (after ++ later) (by simp [parts])

theorem split_at {α : Type*} {l : List α} {n : Nat} {a : α} (at_n : l[n]? = some a) :
    l = l.take n ++ a :: l.drop (n + 1) := by
  obtain ⟨inside, rfl⟩ := List.getElem?_eq_some_iff.1 at_n
  simp

def taken (journal : List (Event C)) : List Work :=
  journal.filterMap fun
    | .took w => some w
    | _ => none

theorem taken_append (journal more : List (Event C)) :
    taken (journal ++ more) = taken journal ++ taken more :=
  List.filterMap_append

theorem taken_concat (journal : List (Event C)) (e : Event C) :
    taken (journal ++ [e]) = taken journal ++ match e with | .took w => [w] | _ => [] := by
  cases e <;> simp [taken]

theorem taken_grows {journal journal' : List (Event C)} (before : journal <+: journal') :
    taken journal <+: taken journal' :=
  before.filterMap _

def applied (journal : List (Event C)) : List Action :=
  journal.filterMap fun
    | .applied a => some a
    | _ => none

theorem applied_append (journal more : List (Event C)) :
    applied (journal ++ more) = applied journal ++ applied more :=
  List.filterMap_append

theorem applied_concat (journal : List (Event C)) (e : Event C) :
    applied (journal ++ [e]) = applied journal ++ match e with | .applied a => [a] | _ => [] := by
  cases e <;> simp [applied]

def issued (route : Route) (journal : List (Event C)) : List Command :=
  journal.filterMap fun
    | .issued r c => if r = route then some c else none
    | _ => none

theorem issued_append (route : Route) (journal more : List (Event C)) :
    issued route (journal ++ more) = issued route journal ++ issued route more :=
  List.filterMap_append

theorem mem_issued {route : Route} {journal : List (Event C)} {c : Command} :
    c ∈ issued route journal ↔ .issued route c ∈ journal := by
  rw [issued, List.mem_filterMap]
  constructor
  · rintro ⟨e, member, same⟩
    cases e with
    | issued r c' =>
        obtain ⟨rfl, rfl⟩ : r = route ∧ c' = c := by simpa using same
        exact member
    | _ => cases same
  · intro member
    exact ⟨_, member, if_pos rfl⟩

def running (journal : List (Event C)) : Option Work :=
  journal.foldl (fun r e =>
    match e with
    | .took w => some w
    | .finished _ => none
    | _ => r) none

theorem running_concat (journal : List (Event C)) (e : Event C) :
    running (journal ++ [e]) = match e with
      | .took w => some w
      | .finished _ => none
      | _ => running journal := by
  cases e <;> simp [running]

end WalletLoop.Session
