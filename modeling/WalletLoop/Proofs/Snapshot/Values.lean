import Mathlib.Data.List.Destutter
import Mathlib.Data.List.Infix
import WalletLoop.Session.Clients

namespace WalletLoop

variable {α : Type} [DecidableEq α]

def changed (f : Snapshot → α) : Selector := fun old new => decide (f old ≠ f new)

theorem destutter'_concat (l : List α) (a x : α) :
    (l ++ [x]).destutter' (· ≠ ·) a =
      if l.getLastD a = x then l.destutter' (· ≠ ·) a else l.destutter' (· ≠ ·) a ++ [x] := by
  induction l generalizing a with
  | nil => by_cases same : a = x <;> simp [same]
  | cons b l ih =>
      rw [List.cons_append, List.getLastD_cons]
      by_cases same : a = b
      · rw [List.destutter'_cons_neg _ (by simpa using same),
          List.destutter'_cons_neg _ (by simpa using same), ih, same]
      · rw [List.destutter'_cons_pos _ same, List.destutter'_cons_pos _ same, ih]
        split <;> rfl

theorem destutter_concat {l : List α} {y : α} (last : l.getLast? = some y) (x : α) :
    (l ++ [x]).destutter (· ≠ ·) =
      if y = x then l.destutter (· ≠ ·) else l.destutter (· ≠ ·) ++ [x] := by
  cases l with
  | nil => cases last
  | cons a l =>
      have same : l.getLastD a = y := by
        rw [List.getLast?_cons, Option.some.injEq] at last
        rw [← last, List.getLastD_eq_getLast?]
      rw [List.cons_append, List.destutter_cons', List.destutter_cons', destutter'_concat, same]

theorem destutter_getLast? (l : List α) : (l.destutter (· ≠ ·)).getLast? = l.getLast? := by
  induction l using List.reverseRecOn with
  | nil => rfl
  | append_singleton l x ih =>
      cases last : l.getLast? with
      | none =>
          obtain rfl := List.getLast?_eq_none_iff.1 last
          rfl
      | some y =>
          rw [destutter_concat last]
          split
          · rename_i same
            rw [ih, last, same, List.getLast?_concat]
          · simp

/-- The values that a part of the snapshot takes, each named once for as long as it lasts. -/
def values (f : Snapshot → α) (start : Snapshot) (as : List Action) : List α :=
  ((as.scanl Snapshot.reduce start).map f).destutter (· ≠ ·)

theorem values_nil (f : Snapshot → α) (start : Snapshot) : values f start [] = [f start] := by
  simp [values]

theorem values_concat (f : Snapshot → α) (start : Snapshot) (as : List Action) (a : Action) :
    values f start (as ++ [a]) =
      if changed f (as.foldl Snapshot.reduce start) ((as ++ [a]).foldl Snapshot.reduce start) then
        values f start as ++ [f ((as ++ [a]).foldl Snapshot.reduce start)]
      else values f start as := by
  have last : ((as.scanl Snapshot.reduce start).map f).getLast? =
      some (f (as.foldl Snapshot.reduce start)) := by
    rw [List.getLast?_map, List.getLast?_scanl, Option.map_some]
  rw [values, List.scanl_append, List.scanl_singleton, List.tail_cons, List.map_append,
    List.map_singleton, destutter_concat last, List.foldl_append]
  simp only [List.foldl_cons, List.foldl_nil, changed, values]
  by_cases same :
      f (as.foldl Snapshot.reduce start) = f ((as.foldl Snapshot.reduce start).reduce a) <;>
    simp [same]

theorem values_getLast? (f : Snapshot → α) (start : Snapshot) (as : List Action) :
    (values f start as).getLast? = some (f (as.foldl Snapshot.reduce start)) := by
  rw [values, destutter_getLast?, List.getLast?_map, List.getLast?_scanl, Option.map_some]

end WalletLoop
