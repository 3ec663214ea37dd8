import Mathlib.Data.List.Nodup
import WalletLoop.Toml.Reading

namespace WalletLoop.Toml

namespace Entries

def Distinct (es : Entries) : Prop := (es.map Prod.fst).Nodup

variable {es es' : Entries} {key : String} {item : Item}

theorem find?_eq_none : find? es key = none ↔ ∀ item, (key, item) ∉ es := by
  simp only [find?, Option.map_eq_none_iff, List.find?_eq_none, beq_iff_eq]
  refine ⟨fun missing item member => missing _ member rfl, fun missing e member same => ?_⟩
  subst same
  exact missing e.2 member

theorem Distinct.find?_eq_some (distinct : Distinct es) :
    find? es key = some item ↔ (key, item) ∈ es := by
  induction es with
  | nil => simp [find?]
  | cons e es ih =>
      obtain ⟨new, distinct⟩ := List.nodup_cons.1 distinct
      have rest := ih distinct
      rw [find?, List.find?_cons]
      by_cases here : e.1 = key
      · subst here
        have later : (e.1, item) ∉ es := fun member =>
          new (List.mem_map.2 ⟨(e.1, item), member, rfl⟩)
        simp only [beq_self_eq_true, Option.map_some, Option.some_inj, List.mem_cons, later,
          or_false, Prod.ext_iff, true_and]
        exact eq_comm
      · have apart : (key, item) ≠ e := by
          rintro rfl
          exact here rfl
        rw [beq_false_of_ne here, List.mem_cons, or_iff_right apart]
        exact rest

theorem Distinct.mem_iff {found : Item} (distinct : Distinct es)
    (under : find? es key = some found) : (key, item) ∈ es ↔ found = item := by
  rw [← distinct.find?_eq_some, under, Option.some_inj]

theorem distinct_append (distinct : Distinct es) (missing : find? es key = none) (item : Item) :
    Distinct (es ++ [(key, item)]) := by
  rw [Distinct, List.map_append, List.map_singleton, List.nodup_append]
  refine ⟨distinct, List.nodup_singleton _, ?_⟩
  intro other member same single
  obtain ⟨e, there, rfl⟩ := List.mem_map.1 member
  rw [List.mem_singleton.1 single]
  rintro rfl
  exact find?_eq_none.1 missing e.2 there

theorem distinct_replace (distinct : Distinct es) (key : String) (item : Item) :
    Distinct (replace es key item) := by
  have same : (replace es key item).map Prod.fst = es.map Prod.fst := by
    rw [replace, List.map_map]
    refine List.map_congr_left fun e _ => ?_
    simp only [Function.comp_apply, beq_iff_eq]
    split
    · exact Eq.symm ‹_›
    · rfl
  rwa [Distinct, same]

def Tidy (change : Entries → Except Fault Entries) : Prop :=
  ∀ ⦃es es'⦄, Distinct es → change es = .ok es' → Distinct es'

theorem eq_ok_of_map {α β : Type} {f : α → β} {r : Except Fault α} {b : β}
    (mapped : r.map f = .ok b) : ∃ a, r = .ok a ∧ f a = b := by
  cases r with
  | error fault => cases mapped
  | ok a => exact ⟨a, rfl, Except.ok.inj mapped⟩

theorem eq_ok_of_bind {α β : Type} {f : α → Except Fault β} {r : Except Fault α} {b : β}
    (bound : r.bind f = .ok b) : ∃ a, r = .ok a ∧ f a = .ok b := by
  cases r with
  | error fault => cases bound
  | ok a => exact ⟨a, rfl, bound⟩

theorem tidy_add (key : String) (item : Item) : Tidy (add · key item) := by
  intro es es' distinct added
  simp only [add] at added
  split at added
  · cases added
  · rename_i missing
    cases added
    exact distinct_append distinct (by simpa using missing) item

theorem tidy_assignBelow (key : String) (item : Item) (outer : List String) :
    Tidy (assignBelow key item outer) := by
  intro es es' distinct assigned
  cases outer with
  | nil => exact tidy_add key item distinct assigned
  | cons outer rest =>
      rw [assignBelow] at assigned
      split at assigned
      · obtain ⟨inner, -, rfl⟩ := eq_ok_of_map assigned
        exact distinct_append distinct ‹_› _
      · split at assigned
        · obtain ⟨inner, -, rfl⟩ := eq_ok_of_map assigned
          exact distinct_replace distinct _ _
        · cases assigned
      · split at assigned
        · cases assigned
        · obtain ⟨ts, -, rfl⟩ := eq_ok_of_map assigned
          exact distinct_replace distinct _ _
      · cases assigned

theorem tidy_within {change : Entries → Except Fault Entries} (tidy : Tidy change)
    (outer : List String) : Tidy (within change outer) := by
  intro es es' distinct changed
  cases outer with
  | nil => exact tidy distinct changed
  | cons outer rest =>
      rw [within] at changed
      split at changed
      · obtain ⟨inner, -, rfl⟩ := eq_ok_of_map changed
        exact distinct_append distinct ‹_› _
      · cases changed
      · obtain ⟨inner, -, rfl⟩ := eq_ok_of_map changed
        exact distinct_replace distinct _ _
      · obtain ⟨ts, -, rfl⟩ := eq_ok_of_map changed
        exact distinct_replace distinct _ _
      · cases changed

theorem tidy_openTable (fill : Entries → Except Fault Entries) (key : String) :
    Tidy (openTable fill key) := by
  intro es es' distinct opened
  simp only [openTable] at opened
  split at opened
  · obtain ⟨inner, -, rfl⟩ := eq_ok_of_map opened
    exact distinct_append distinct ‹_› _
  · obtain ⟨inner, -, rfl⟩ := eq_ok_of_map opened
    exact distinct_replace distinct _ _
  · cases opened

theorem tidy_pushTable (table : Entries) (key : String) : Tidy (pushTable table key) := by
  intro es es' distinct pushed
  simp only [pushTable] at pushed
  split at pushed
  · cases pushed
    exact distinct_append distinct ‹_› _
  · cases pushed
    exact distinct_replace distinct _ _
  · cases pushed

end Entries

open Entries

theorem tidy_assignAll (pairs : List (List WrittenKey × Value)) : Tidy (assignAll · pairs) := by
  induction pairs with
  | nil =>
      intro es es' distinct assigned
      cases assigned
      exact distinct
  | cons pair rest ih =>
      intro es es' distinct assigned
      simp only [assignAll] at assigned
      obtain ⟨path, -, assigned⟩ := eq_ok_of_bind assigned
      obtain ⟨item, -, assigned⟩ := eq_ok_of_bind assigned
      obtain ⟨next, first, assigned⟩ := eq_ok_of_bind assigned
      exact ih (tidy_assignBelow _ _ _ distinct first) assigned

theorem tidy_apply (s : Section) : Tidy s.apply := by
  intro es es' distinct applied
  obtain ⟨path, -, applied⟩ := eq_ok_of_bind applied
  split at applied
  · obtain ⟨table, -, applied⟩ := eq_ok_of_bind applied
    exact tidy_within (tidy_pushTable table path.last) path.outer distinct applied
  · exact tidy_within (tidy_openTable _ path.last) path.outer distinct applied

theorem tidy_applySections (sections : List Section) : Tidy (applySections sections) := by
  induction sections with
  | nil =>
      intro es es' distinct applied
      cases applied
      exact distinct
  | cons s rest ih =>
      intro es es' distinct applied
      obtain ⟨next, first, applied⟩ := eq_ok_of_bind applied
      exact ih (tidy_apply s distinct first) applied

theorem distinct_build {statements : List Statement} {es : Entries}
    (built : build statements = .ok es) : Distinct es := by
  obtain ⟨before, assigned, built⟩ := eq_ok_of_bind built
  obtain ⟨all, applied, built⟩ := eq_ok_of_bind built
  have none : Distinct [] := List.nodup_nil
  split at built
  · cases built
    exact tidy_applySections _ (tidy_assignAll _ none assigned) applied
  · cases built

theorem distinct_parse {text : String} {es : Entries} (parsed : parse text = .ok es) :
    Distinct es := by
  obtain ⟨statements, -, built⟩ := eq_ok_of_bind parsed
  exact distinct_build built

end WalletLoop.Toml
