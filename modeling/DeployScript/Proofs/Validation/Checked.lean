import DeployScript.Validation
import Mathlib.Data.List.Forall2

/-!
# When checks succeed

A check that is put together from others succeeds exactly if they do, and its value is put together
from theirs. The issues of a failure play no part in that.
-/

namespace DeployScript.Validation

variable {α β : Type}

theorem Checked.under_eq_ok_iff {segment : Segment} {c : Checked α} {x : α} :
    c.under segment = .ok x ↔ c = .ok x := by
  cases c with
  | error issues => simp [Checked.under, Except.mapError]
  | ok y => simp [Checked.under, Except.mapError]

theorem Checked.both_eq_ok_iff {a : Checked α} {b : Checked β} {x : α × β} :
    Checked.both a b = .ok x ↔ a = .ok x.1 ∧ b = .ok x.2 := by
  obtain ⟨y, z⟩ := x
  cases a <;> cases b <;> simp [Checked.both]

theorem Checked.map_eq_ok_iff {c : Checked α} {f : α → β} {y : β} :
    c.map f = .ok y ↔ ∃ x, c = .ok x ∧ f x = y := by
  cases c <;> simp [Except.map]

theorem Checked.bind_eq_ok_iff {c : Checked α} {f : α → Checked β} {y : β} :
    c >>= f = .ok y ↔ ∃ x, c = .ok x ∧ f x = .ok y := by
  cases c <;> simp [bind, Except.bind]

theorem record_eq_ok_iff {d : Document} {entries : List (Document × Document)} :
    record d = .ok entries ↔ d = .mapping entries := by
  cases d <;> simp [record, fail]

theorem items_eq_ok_iff {check : Document → Checked α} {position : Nat} {ds : List Document}
    {xs : List α} :
    items check position ds = .ok xs ↔ List.Forall₂ (fun d x => check d = .ok x) ds xs := by
  induction ds generalizing position xs with
  | nil =>
    rw [items, List.forall₂_nil_left_iff, Except.ok.injEq]
    exact eq_comm
  | cons d rest ih =>
    rw [items, Checked.map_eq_ok_iff, List.forall₂_cons_left_iff]
    constructor
    · rintro ⟨⟨x, rest'⟩, hboth, rfl⟩
      obtain ⟨hfirst, hrest⟩ := Checked.both_eq_ok_iff.1 hboth
      exact ⟨x, rest', Checked.under_eq_ok_iff.1 hfirst, ih.1 hrest, rfl⟩
    · rintro ⟨x, rest', hfirst, hrest, rfl⟩
      exact ⟨(x, rest'), Checked.both_eq_ok_iff.2 ⟨Checked.under_eq_ok_iff.2 hfirst, ih.2 hrest⟩,
        rfl⟩

theorem required_eq_ok_iff {entries : List (Document × Document)} {name : String}
    {check : Document → Checked α} {x : α} :
    required entries name check = .ok x ↔
      ∃ d, Document.lookup? name entries = some d ∧ check d = .ok x := by
  rw [required, Checked.under_eq_ok_iff]
  cases Document.lookup? name entries <;> simp [fail]

theorem optional_eq_ok_iff {entries : List (Document × Document)} {name : String} {fallback : α}
    {check : Document → Checked α} {x : α} :
    optional entries name fallback check = .ok x ↔
      (∃ d, Document.lookup? name entries = some d ∧ check d = .ok x) ∨
        (Document.lookup? name entries = none ∧ x = fallback) := by
  rw [optional]
  cases Document.lookup? name entries with
  | none => simp [eq_comm]
  | some d => simp [Checked.under_eq_ok_iff]

end DeployScript.Validation
