import Mathlib.Data.List.Nodup

/-!
# Pairs with distinct keys

In a list of pairs that has every key once, the pair that is found under a key is the one with that
key, wherever it stands.
-/

namespace DeployScript

variable {α β : Type} [BEq α] [LawfulBEq α] {pairs pairs' : List (α × β)}

theorem find?_key_eq_some_iff (hdistinct : (pairs.map Prod.fst).Nodup) {key : α} {pair : α × β} :
    pairs.find? (fun p => p.1 == key) = some pair ↔ pair ∈ pairs ∧ pair.1 = key := by
  constructor
  · intro hfind
    exact ⟨List.mem_of_find?_eq_some hfind, by simpa using List.find?_some hfind⟩
  · rintro ⟨hmem, rfl⟩
    have hfound : (pairs.find? fun p => p.1 == pair.1).isSome = true := by
      rw [List.find?_isSome]
      exact ⟨pair, hmem, beq_self_eq_true _⟩
    obtain ⟨other, hother⟩ := Option.isSome_iff_exists.1 hfound
    have hkey : other.1 = pair.1 := by simpa using List.find?_some hother
    rw [hother, List.inj_on_of_nodup_map hdistinct (List.mem_of_find?_eq_some hother) hmem hkey]

/-- In which order the pairs stand, and from which end they are looked through, does not matter. -/
theorem find?_key_perm (hdistinct : (pairs.map Prod.fst).Nodup) (hperm : pairs.Perm pairs')
    (key : α) :
    pairs'.find? (fun p => p.1 == key) = pairs.find? (fun p => p.1 == key) := by
  have hdistinct' : (pairs'.map Prod.fst).Nodup := (hperm.map Prod.fst).nodup_iff.1 hdistinct
  apply Option.ext
  intro pair
  rw [find?_key_eq_some_iff hdistinct', find?_key_eq_some_iff hdistinct, hperm.mem_iff]

end DeployScript
