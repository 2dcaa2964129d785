import DeployScript.Template.Render
import Mathlib.Data.List.SplitBy

/-!
# Runs of line ends

Shortening a text reads it from the front and counts the line ends just before. What it comes to
is said here by runs: the text is cut into its runs of line ends and single other code points, and
two code points at most are kept of each.
-/

namespace DeployScript.Template

def lineEnds (count : Nat) : Text := List.replicate count '\n'

def bothLineEnds (first second : CodePoint) : Bool :=
  decide (first = '\n') && decide (second = '\n')

/-- The text, with every run of three or more line ends cut to two. -/
def cutRuns (t : Text) : Text := (t.splitBy bothLineEnds).flatMap (List.take 2)

theorem cutRuns_append {t more : Text}
    (h : ∀ c ∈ t.getLast?, ∀ d ∈ more.head?, bothLineEnds c d = false) :
    cutRuns (t ++ more) = cutRuns t ++ cutRuns more := by
  rw [cutRuns, List.splitBy_append h, List.flatMap_append]
  rfl

theorem cutRuns_cons {c : CodePoint} (hc : c ≠ '\n') (t : Text) :
    cutRuns (c :: t) = c :: cutRuns t := by
  have hsplit : cutRuns ([c] ++ t) = cutRuns [c] ++ cutRuns t := by
    apply cutRuns_append
    intro d hd e _
    have heq : c = d := by simpa using hd
    subst heq
    simp [bothLineEnds, hc]
  exact hsplit

theorem lineEnds_succ_append (k : Nat) (t : Text) :
    lineEnds (k + 1) ++ t = lineEnds k ++ .char '\n' :: t := by
  rw [lineEnds, List.replicate_succ', List.append_assoc]
  rfl

theorem cutRuns_lineEnds (k : Nat) : cutRuns (lineEnds k) = lineEnds (min k 2) := by
  by_cases hk : k = 0
  · subst hk
    rfl
  · have hchain : (lineEnds k).IsChain fun first second => bothLineEnds first second = true :=
      List.isChain_replicate_of_rel k rfl
    have hne : lineEnds k ≠ [] := by simp [lineEnds, hk]
    rw [cutRuns, List.splitBy_of_isChain hne hchain, List.flatMap_singleton, lineEnds,
      List.take_replicate, Nat.min_comm]
    rfl

/-- Line ends in front of a text have been counted up to two when the reader gets to the text. -/
theorem cutRuns_lineEnds_append (k : Nat) (t : Text) :
    cutRuns (lineEnds k ++ t) = lineEnds (min k 2) ++ shortenRuns (min k 2) t := by
  induction t generalizing k with
  | nil => rw [List.append_nil, cutRuns_lineEnds, shortenRuns, List.append_nil]
  | cons c t ih =>
    by_cases hc : c = '\n'
    · subst hc
      rw [← lineEnds_succ_append, ih, shortenRuns, if_pos rfl]
      by_cases hk : k < 2
      · have hmin : min k 2 = k := by omega
        have hsucc : min (k + 1) 2 = k + 1 := by omega
        rw [hmin, hsucc, if_pos hk, lineEnds_succ_append]
      · have hmin : min k 2 = 2 := by omega
        have hsucc : min (k + 1) 2 = 2 := by omega
        rw [hmin, hsucc, if_neg (Nat.lt_irrefl 2)]
    · have happend : cutRuns (lineEnds k ++ c :: t) = cutRuns (lineEnds k) ++ cutRuns (c :: t) := by
        apply cutRuns_append
        intro _ _ d hd
        have heq : c = d := by simpa using hd
        subst heq
        simp [bothLineEnds, hc]
      have hrest : cutRuns t = shortenRuns 0 t := ih 0
      rw [happend, cutRuns_lineEnds, cutRuns_cons hc, shortenRuns, if_neg hc, hrest]

/-- Shortening cuts the runs. -/
theorem shortenRuns_eq_cutRuns (t : Text) : shortenRuns 0 t = cutRuns t :=
  (cutRuns_lineEnds_append 0 t).symm

end DeployScript.Template
