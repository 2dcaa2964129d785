import DeployScript.Proofs.Generate.Stage
import Mathlib.Data.List.TakeWhile

/-!
# What a receipt tells

Running a command gives a receipt unless starting its program crashes, and the receipt can be read
in one way only. It is ok or failed and never skipped; it is ok just for a program that ended with
the code 0; a failed one says why. What it quotes of a program is what the program wrote without the
spaces around it, so that a program that wrote nothing but spaces counts as one that wrote nothing.
-/

namespace DeployScript

/-! ### Texts without spaces around them -/

namespace Text

/-- No space is at either end of the text. -/
def Trimmed (t : String) : Prop :=
  (∀ c ∈ t.toList.head?, isSpace c = false) ∧ ∀ c ∈ t.toList.getLast?, isSpace c = false

/-- The second text is the first one without the spaces at both ends of it. -/
structure StripsTo (t inner : String) : Prop where
  around : ∃ front back, t.toList = front ++ inner.toList ++ back ∧
    ∀ c ∈ front ++ back, isSpace c = true
  trimmed : Trimmed inner

theorem mem_dropStart_head? {p : Char → Bool} {cs : List Char} {c : Char}
    (h : c ∈ (dropStart p cs).head?) : p c = false := by
  have hhead := List.head?_dropWhile_not p cs
  rw [dropStart] at h
  rw [Option.mem_def.1 h] at hhead
  exact hhead

theorem dropEnd_prefix (p : Char → Bool) (cs : List Char) : dropEnd p cs <+: cs := by
  rw [dropEnd, ← List.reverse_suffix, List.reverse_reverse]
  exact List.dropWhile_suffix p

theorem stripsTo_strip (t : String) : StripsTo t (strip t) := by
  have hinner : (strip t).toList = dropEnd isSpace (dropStart isSpace t.toList) := by
    rw [strip, String.toList_ofList]
    rfl
  constructor
  · refine ⟨t.toList.takeWhile isSpace,
      ((dropStart isSpace t.toList).reverse.takeWhile isSpace).reverse, ?_, ?_⟩
    · rw [hinner, List.append_assoc, dropEnd, ← List.reverse_append,
        List.takeWhile_append_dropWhile, List.reverse_reverse, dropStart,
        List.takeWhile_append_dropWhile]
    · intro c hc
      rcases List.mem_append.1 hc with hc | hc
      · exact List.mem_takeWhile_imp hc
      · exact List.mem_takeWhile_imp (List.mem_reverse.1 hc)
  · rw [Trimmed, hinner]
    constructor
    · intro c hc
      obtain ⟨rest, hrest⟩ := dropEnd_prefix isSpace (dropStart isSpace t.toList)
      have hhead : c ∈ (dropStart isSpace t.toList).head? := by
        rw [← hrest, List.head?_append, Option.mem_def.1 hc]
        rfl
      exact mem_dropStart_head? hhead
    · intro c hc
      rw [dropEnd, List.getLast?_reverse] at hc
      exact mem_dropStart_head? hc

end Text

/-! ### The first text that says something -/

namespace Receipt

/-- The text is the first of these that is not empty. -/
def FirstNonEmpty (texts : List String) (t : String) : Prop :=
  ∃ front rest, texts = front ++ t :: rest ∧ t ≠ "" ∧ ∀ x ∈ front, x = ""

theorem firstNonEmpty_spec {texts : List String} (h : ∃ t ∈ texts, t ≠ "") :
    FirstNonEmpty texts (firstNonEmpty texts) := by
  obtain ⟨t, ht⟩ : ∃ t, texts.find? (· != "") = some t := by
    rw [← Option.isSome_iff_exists, List.find?_isSome]
    simpa using h
  rw [firstNonEmpty, ht, Option.getD_some]
  obtain ⟨hne, front, rest, htexts, hfront⟩ := List.find?_eq_some_iff_append.1 ht
  exact ⟨front, rest, htexts, by simpa using hne, by simpa using hfront⟩

theorem append_ne_empty_left {t : String} (h : t ≠ "") (rest : String) : t ++ rest ≠ "" :=
  fun happend => h (String.append_eq_empty_iff.1 happend).1

theorem append_ne_empty_right (front : String) {t : String} (h : t ≠ "") : front ++ t ≠ "" :=
  fun happend => h (String.append_eq_empty_iff.1 happend).2

/-- The program of a start ended: there was one, and this came of it. -/
def Ended (s : Start) (outcome : Outcome) (code : Int) (output errors : String) : Prop :=
  s.argv ≠ [] ∧ outcome = .ended code output errors

/-- The start crashed: there was a program, and this was wrong. -/
def Crashed (s : Start) (outcome : Outcome) (fault : StartFault) : Prop :=
  s.argv ≠ [] ∧ outcome = .crashed fault

/-- What a receipt says of a program that ended. -/
structure TellsEnd (r : Receipt) (code : Int) (output errors : String) : Prop where
  ok : code = 0 → r.output = output ∧ r.remark = .errors errors
  failed : code ≠ 0 → ∃ e, r.error = some (Text.ofString e) ∧
    FirstNonEmpty [errors, output, s!"Command exited with code {code}"] e

/-- The receipt for a start with an outcome can be read in one way only. -/
structure Unambiguous (s : Start) (outcome : Outcome) (r : Receipt) : Prop where
  isOk_iff : r.isOk = true ↔ ∃ output errors, Ended s outcome 0 output errors
  isFailed_iff : r.isFailed = true ↔ ¬ r.isOk = true
  status_ne : r.status ≠ .skipped
  error_of_ok : r.isOk = true → r.error = none
  error_of_failed : r.isFailed = true → ∃ e, r.error = some e ∧ e ≠ []
  returnCode_iff : ∀ code, r.returnCode = some code ↔
    ∃ output errors, Ended s outcome code output errors
  ended : ∀ code output errors, Ended s outcome code output errors →
    ∃ out err, Text.StripsTo output out ∧ Text.StripsTo errors err ∧ TellsEnd r code out err
  output : Text.Trimmed r.output
  remark : ∀ errors, r.remark = .errors errors → Text.Trimmed errors

variable {s : Start} {outcome : Outcome}

theorem ofString_ne_nil {t : String} (h : t ≠ "") : Text.ofString t ≠ [] := by
  intro hnil
  have hempty : t.toList = [] := by simpa [Text.ofString, Text.ofChars] using hnil
  exact h (by rw [← String.ofList_toList (s := t), hempty])

/-- A receipt that failed before a program ended tells nothing of a program. -/
theorem unambiguous_of_failure {r : Receipt} {e : Text} (hstatus : r.status = .failed)
    (houtput : r.output = "") (herror : r.error = some e) (he : e ≠ [])
    (hcode : r.returnCode = none) (hremark : ∀ errors, r.remark ≠ .errors errors)
    (hended : ∀ code output errors, ¬ Ended s outcome code output errors) :
    Unambiguous s outcome r where
  isOk_iff := by simp [isOk, hstatus, hended]
  isFailed_iff := by simp [isOk, isFailed, hstatus]
  status_ne := by simp [hstatus]
  error_of_ok := by simp [isOk, hstatus]
  error_of_failed _ := ⟨e, herror, he⟩
  returnCode_iff := by simp [hcode, hended]
  ended code output errors h := absurd h (hended code output errors)
  output := by simp [houtput, Text.Trimmed]
  remark errors h := absurd h (hremark errors)

theorem not_ended_of_ne (h : ∀ code output errors, outcome ≠ .ended code output errors)
    (code : Int) (output errors : String) : ¬ Ended s outcome code output errors :=
  fun hended => h code output errors hended.2

theorem ended_ended_iff {code code' : Int} {output output' errors errors' : String}
    (hargv : s.argv ≠ []) :
    Ended s (.ended code output errors) code' output' errors' ↔
      code' = code ∧ output' = output ∧ errors' = errors := by
  simp only [Ended, hargv, ne_eq, not_false_eq_true, true_and, Outcome.ended.injEq]
  grind

theorem exists_ended_ended_iff {code code' : Int} {output errors : String} (hargv : s.argv ≠ []) :
    (∃ output' errors', Ended s (.ended code output errors) code' output' errors') ↔
      code' = code := by
  simp [ended_ended_iff hargv]

theorem unambiguous_success {output errors : String} (hargv : s.argv ≠ []) :
    Unambiguous s (.ended 0 output errors)
      (success s.argv (Text.strip output) (Text.strip errors)) := by
  have hout := Text.stripsTo_strip output
  have herr := Text.stripsTo_strip errors
  constructor
  case isOk_iff =>
    rw [exists_ended_ended_iff hargv]
    simp [isOk, success]
  case returnCode_iff =>
    intro code
    rw [exists_ended_ended_iff hargv]
    simp [success, eq_comm]
  case ended =>
    intro code output' errors' h
    obtain ⟨rfl, rfl, rfl⟩ := (ended_ended_iff hargv).1 h
    exact ⟨_, _, hout, herr, ⟨fun _ => ⟨rfl, rfl⟩, fun hne => absurd rfl hne⟩⟩
  case output => exact hout.trimmed
  case remark =>
    intro errors' h
    cases h
    exact herr.trimmed
  all_goals simp [isOk, isFailed, success]

theorem unambiguous_badEnd {code : Int} {output errors : String} (hargv : s.argv ≠ [])
    (hcode : code ≠ 0) :
    Unambiguous s (.ended code output errors)
      (badEnd s.argv (firstNonEmpty [Text.strip errors, Text.strip output,
        s!"Command exited with code {code}"]) code) := by
  have hexit : s!"Command exited with code {code}" ≠ "" := append_ne_empty_left (by decide) _
  have hfirst : FirstNonEmpty [Text.strip errors, Text.strip output,
      s!"Command exited with code {code}"] _ := firstNonEmpty_spec ⟨_, by simp, hexit⟩
  constructor
  case isOk_iff =>
    rw [exists_ended_ended_iff hargv]
    simp [isOk, badEnd, Ne.symm hcode]
  case error_of_failed =>
    intro _
    obtain ⟨-, -, -, hne, -⟩ := hfirst
    exact ⟨_, rfl, ofString_ne_nil hne⟩
  case returnCode_iff =>
    intro code'
    rw [exists_ended_ended_iff hargv]
    simp [badEnd, eq_comm]
  case ended =>
    intro code' output' errors' h
    obtain ⟨rfl, rfl, rfl⟩ := (ended_ended_iff hargv).1 h
    exact ⟨_, _, Text.stripsTo_strip _, Text.stripsTo_strip _,
      ⟨fun hzero => absurd hzero hcode, fun _ => ⟨_, rfl, hfirst⟩⟩⟩
  case output => simp [badEnd, Text.Trimmed]
  all_goals simp [isOk, isFailed, badEnd]

theorem unambiguous_of_ofOutcome {r : Receipt} (hargv : s.argv ≠ [])
    (h : ofOutcome s outcome = .ok r) : Unambiguous s outcome r := by
  cases outcome with
  | crashed fault => cases h
  | ended code output errors =>
    cases h
    rw [ofEnd]
    split
    · next hcode =>
      rw [hcode]
      exact unambiguous_success hargv
    · next hcode => exact unambiguous_badEnd hargv hcode
  | notFound =>
    cases h
    have herror : ("Command not found: " ++ s.argv.headD [] : Text) ≠ [] := by
      simp [Text.ofString, Text.ofChars]
    exact unambiguous_of_failure rfl rfl rfl herror rfl (fun _ h => by cases h)
      (not_ended_of_ne (by simp))
  | timedOut =>
    cases h
    have herror : s!"Command timed out after {stopped.limitText s.limit}s" ≠ "" :=
      append_ne_empty_right _ (by decide)
    exact unambiguous_of_failure rfl rfl rfl (ofString_ne_nil herror) rfl (fun _ h => by cases h)
      (not_ended_of_ne (by simp))
  | refused reason =>
    cases h
    have herror : s!"Command execution error: {reason}" ≠ "" :=
      append_ne_empty_left (by decide) _
    exact unambiguous_of_failure rfl rfl rfl (ofString_ne_nil herror) rfl (fun _ h => by cases h)
      (not_ended_of_ne (by simp))

theorem unambiguous_of_run {w : Machine} {r : Receipt}
    (h : ((Command.run s : OnMachine (Except Crash Receipt)).run w).1 = .ok r) :
    Unambiguous s (w.outcomes.head?.getD .silent) r := by
  rw [Command.run_fst] at h
  split at h
  · next hargv =>
    -- Nothing is started, and so nothing can have ended.
    have hnone : ∀ code output errors,
        ¬ Ended s (w.outcomes.head?.getD .silent) code output errors := by
      rintro code output errors ⟨hne, -⟩
      exact hne (List.isEmpty_iff.1 hargv)
    cases h
    exact unambiguous_of_failure rfl rfl rfl (by decide) rfl (fun _ h => by cases h) hnone
  · next hargv => exact unambiguous_of_ofOutcome (by simpa using hargv) h

/-- Running a command crashes where its start did, and gives a receipt everywhere else, one that can
be read in one way only. -/
theorem unambiguous_run (s : Start) (w : Machine) :
    (∃ fault, Crashed s (w.outcomes.head?.getD .silent) fault ∧
      ((Command.run s : OnMachine (Except Crash Receipt)).run w).1 = .error (.start fault)) ∨
    (¬ ∃ fault, Crashed s (w.outcomes.head?.getD .silent) fault) ∧
      ∃ r, ((Command.run s : OnMachine (Except Crash Receipt)).run w).1 = .ok r ∧
        Unambiguous s (w.outcomes.head?.getD .silent) r := by
  cases hrun : ((Command.run s : OnMachine (Except Crash Receipt)).run w).1 with
  | error crash =>
    rw [Command.run_fst] at hrun
    split at hrun
    · cases hrun
    · next hargv =>
      obtain ⟨fault, rfl, houtcome⟩ := (Command.ofOutcome_eq_error_iff s).1 hrun
      exact .inl ⟨fault, ⟨by simpa using hargv, houtcome⟩, rfl⟩
  | ok r =>
    refine .inr ⟨?_, r, rfl, unambiguous_of_run hrun⟩
    rintro ⟨fault, hargv, houtcome⟩
    rw [Command.run_fst, if_neg (by simpa using hargv), houtcome] at hrun
    cases hrun

/-- A time limit of a hundred days is longer than can be waited for. -/
theorem not_forall_unambiguous_run :
    ¬ ∀ s w, ∃ r, ((Command.run s : OnMachine (Except Crash Receipt)).run w).1 = .ok r ∧
      Unambiguous s (w.outcomes.head?.getD .silent) r := by
  intro hall
  obtain ⟨r, hrun, -⟩ := hall ⟨["true"], none, some (.whole 10000000)⟩
    { Machine.ofTree .empty [] with outcomes := [.crashed .limitTooLong] }
  rw [Command.run_fst] at hrun
  cases hrun

end Receipt

end DeployScript
