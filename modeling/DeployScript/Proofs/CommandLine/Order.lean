import DeployScript.Proofs.CommandLine.Course
import DeployScript.Proofs.CommandLine.Sorting
import DeployScript.Proofs.Pairs

/-!
# The order of the arguments

A command line names a source file and gives options, those with a value in front of it. In which
order this is done should not matter. The arguments of each group are read together whatever stands
next to them, so that another order of the groups gives the same options in another order. Where no
option is given twice its value is found in any order, and of the checks of the values only that of
the configuration file can fail once no value looks like an option.
-/

namespace DeployScript.CommandLine

/-! ### Groups of arguments -/

/-- The source file, or an option with its value. -/
inductive ArgumentGroup where
  | source (path : String) (path_ok : startsWithHyphen path = false)
  | flag (s : Setting) (spelling : String) (spelling_ok : spelling ∈ s.spellings)
    (flag_ok : s.takesValue = false ∧ s.asksForText = false)
  | valued (s : Setting) (spelling value : String) (spelling_ok : spelling ∈ s.spellings)
    (valued_ok : s.takesValue = true) (value_ok : startsWithHyphen value = false)

namespace ArgumentGroup

def arguments : ArgumentGroup → List String
  | source path _ => [path]
  | flag _ spelling _ _ => [spelling]
  | valued _ spelling value _ _ _ => [spelling, value]

def setting? : ArgumentGroup → Option Setting
  | source _ _ => none
  | flag s _ _ _ | valued s _ _ _ _ _ => some s

def given : ArgumentGroup → Given
  | source path _ => ⟨[], [path]⟩
  | flag s _ _ _ => ⟨[(s, none)], []⟩
  | valued s _ value _ _ _ => ⟨[(s, some value)], []⟩

end ArgumentGroup

def commandLine (groups : List ArgumentGroup) : List String :=
  groups.flatMap ArgumentGroup.arguments

def givenBy (groups : List ArgumentGroup) : Given :=
  ⟨groups.flatMap fun group => group.given.options,
    groups.flatMap fun group => group.given.arguments⟩

/-- The arguments of a group are read by themselves, whatever follows them. -/
theorem parse_group (group : ArgumentGroup) (rest : List String) :
    Given.parse (group.arguments ++ rest) = (Given.parse rest).map group.given.append := by
  cases group with
  | source path path_ok => exact parse_cons_of_not_option (isOption_of_not_hyphen path_ok) rest
  | flag s spelling spelling_ok flag_ok =>
    obtain ⟨hoption, hdashes⟩ := isOption_of_mem_spellings spelling_ok
    exact parse_cons_of_closed hdashes hoption (optionText_flag spelling_ok flag_ok.1) rfl rest
  | valued s spelling value spelling_ok valued_ok value_ok =>
    obtain ⟨hoption, hdashes⟩ := isOption_of_mem_spellings spelling_ok
    exact parse_cons_of_open hdashes hoption (optionText_valued spelling_ok valued_ok) rfl value
      rest

theorem parse_commandLine (groups : List ArgumentGroup) :
    Given.parse (commandLine groups) = .ok (givenBy groups) := by
  induction groups with
  | nil => rfl
  | cons group groups ih =>
    rw [commandLine, List.flatMap_cons, parse_group, ← commandLine, ih]
    rfl

/-! ### The same options in another order -/

theorem eraseDups_of_nodup {α : Type} [DecidableEq α] {l : List α} (h : l.Nodup) :
    l.eraseDups = l := by
  induction l with
  | nil => rfl
  | cons x rest ih =>
    obtain ⟨hx, hrest⟩ := List.nodup_cons.1 h
    have hfilter : rest.filter (fun y => !y == x) = rest := by
      rw [List.filter_eq_self]
      intro y hy
      have hne : y ≠ x := fun heq => hx (heq ▸ hy)
      simp [hne]
    rw [List.eraseDups_cons, hfilter, ih hrest]

/-- The same arguments and, in any order, the same options, none of them twice. -/
structure Reordered (g g' : Given) : Prop where
  options : g.options.Perm g'.options
  nodup : (g.options.map Prod.fst).Nodup
  arguments : g'.arguments = g.arguments

namespace Reordered

variable {g g' : Given} {s : Setting}

theorem symm (h : Reordered g g') : Reordered g' g :=
  ⟨h.options.symm, ((h.options.map Prod.fst).nodup_iff).1 h.nodup, h.arguments.symm⟩

theorem settings_eq (h : Reordered g g') : g.settings = g.options.map Prod.fst :=
  eraseDups_of_nodup h.nodup

theorem settings_perm (h : Reordered g g') : g.settings.Perm g'.settings := by
  rw [h.settings_eq, h.symm.settings_eq]
  exact h.options.map Prod.fst

theorem has_eq (h : Reordered g g') (s : Setting) : g'.has s = g.has s := by
  rw [Bool.eq_iff_iff, Given.has, Given.has, List.any_eq_true, List.any_eq_true]
  exact exists_congr fun o => by rw [h.options.mem_iff]

theorem value?_eq (h : Reordered g g') (s : Setting) : g'.value? s = g.value? s := by
  have hback : g.options.Perm g.options.reverse := (List.reverse_perm _).symm
  have hback' : g.options.Perm g'.options.reverse := h.options.trans (List.reverse_perm _).symm
  rw [Given.value?, Given.value?, find?_key_perm h.nodup hback', find?_key_perm h.nodup hback]

theorem demand_eq (h : Reordered g g') : g'.demand = g.demand := by
  simp only [Given.demand, h.arguments, h.value?_eq, h.has_eq]

end Reordered

/-! ### Checking values -/

variable {m : Type → Type} [Monad m] [Host m] {g g' : Given}

/-- No value that may not look like an option does. -/
def Hyphenless (g : Given) : Prop :=
  ∀ s, s = .output ∨ s = .name → ∀ value, g.value? s = some value → startsWithHyphen value = false

theorem checkHyphen_of_not_hyphen {s : Setting} {value : String}
    (h : startsWithHyphen value = false) : checkHyphen s value = .ok () := by
  rw [startsWithHyphen] at h
  rw [checkHyphen, h]
  rfl

theorem checkSetting_of_ne_config {s : Setting} (hg : Hyphenless g) (hs : s ≠ .config) :
    (checkSetting g s : Action m _) = pure (.ok ()) := by
  unfold checkSetting
  split
  · next value hvalue => rw [checkHyphen_of_not_hyphen (hg _ (.inl rfl) value hvalue)]
  · next value hvalue => rw [checkHyphen_of_not_hyphen (hg _ (.inr rfl) value hvalue)]
  · exact absurd rfl hs
  · rfl

variable [LawfulMonad m]

/-- Of different options with such values only the configuration file is checked. -/
theorem checkAll_eq (hg : Hyphenless g) {settings : List Setting} (hnodup : settings.Nodup) :
    (checkAll g settings : Action m _) =
      if .config ∈ settings then checkSetting g .config else pure (.ok ()) := by
  induction settings with
  | nil => rfl
  | cons s rest ih =>
    obtain ⟨hs, hrest⟩ := List.nodup_cons.1 hnodup
    rw [checkAll]
    by_cases hconfig : s = .config
    · -- Nothing behind it can fail, and its own result is the result.
      subst hconfig
      rw [ih hrest, if_neg hs, if_pos List.mem_cons_self]
      refine Eq.trans ?_ (bind_pure _)
      congr 1
      funext result
      rcases result with e | ⟨⟩ <;> rfl
    · rw [checkSetting_of_ne_config hg hconfig, pure_bind]
      simp only [ih hrest, List.mem_cons, Ne.symm hconfig, false_or]

/-- The same options in another order are checked alike. -/
theorem Reordered.checkAll_eq (h : Reordered g g') (hg : Hyphenless g) :
    (checkAll g' g'.settings : Action m _) = checkAll g g.settings := by
  have hg' : Hyphenless g' := by
    intro s hs value hvalue
    exact hg s hs value (h.value?_eq s ▸ hvalue)
  have hnodup : g.settings.Nodup := h.settings_eq ▸ h.nodup
  have hnodup' : g'.settings.Nodup := h.settings_perm.nodup_iff.1 hnodup
  have hcheck : (checkSetting g' .config : Action m _) = checkSetting g .config := by
    unfold checkSetting
    rw [h.value?_eq]
  rw [CommandLine.checkAll_eq hg hnodup, CommandLine.checkAll_eq hg' hnodup', hcheck]
  simp only [h.settings_perm.mem_iff]

/-! ### Groups in another order -/

variable {groups groups' : List ArgumentGroup}

theorem ArgumentGroup.of_mem_given {group : ArgumentGroup} {o : Occurrence}
    (h : o ∈ group.given.options) :
    o.1.asksForText = false ∧ ∀ value, o.2 = some value → startsWithHyphen value = false := by
  cases group with
  | source path path_ok => simp [given] at h
  | flag s spelling spelling_ok flag_ok =>
    rw [List.mem_singleton.1 h]
    exact ⟨flag_ok.2, by simp⟩
  | valued s spelling value spelling_ok valued_ok value_ok =>
    rw [List.mem_singleton.1 h]
    refine ⟨?_, ?_⟩
    · cases s <;> first | rfl | simp [Setting.takesValue] at valued_ok
    · rintro _ ⟨⟩
      exact value_ok

theorem of_mem_givenBy {o : Occurrence} (h : o ∈ (givenBy groups).options) :
    o.1.asksForText = false ∧ ∀ value, o.2 = some value → startsWithHyphen value = false := by
  obtain ⟨group, -, ho⟩ := List.mem_flatMap.1 h
  exact ArgumentGroup.of_mem_given ho

theorem hyphenless_givenBy (groups : List ArgumentGroup) : Hyphenless (givenBy groups) := by
  intro s _ value hvalue
  exact (of_mem_givenBy (mem_of_value? hvalue)).2 value rfl

/-- No two groups are about the same option, and no two are sources. -/
def Distinct (groups : List ArgumentGroup) : Prop :=
  (groups.map ArgumentGroup.setting?).Nodup

instance (groups : List ArgumentGroup) : Decidable (Distinct groups) :=
  inferInstanceAs (Decidable (List.Nodup _))

theorem settings_givenBy (groups : List ArgumentGroup) :
    (givenBy groups).options.map Prod.fst = (groups.map ArgumentGroup.setting?).filterMap id := by
  induction groups with
  | nil => rfl
  | cons group rest ih =>
    have hcons : (givenBy (group :: rest)).options.map Prod.fst =
        group.given.options.map Prod.fst ++ (givenBy rest).options.map Prod.fst := by
      simp [givenBy]
    rw [hcons, ih]
    cases group <;> rfl

theorem length_arguments_givenBy (groups : List ArgumentGroup) :
    (givenBy groups).arguments.length = (groups.map ArgumentGroup.setting?).count none := by
  induction groups with
  | nil => rfl
  | cons group rest ih =>
    have hcons : (givenBy (group :: rest)).arguments.length =
        group.given.arguments.length + (givenBy rest).arguments.length := by
      simp [givenBy]
    rw [hcons, ih, List.map_cons, List.count_cons]
    cases group <;> simp [ArgumentGroup.given, ArgumentGroup.setting?, Nat.add_comm]

theorem reordered_givenBy (hdistinct : Distinct groups) (hperm : groups.Perm groups') :
    Reordered (givenBy groups) (givenBy groups') := by
  constructor
  · exact hperm.flatMap_right _
  · rw [settings_givenBy]
    apply List.Nodup.filterMap _ hdistinct
    rintro a b c ha hb
    rw [show a = some c from ha, show b = some c from hb]
  · have hone : (givenBy groups).arguments.length ≤ 1 := by
      rw [length_arguments_givenBy]
      exact List.nodup_iff_count_le_one.1 hdistinct none
    have hsame : (givenBy groups).arguments.Perm (givenBy groups').arguments :=
      hperm.flatMap_right _
    rcases harguments : (givenBy groups).arguments with _ | ⟨path, _ | ⟨other, rest⟩⟩ <;>
      rw [harguments] at hone hsame
    · exact hsame.symm.eq_nil
    · exact hsame.symm.eq_singleton
    · simp at hone

theorem demand_commandLine_perm (hdistinct : Distinct groups) (hperm : groups.Perm groups') :
    (demand (commandLine groups') : Action m _) = demand (commandLine groups) := by
  have hreordered := reordered_givenBy hdistinct hperm
  have hrequest : ∀ groups, (givenBy groups).request? = none :=
    fun groups => request?_eq_none fun o ho => (of_mem_givenBy ho).1
  have hcheck := hreordered.checkAll_eq (m := m) (hyphenless_givenBy groups)
  simp only [demand, parse_commandLine, hrequest, hcheck, hreordered.arguments,
    hreordered.demand_eq]

/-- The order in which a command line gives its source file and its options has no part in what
comes of it: not in the exit status, and in nothing that the machine is left with. -/
theorem run_commandLine_perm [Depths] (hdistinct : Distinct groups) (hperm : groups.Perm groups')
    (env : Environment) (w : Machine) :
    (run (commandLine groups') env : OnMachine (Except Crash Nat)).run w =
      (run (commandLine groups) env : OnMachine (Except Crash Nat)).run w := by
  simp only [run, command, demand_commandLine_perm hdistinct hperm]

/-- Source file, directory and name are written alike. -/
def likeNamedGroups : List ArgumentGroup :=
  [.source "V" (by decide), .valued .output "-o" "V" (by decide) rfl (by decide),
    .flag .json "--json" (by decide) (by decide),
    .valued .name "--name" "V" (by decide) rfl (by decide)]

theorem run_commandLine_perm_likeNamed : ∃ _ : Depths,
    commandLine likeNamedGroups = ["V", "-o", "V", "--json", "--name", "V"] ∧
      commandLine likeNamedGroups.reverse = ["--name", "V", "--json", "-o", "V", "V"] ∧
        (run ["--name", "V", "--json", "-o", "V", "V"] .empty :
            OnMachine (Except Crash Nat)).run (.ofTree .empty []) =
          (run ["V", "-o", "V", "--json", "--name", "V"] .empty :
            OnMachine (Except Crash Nat)).run (.ofTree .empty []) := by
  have hdistinct : Distinct likeNamedGroups := by decide
  have hperm : likeNamedGroups.Perm likeNamedGroups.reverse := (List.reverse_perm _).symm
  let _ : Depths := .ofThousand
  exact ⟨.ofThousand, rfl, rfl, run_commandLine_perm hdistinct hperm .empty (.ofTree .empty [])⟩

end DeployScript.CommandLine
