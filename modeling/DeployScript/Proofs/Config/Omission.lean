import DeployScript.Config.Basic
import DeployScript.Proofs.Validation.Checked
import Mathlib.Data.List.Induction

/-!
# Settings left out

A setting that is left out of a configuration has its default, and those that stay keep their
values: whichever settings are left out, also those of the commands. There is one exception. A
command that is there has to say what it runs, so that its list cannot be left out alone.

The main statement gives what a configuration becomes by leaving settings out: the settings with
the defaults put in, or what is missing.
-/

namespace DeployScript

variable {entries entries' : List (Document × Document)}

namespace Document

variable {name : Text}

theorem isText_iff {d : Document} : d.isText name = true ↔ d = .text name := by
  cases d <;> simp [isText]

theorem lookup?_concat (entries : List (Document × Document)) (entry : Document × Document) :
    lookup? name (entries ++ [entry]) =
      if entry.1.isText name then some entry.2 else lookup? name entries := by
  rw [lookup?, List.reverse_append, List.reverse_singleton, List.singleton_append,
    List.find?_cons]
  cases entry.1.isText name with
  | true => rfl
  | false => rfl

def keepKeys (keep : Document → Bool) (entries : List (Document × Document)) :
    List (Document × Document) :=
  entries.filter fun entry => keep entry.1

/-- A mapping with the entries whose keys stay. -/
def keepInside (keep : Document → Bool) : Document → Document
  | .mapping entries => .mapping (keepKeys keep entries)
  | d => d

theorem lookup?_keepKeys (keep : Document → Bool) (entries : List (Document × Document)) :
    lookup? name (keepKeys keep entries) =
      if keep (.text name) then lookup? name entries else none := by
  induction entries using List.reverseRecOn with
  | nil => rw [keepKeys, List.filter_nil]; exact (ite_self _).symm
  | append_singleton front entry ih =>
    rw [keepKeys, List.filter_append, List.filter_singleton, lookup?_concat]
    by_cases hname : entry.1.isText name = true
    · rw [if_pos hname, isText_iff.1 hname]
      cases hkeep : keep (.text name) with
      | true => rw [cond_true, lookup?_concat, if_pos hname, if_pos rfl]
      | false =>
        rw [cond_false, List.append_nil]
        exact ih.trans (by rw [hkeep]; rfl)
    · rw [if_neg hname, ← ih]
      cases keep entry.1 with
      | true => rw [cond_true, lookup?_concat, if_neg hname]; rfl
      | false => rw [cond_false, List.append_nil]; rfl

/-- A value is found under a key as it was made from the one that is under the key. -/
theorem lookup?_map (change : Document → Document → Document)
    (entries : List (Document × Document)) :
    lookup? name (entries.map fun entry => (entry.1, change entry.1 entry.2)) =
      (lookup? name entries).map (change (.text name)) := by
  induction entries using List.reverseRecOn with
  | nil => rfl
  | append_singleton front entry ih =>
    rw [List.map_append, List.map_singleton, lookup?_concat, lookup?_concat, ih]
    split
    · next hname => rw [isText_iff.1 hname, Option.map_some]
    · rfl

end Document

open Document (keepKeys keepInside lookup? lookup?_keepKeys lookup?_map)
open Validation (Checked Issue)

/-! ### Fields -/

namespace Validation

variable {α : Type} {check : Document → Checked α} {name : String} {stays : Bool} {x : α}

theorem optional_of_kept {fallback : α}
    (hlookup : lookup? name entries' = if stays then lookup? name entries else none)
    (h : optional entries name fallback check = .ok x) :
    optional entries' name fallback check = .ok (if stays then x else fallback) := by
  cases stays with
  | true =>
    rw [optional] at h ⊢
    rw [hlookup]
    exact h
  | false =>
    rw [optional, hlookup]
    rfl

theorem required_of_kept
    (hlookup : lookup? name entries' = if stays then lookup? name entries else none)
    (h : required entries name check = .ok x) :
    required entries' name check = if stays then .ok x else .error [⟨[.field name], .missing⟩] := by
  cases stays with
  | true =>
    rw [required] at h ⊢
    rw [hlookup]
    exact h
  | false =>
    rw [required, hlookup]
    rfl

end Validation

/-! ### Commands -/

namespace CommandConfig

variable {c fallback : CommandConfig}

theorem ofDocument_mapping (entries : List (Document × Document)) :
    ofDocument (.mapping entries) =
      (Checked.both (Validation.optional entries "enabled" true Validation.flag)
        (Checked.both
          (Validation.required entries "command" (Validation.list .notList Validation.text))
          (Validation.optional entries "timeout" none
            (Validation.nullable Validation.number)))).map
        fun (enabled, command, timeout) => ⟨enabled, command, timeout⟩ := rfl

theorem ofDocument_mapping_eq_ok_iff :
    ofDocument (.mapping entries) = .ok c ↔
      Validation.optional entries "enabled" true Validation.flag = .ok c.enabled ∧
        Validation.required entries "command" (Validation.list .notList Validation.text) =
          .ok c.command ∧
        Validation.optional entries "timeout" none (Validation.nullable Validation.number) =
          .ok c.timeout := by
  obtain ⟨enabled, command, timeout⟩ := c
  simp [ofDocument_mapping, Validation.Checked.map_eq_ok_iff, Validation.Checked.both_eq_ok_iff]

theorem exists_mapping_of_ofDocument {d : Document} (h : ofDocument d = .ok c) :
    ∃ entries, d = .mapping entries := by
  obtain ⟨entries, hrecord, -⟩ := Validation.Checked.bind_eq_ok_iff.1 h
  exact ⟨entries, Validation.record_eq_ok_iff.1 hrecord⟩

/-- The settings whose keys stay, and those of `fallback` for the others. -/
def withDefaults (c fallback : CommandConfig) (stays : Document → Bool) : CommandConfig where
  enabled := if stays (.text "enabled") then c.enabled else fallback.enabled
  command := if stays (.text "command") then c.command else fallback.command
  timeout := if stays (.text "timeout") then c.timeout else fallback.timeout

theorem withDefaults_self (c : CommandConfig) (stays : Document → Bool) :
    c.withDefaults c stays = c := by
  simp [withDefaults]

/-- What a command that sets its list alone has besides. -/
def IsPlain (fallback : CommandConfig) : Prop := fallback.enabled = true ∧ fallback.timeout = none

theorem ofDocument_keepKeys (hplain : fallback.IsPlain) (stays : Document → Bool)
    (h : ofDocument (.mapping entries) = .ok c) :
    ofDocument (.mapping (keepKeys stays entries)) =
      if stays (.text "command") then .ok (c.withDefaults fallback stays)
      else .error [⟨[.field "command"], .missing⟩] := by
  obtain ⟨henabled, hcommand, htimeout⟩ := ofDocument_mapping_eq_ok_iff.1 h
  have henabled' := Validation.optional_of_kept (lookup?_keepKeys stays entries) henabled
  have hcommand' := Validation.required_of_kept (lookup?_keepKeys stays entries) hcommand
  have htimeout' := Validation.optional_of_kept (lookup?_keepKeys stays entries) htimeout
  rw [ofDocument_mapping, henabled', hcommand', htimeout', withDefaults, hplain.1, hplain.2]
  cases stays (.text "command") with
  | true => rfl
  | false => rfl

end CommandConfig

/-! ### Configurations -/

namespace Config

variable {c : Config}

/-- Which keys of a configuration stay, and which of the mappings of its commands. -/
structure Selection where
  settings : Document → Bool
  build : Document → Bool
  format : Document → Bool

namespace Selection

/-- What stays of the value under a key. -/
def inside (s : Selection) (key value : Document) : Document :=
  if key.isText "build" then keepInside s.build value
  else if key.isText "format" then keepInside s.format value
  else value

/-- What stays of a configuration's entries. -/
def prune (s : Selection) (entries : List (Document × Document)) : List (Document × Document) :=
  (keepKeys s.settings entries).map fun entry => (entry.1, s.inside entry.1 entry.2)

/-- The command `name` stays in the configuration, and its list does not. -/
def lacksList (s : Selection) (entries : List (Document × Document)) (name : String)
    (stays : Document → Bool) : Bool :=
  s.settings (.text name) && (lookup? name entries).isSome && !stays (.text "command")

/-- What is missing in the entries that stay. -/
def missing (s : Selection) (entries : List (Document × Document)) : List Issue :=
  ([("build", s.build), ("format", s.format)].filter fun (name, stays) =>
    s.lacksList entries name stays).map fun (name, _) =>
      ⟨[.field name, .field "command"], .missing⟩

theorem lookup?_prune (s : Selection) (name : Text) :
    lookup? name (s.prune entries) =
      if s.settings (.text name) then (lookup? name entries).map (s.inside (.text name))
      else none := by
  rw [prune, lookup?_map, lookup?_keepKeys]
  split
  · rfl
  · rfl

/-- The settings that are no commands stay as they are or not at all. -/
theorem lookup?_prune_of_plain (s : Selection) {name : Text} (hbuild : name ≠ "build")
    (hformat : name ≠ "format") :
    lookup? name (s.prune entries) =
      if s.settings (.text name) then lookup? name entries else none := by
  have hinside : s.inside (.text name) = id := by
    funext value
    simp [inside, Document.isText, hbuild, hformat]
  rw [lookup?_prune, hinside, Option.map_id, id]

theorem optional_prune_command (s : Selection) {name : String} (stays : Document → Bool)
    {command fallback : CommandConfig} (hplain : fallback.IsPlain)
    (hinside : s.inside (.text name) = keepInside stays)
    (h : Validation.optional entries name fallback CommandConfig.ofDocument = .ok command) :
    Validation.optional (s.prune entries) name fallback CommandConfig.ofDocument =
      if s.lacksList entries name stays then .error [⟨[.field name, .field "command"], .missing⟩]
      else .ok (if s.settings (.text name) then command.withDefaults fallback stays
        else fallback) := by
  rw [Validation.optional, lookup?_prune, hinside, lacksList]
  cases s.settings (.text name) with
  | false => rfl
  | true =>
    rw [Validation.optional] at h
    cases hlookup : lookup? name entries with
    | none =>
      rw [hlookup, Except.ok.injEq] at h
      subst h
      rw [CommandConfig.withDefaults_self]
      rfl
    | some d =>
      rw [hlookup] at h
      have hread := Validation.Checked.under_eq_ok_iff.1 h
      obtain ⟨inner, rfl⟩ := CommandConfig.exists_mapping_of_ofDocument hread
      have hkept := CommandConfig.ofDocument_keepKeys hplain stays hread
      simp only [if_true, Option.map_some, keepInside, hkept]
      cases stays (.text "command") with
      | true => rfl
      | false => rfl

end Selection

theorem ofDocument_mapping (entries : List (Document × Document)) :
    ofDocument (.mapping entries) =
      (Checked.both
        (Validation.optional entries "output_dir" Config.default.outputDir Validation.text)
        (Checked.both
          (Validation.optional entries "artifacts_dir" Config.default.artifactsDir
            Validation.text)
          (Checked.both
            (Validation.optional entries "template" none (Validation.nullable Validation.text))
            (Checked.both
              (Validation.optional entries "build" Config.default.build CommandConfig.ofDocument)
              (Validation.optional entries "format" Config.default.format
                CommandConfig.ofDocument))))).map
        fun (outputDir, artifactsDir, template, build, format) =>
          ⟨outputDir, artifactsDir, template, build, format⟩ := rfl

theorem ofDocument_mapping_eq_ok_iff :
    ofDocument (.mapping entries) = .ok c ↔
      Validation.optional entries "output_dir" Config.default.outputDir Validation.text =
          .ok c.outputDir ∧
        Validation.optional entries "artifacts_dir" Config.default.artifactsDir Validation.text =
          .ok c.artifactsDir ∧
        Validation.optional entries "template" none (Validation.nullable Validation.text) =
          .ok c.template ∧
        Validation.optional entries "build" Config.default.build CommandConfig.ofDocument =
          .ok c.build ∧
        Validation.optional entries "format" Config.default.format CommandConfig.ofDocument =
          .ok c.format := by
  obtain ⟨outputDir, artifactsDir, template, build, format⟩ := c
  simp [ofDocument_mapping, Validation.Checked.map_eq_ok_iff, Validation.Checked.both_eq_ok_iff]

def withDefaults (c : Config) (s : Selection) : Config where
  outputDir := if s.settings (.text "output_dir") then c.outputDir else Config.default.outputDir
  artifactsDir :=
    if s.settings (.text "artifacts_dir") then c.artifactsDir else Config.default.artifactsDir
  template := if s.settings (.text "template") then c.template else Config.default.template
  build :=
    if s.settings (.text "build") then c.build.withDefaults Config.default.build s.build
    else Config.default.build
  format :=
    if s.settings (.text "format") then c.format.withDefaults Config.default.format s.format
    else Config.default.format

/-- Whichever settings are left out of a valid configuration, the others keep their values and
those that are left out have their defaults; unless a command stays without its list, which is all
that can be missing. -/
theorem ofDocument_prune (h : ofDocument (.mapping entries) = .ok c) (s : Selection) :
    ofDocument (.mapping (s.prune entries)) =
      if s.missing entries = [] then .ok (c.withDefaults s) else .error (s.missing entries) := by
  obtain ⟨houtput, hartifacts, htemplate, hbuild, hformat⟩ := ofDocument_mapping_eq_ok_iff.1 h
  have houtput' := Validation.optional_of_kept
    (s.lookup?_prune_of_plain (by decide) (by decide)) houtput
  have hartifacts' := Validation.optional_of_kept
    (s.lookup?_prune_of_plain (by decide) (by decide)) hartifacts
  have htemplate' := Validation.optional_of_kept
    (s.lookup?_prune_of_plain (by decide) (by decide)) htemplate
  have hbuild' := s.optional_prune_command s.build ⟨rfl, rfl⟩ rfl hbuild
  have hformat' := s.optional_prune_command s.format ⟨rfl, rfl⟩ rfl hformat
  rw [ofDocument_mapping, houtput', hartifacts', htemplate', hbuild', hformat', Selection.missing]
  cases hlacks : s.lacksList entries "build" s.build <;>
    cases hlacks' : s.lacksList entries "format" s.format <;>
    (simp [hlacks, hlacks']; rfl)

/-- The selection that leaves out these keys. -/
def Selection.without (settings build format : List String) : Selection :=
  let stays (names : List String) (key : Document) : Bool := !names.any fun name => key.isText name
  ⟨stays settings, stays build, stays format⟩

/-- The entries of a configuration that sets its build command and where scripts go. -/
def builtEntries : List (Document × Document) :=
  [(.text "output_dir", .text "gen"),
    (.text "build", .mapping
      [(.text "enabled", .bool false), (.text "command", .list [.text "make", .text "all"]),
        (.text "timeout", .text "60")])]

def builtConfig : Config :=
  { Config.default with
    outputDir := "gen"
    build := ⟨false, ["make", "all"], Numeric.Binary64.ofInt? 60⟩ }

theorem ofDocument_prune_builtEntries :
    ofDocument (.mapping builtEntries) = .ok builtConfig ∧
      ofDocument (.mapping ((Selection.without ["output_dir", "format"] ["enabled"]
          ["command"]).prune builtEntries)) =
        .ok { Config.default with
          build := ⟨true, ["make", "all"], Numeric.Binary64.ofInt? 60⟩ } ∧
      ofDocument (.mapping ((Selection.without [] ["command"] []).prune builtEntries)) =
        .error [⟨[.field "build", .field "command"], .missing⟩] := by
  have hread : ofDocument (.mapping builtEntries) = .ok builtConfig := by decide +kernel
  refine ⟨hread, ?_, ?_⟩
  · exact (ofDocument_prune hread _).trans (by decide +kernel)
  · exact (ofDocument_prune hread _).trans (by decide +kernel)

/-- The list of a command cannot be left out, though all else can and there is a default for it. -/
theorem not_forall_ofDocument_prune :
    ¬ ∀ (entries : List (Document × Document)) (c : Config) (s : Selection),
      ofDocument (.mapping entries) = .ok c →
        ofDocument (.mapping (s.prune entries)) = .ok (c.withDefaults s) := by
  intro h
  have hread : ofDocument (.mapping builtEntries) = .ok builtConfig := by decide +kernel
  have hkept := h builtEntries builtConfig (Selection.without [] ["command"] []) hread
  have hmissing : ofDocument (.mapping ((Selection.without [] ["command"] []).prune
      builtEntries)) ≠ .ok (builtConfig.withDefaults (Selection.without [] ["command"] [])) := by
    decide +kernel
  exact hmissing hkept

end Config

end DeployScript
