import DeployScript.Proofs.Config.Loading
import DeployScript.Proofs.Generate.Independence
import DeployScript.Proofs.Host.Abreast

/-!
# Runs that go abreast

What a run does to the files and which programs it starts does not depend on how the log is set up:
on machines that are abreast, loading a configuration and generating a script come to the same and
leave the machines abreast. This holds of each part, and of the whole as it is put together.
-/

namespace DeployScript

open Machine (Abreast SameProgress lasting_sameProgress sameProgress_of_tree)

namespace Command

theorem uniform_run (s : Start) : Uniform (run s) := by
  rw [run]
  split
  · exact .pure _
  · apply (Uniform.record _).bind
    intro _
    apply (Uniform.start s).bind
    intro outcome
    exact .pure _

theorem uniform_runConfigured (c : CommandConfig) (added : List Text) (directory : Option Path)
    (verb reason : String) : Uniform (runConfigured c added directory verb reason) := by
  rw [runConfigured]
  split
  · apply (Uniform.record _).bind
    intro _
    exact uniform_run _
  · exact .pure _

end Command

namespace Config

theorem uniform_load [Depths] (path : Option Path) (search : Bool) :
    Uniform (load path search).run :=
  .of_oblivious
    (closed_load Action.closedForSearching_oblivious (fun _ => trivial) path search)
    (keeps_load lasting_sameProgress path search)

end Config

namespace Generate

variable {α β : Type} (r : Request) (c : Config)

/-! ### Stages -/

theorem uniform_buildStage (wanted : Bool) : Uniform (buildStage c wanted).run := by
  rw [buildStage]
  split
  · apply (Uniform.lift (Command.uniform_runConfigured ..)).action_bind
    rintro (crash | receipt)
    · exact .pure _
    · dsimp only
      split
      · exact .pure _
      · exact .pure _
  · exact .pure _

theorem uniform_loadArtifact [Depths] (p : Path) : Uniform (Artifact.load p).run :=
  .of_oblivious
    (Artifact.closed_load Action.closedForWriting_oblivious.toClosedForReading
      (fun _ => trivial) p)
    (Artifact.keeps_load lasting_sameProgress p)

theorem uniform_resolve (abi : List Abi.Entry) :
    Uniform (liftM (resolve abi : OnMachine Abi.Arguments) : Action OnMachine _).run :=
  .of_oblivious (oblivious_resolve abi) (lasting_resolve lasting_sameProgress abi)

theorem uniform_templateStage : Uniform (templateStage c).run :=
  .of_oblivious
    (closed_templateStage Action.closedForWriting_oblivious.toClosedForReading
      (fun _ => trivial) c)
    (keeps_templateStage lasting_sameProgress c)

theorem uniform_write [Depths] (s : Deployer.Script) : Uniform (write s).run :=
  .of_oblivious
    (closed_write Action.closedForWriting_oblivious (fun _ _ => trivial) s)
    (closed_write (Action.closedForWriting_keeps lasting_sameProgress sameProgress_of_tree)
      (fun _ _ => trivial) s)

theorem uniform_tellFormatted (report : Report) (output : Path) (receipt : Receipt) :
    Uniform (tellFormatted report output receipt) := by
  rw [tellFormatted]
  split
  · apply (Uniform.record _).bind
    intro _
    exact .pure _
  · exact .pure _

theorem uniform_formatStage (wanted : Bool) (report : Report) :
    Uniform (formatStage c wanted report) := by
  rw [formatStage]
  split
  · split
    · apply (Command.uniform_runConfigured ..).bind
      rintro (crash | receipt)
      · exact .pure _
      · apply (uniform_tellFormatted ..).bind
        intro told
        exact .pure _
    · exact .pure _
  · exact .pure _

/-! ### Stages with a report beside -/

namespace Staged

def Uniform (x : Staged OnMachine α) : Prop := ∀ report, DeployScript.Uniform (x.run.run report)

theorem uniform_stage {a : Action OnMachine α} (ha : DeployScript.Uniform a.run) :
    Uniform (stage a) := by
  intro report
  rw [stage, ExceptT.run_mk, StateT.run_lift]
  apply ha.bind
  intro result
  exact .pure _

theorem uniform_modify (change : Report → Report) :
    Uniform (modify change : Staged OnMachine PUnit) := fun _ => ⟨fun _ => rfl, fun h => h⟩

theorem uniform_bind {x : Staged OnMachine α} {f : α → Staged OnMachine β} (hx : Uniform x)
    (hf : ∀ y, Uniform (f y)) : Uniform (x >>= f) := by
  intro report
  rw [ExceptT.run_bind, StateT.run_bind]
  apply (hx report).bind
  rintro ⟨e | y, report'⟩
  · exact .pure _
  · exact hf y report'

end Staged

theorem uniform_upToWriting [Depths] (build : Bool) : Staged.Uniform (upToWriting r c build) := by
  rw [upToWriting]
  apply Staged.uniform_bind (Staged.uniform_stage (uniform_buildStage c build))
  intro built
  apply Staged.uniform_bind (Staged.uniform_modify _)
  intro _
  apply Staged.uniform_bind (Staged.uniform_modify _)
  intro _
  apply Staged.uniform_bind (Staged.uniform_stage (uniform_loadArtifact _))
  intro abi
  apply Staged.uniform_bind (Staged.uniform_stage (uniform_resolve abi))
  intro arguments
  apply Staged.uniform_bind (Staged.uniform_modify _)
  intro _
  apply Staged.uniform_bind (Staged.uniform_stage (uniform_templateStage c))
  intro template
  split
  · exact Staged.uniform_stage (.pure _)
  · apply Staged.uniform_bind (Staged.uniform_stage (uniform_write _))
    intro output
    exact Staged.uniform_modify _

/-! ### The whole run -/

theorem uniform_run [Depths] (steps : Steps) : Uniform (run r c steps) := by
  rw [run]
  apply (uniform_upToWriting r c steps.build (.start r.contractName)).bind
  rintro ⟨(f | crash) | ⟨⟩, report⟩
  · apply (Uniform.record _).bind
    intro _
    exact .pure _
  · exact .pure _
  · exact uniform_formatStage c steps.format _

end Generate

end DeployScript
