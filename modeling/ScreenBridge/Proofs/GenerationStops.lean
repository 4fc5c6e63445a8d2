import ScreenBridge.Source.Project

/-!
# What generation can fail with

Generation is a long row of steps that look at the files, write to them and
refuse what they find. A viewer is told of a refusal with the code of its
failure, so it matters that none of the steps can come up with a failure of
another kind: `FailsAsGeneration` says that of a step, it is closed under
putting steps one after the other, and a step is made of few primitives.
-/

namespace ScreenBridge.Source

open Wire (Failure)

namespace Generation

variable {α β : Type}

/-- A step that fails with a generation failure, if it fails. -/
structure FailsAsGeneration (step : Generation α) : Prop where
  code : ∀ {w failure}, (step.run.run w).1 = .error (.failed failure) →
    failure.code = .generation

theorem fails_pure (a : α) : FailsAsGeneration (pure a : Generation α) := by
  refine ⟨fun h => ?_⟩
  cases h

theorem fails_get : FailsAsGeneration (get : Generation Workspace) := by
  refine ⟨fun h => ?_⟩
  cases h

theorem fails_modify (change : Workspace → Workspace) :
    FailsAsGeneration (modify change : Generation Unit) := by
  refine ⟨fun h => ?_⟩
  cases h

theorem fails_crashed (c : Wire.Crash) :
    FailsAsGeneration (throw (.crashed c) : Generation α) := by
  refine ⟨fun h => ?_⟩
  cases h

theorem fails_failed {failure : Failure} (hcode : failure.code = .generation) :
    FailsAsGeneration (throw (.failed failure) : Generation α) := by
  refine ⟨fun h => ?_⟩
  cases h
  exact hcode

theorem fails_bind {step : Generation α} {next : α → Generation β}
    (hstep : FailsAsGeneration step) (hnext : ∀ a, FailsAsGeneration (next a)) :
    FailsAsGeneration (step >>= next) := by
  refine ⟨fun {w failure} h => ?_⟩
  rw [ExceptT.run_bind, StateT.run_bind] at h
  cases hrun : step.run.run w with
  | mk outcome w' =>
      rw [hrun] at h
      cases outcome with
      | error stop =>
          cases h
          exact hstep.code (congrArg Prod.fst hrun)
      | ok a => exact (hnext a).code h

theorem fails_note (n : Log.Notice) : FailsAsGeneration (note n) :=
  fails_modify _

theorem fails_refuse (screenId : String) (e : Files.FileError) :
    FailsAsGeneration (refuse screenId e : Generation α) := by
  cases e with
  | os errno path => exact fails_bind (fails_note _) fun _ => fails_failed rfl
  | nullByte => exact fails_crashed _

theorem fails_inspect (screenId : String)
    (look : Files.Tree → Except Files.FileError α) :
    FailsAsGeneration (inspect screenId look) := by
  refine fails_bind fails_get fun w => ?_
  cases look w.files with
  | ok a => exact fails_pure a
  | error e => exact fails_refuse ..

theorem fails_writeText (screenId : String) (p : Files.Path) (content : String) :
    FailsAsGeneration (writeText screenId p content) :=
  fails_bind (fails_inspect ..) fun _ => fails_modify _

theorem fails_makeDirectories (screenId : String) (p : Files.Path) :
    FailsAsGeneration (makeDirectories screenId p) := by
  refine fails_bind fails_get fun w => ?_
  cases w.files.ensureDirectories p with
  | mk files outcome =>
      refine fails_bind (fails_modify _) fun _ => ?_
      cases outcome with
      | ok => exact fails_pure _
      | error e => exact fails_refuse ..

theorem fails_readText (screenId : String) (p : Files.Path) :
    FailsAsGeneration (readText screenId p) := by
  refine fails_bind (fails_inspect ..) fun bytes => ?_
  cases Text.Utf8.decodeChars bytes with
  | ok cs => exact fails_pure _
  | error fault => exact fails_crashed _

end Generation

namespace Generator

open Generation

theorem fails_target (directory : Files.Path) (name screenId : String) :
    FailsAsGeneration (target directory name screenId) := by
  refine fails_bind fails_get fun w => ?_
  dsimp only
  split
  · exact fails_crashed _
  split
  · exact fails_pure _
  · exact fails_failed rfl

theorem fails_manifest (g : Generator) (screenId : String) :
    FailsAsGeneration (g.manifest screenId) := by
  refine fails_bind (fails_inspect ..) fun found => ?_
  split
  · exact fails_readText ..
  · refine fails_bind (fails_makeDirectories ..) fun _ => ?_
    refine fails_bind (fails_inspect ..) fun styled => ?_
    have hrest : FailsAsGeneration (do
        note (.manifestSeeded g.manifestPath.text)
        pure baseManifest) :=
      fails_bind (fails_note _) fun _ => fails_pure _
    split
    · exact hrest
    · exact fails_bind (fails_writeText ..) fun _ => hrest

theorem fails_updateRouting (g : Generator) (screenId route : String) :
    FailsAsGeneration (g.updateRouting screenId route) :=
  fails_bind (fails_manifest ..) fun _ =>
    fails_bind (fails_writeText ..) fun _ => fails_note _

theorem fails_generate (g : Generator) (d : Ui.Document) :
    FailsAsGeneration (g.generate d) := by
  refine fails_bind (fails_note _) fun _ => ?_
  refine fails_bind (fails_target ..) fun screenPath => ?_
  refine fails_bind (fails_target ..) fun stylePath => ?_
  refine fails_bind (fails_makeDirectories ..) fun _ => ?_
  refine fails_bind (fails_makeDirectories ..) fun _ => ?_
  refine fails_bind (fails_writeText ..) fun _ => ?_
  refine fails_bind (fails_note _) fun _ => ?_
  refine fails_bind (fails_writeText ..) fun _ => ?_
  refine fails_bind (fails_note _) fun _ => ?_
  exact fails_bind (fails_updateRouting ..) fun _ => fails_note _

theorem run_fst (step : Generation Unit) (files : Files.Tree) :
    (run step files).1 = (step.run.run ⟨files, []⟩).1 := rfl

/-- Sources that cannot be written are reported as a generation error. -/
theorem code_of_generate_failed {g : Generator} {d : Ui.Document} {files : Files.Tree}
    {failure : Failure} (h : (run (g.generate d) files).1 = .error (.failed failure)) :
    failure.code = .generation := by
  rw [run_fst] at h
  exact (fails_generate g d).code h

end Generator

end ScreenBridge.Source
