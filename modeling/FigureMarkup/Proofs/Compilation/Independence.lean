import FigureMarkup.Proofs.AnnotatedText.Passages
import FigureMarkup.Proofs.Compilation.Stages
import FigureMarkup.Proofs.Scene.Likeness

/-!
# Independence of random numbers

Neither the source of random numbers nor the settings for placing points have a say in what a
document declares. Two compilations of a document with one palette fail alike before anything is
placed, or both go on to place the figure. If both succeed, their scenes are alike, and have the
same animations and the same text.
-/

namespace FigureMarkup

open Construction Figure Markup Placement

variable {σ τ α : Type}

/-- A document that has been read can be annotated. -/
theorem Compilation.exists_text {compilation : Compilation α} {document : String}
    (read : Declaration.parse document = .ok compilation.declarations) (annotated : Bool) :
    ∃ text, compilation.text? annotated document = some text := by
  cases annotated with
  | false => exact ⟨document, rfl⟩
  | true =>
      obtain ⟨passages, rest, -, written⟩ := AnnotatedText.annotate?_eq read compilation.targets
      exact ⟨_, written⟩

/-! ## Before placing -/

variable [Scalar α] [Random.Source σ α] [Random.Source τ α]

theorem compile_of_unread {document : String} {errors : List ParseError}
    (parsed : Declaration.parse document = .error errors) (settings : CompileSettings α)
    (random : σ) : compile settings random document = .error (.parse errors) := by
  rw [compile, Compilation.ofDocument, parsed]

theorem compile_of_unconstructed {settings : CompileSettings α} {document : String}
    {declarations : List Declaration} {error : Construction.Error} {interpreter : Interpreter α}
    (parsed : Declaration.parse document = .ok declarations)
    (failed : (Interpreter.start settings.palette).interpretAll declarations =
      (.error error, interpreter)) (random : σ) :
    compile settings random document = .error (.construction error) := by
  rw [compile, Compilation.ofDocument, parsed]
  dsimp only
  rw [failed]

/-- A document whose figure is constructed is compiled to a scene, or the figure cannot be
placed. -/
def Constructs (result : Except CompileError (Scene α)) : Prop :=
  (∃ scene, result = .ok scene) ∨ ∃ error, result = .error (.placement error)

theorem constructs_of_interpretAll {settings : CompileSettings α} {document : String}
    {declarations : List Declaration} {interpreter : Interpreter α}
    (parsed : Declaration.parse document = .ok declarations)
    (interpreted : (Interpreter.start settings.palette).interpretAll declarations =
      (.ok (), interpreter)) (random : σ) :
    Constructs (compile settings random document) := by
  have stages := Compilation.stages settings random document
  unfold compile
  cases done : Compilation.ofDocument settings random document with
  | error error =>
      rw [done] at stages
      cases stages with
      | unread unread =>
          rw [parsed] at unread
          cases unread
      | unconstructed again failed =>
          rw [parsed] at again
          cases again
          rw [interpreted] at failed
          cases failed
      | unplaced => exact .inr ⟨_, rfl⟩
  | ok compilation =>
      have read := (Compilation.sound_of_ofDocument done).1
      obtain ⟨text, written⟩ := Compilation.exists_text read settings.annotated
      dsimp only
      rw [written]
      exact .inl ⟨_, rfl⟩

/-! ## Two compilations -/

/-- The figures of two compilations of a document are placed from the same figure, and everything
else that is recorded is the same. -/
theorem ofDocument_frames {palette : Palette} {annotated : Bool} {document : String}
    {first second : Placement.Settings α} {random : σ} {other : τ} {one two : Compilation α}
    (firstDone : Compilation.ofDocument ⟨first, palette, annotated⟩ random document = .ok one)
    (secondDone : Compilation.ofDocument ⟨second, palette, annotated⟩ other document = .ok two) :
    (∃ start, Frame start one.registry ∧ Frame start two.registry) ∧
      one.declarations = two.declarations ∧ one.animations = two.animations ∧
      one.targets = two.targets := by
  obtain ⟨-, sound⟩ := Compilation.sound_of_ofDocument firstDone
  obtain ⟨-, alsoSound⟩ := Compilation.sound_of_ofDocument secondDone
  have stages := Compilation.stages ⟨first, palette, annotated⟩ random document
  have alsoStages := Compilation.stages ⟨second, palette, annotated⟩ other document
  rw [firstDone] at stages
  rw [secondDone] at alsoStages
  cases stages with
  | placed parsed interpreted _ =>
      cases alsoStages with
      | placed again alsoInterpreted _ =>
          rw [parsed] at again
          cases again
          rw [interpreted] at alsoInterpreted
          cases alsoInterpreted
          exact ⟨⟨_, sound.resolved.frame, alsoSound.resolved.frame⟩, rfl, rfl, rfl⟩

/-- Compilations of a document with the same palette fail alike before placing, or both construct
the figure. Scenes that they give are alike, whatever the settings of placement are and wherever
random numbers come from. -/
theorem compile_alike (palette : Palette) (annotated : Bool) (document : String)
    (first second : Placement.Settings α) (random : σ) (other : τ) :
    let one := compile ⟨first, palette, annotated⟩ random document
    let two := compile ⟨second, palette, annotated⟩ other document
    ((∃ errors, one = .error (.parse errors) ∧ two = .error (.parse errors)) ∨
      (∃ error, one = .error (.construction error) ∧ two = .error (.construction error)) ∨
      (Constructs one ∧ Constructs two)) ∧
    ∀ scene another, one = .ok scene → two = .ok another → scene.Alike another := by
  intro one two
  refine ⟨?_, fun scene another compiled alsoCompiled => ?_⟩
  · cases parsed : Declaration.parse document with
    | error errors =>
        exact .inl ⟨errors, compile_of_unread parsed _ random, compile_of_unread parsed _ other⟩
    | ok declarations =>
        rcases interpreted : (Interpreter.start palette : Interpreter α).interpretAll declarations
          with ⟨error | done, interpreter⟩
        · exact .inr (.inl ⟨error, compile_of_unconstructed parsed interpreted random,
            compile_of_unconstructed parsed interpreted other⟩)
        · exact .inr (.inr ⟨constructs_of_interpretAll parsed interpreted random,
            constructs_of_interpretAll parsed interpreted other⟩)
  · obtain ⟨compilation, text, done, written, rfl⟩ := compile_eq_ok compiled
    obtain ⟨otherCompilation, otherText, alsoDone, alsoWritten, rfl⟩ := compile_eq_ok alsoCompiled
    obtain ⟨⟨start, frame, otherFrame⟩, declarations, animations, targets⟩ :=
      ofDocument_frames done alsoDone
    have same : text = otherText := by
      rw [Compilation.text?, declarations, targets] at written
      exact Option.some.inj (written.symm.trans alsoWritten)
    rw [same, animations]
    exact Scene.alike_assemble frame otherFrame _ _

/-- Another seed and another bound put the points of a line elsewhere. -/
theorem compile_alike_line :
    let document := "[line AB]"
    let settings : Placement.Settings Float := ⟨2.0, Plane.defaultTolerance, 0.1⟩
    ∃ scene another,
      compile .standard (Random.Keystream.ofSeed 1) document = .ok scene ∧
        compile ⟨settings, .standard, true⟩ (Random.Keystream.ofSeed 2) document = .ok another ∧
        (scene.position? "point_A" == another.position? "point_A") = false ∧
        scene.Alike another := by
  intro document settings
  let compiled := compile .standard (Random.Keystream.ofSeed 1) document
  let alsoCompiled := compile ⟨settings, .standard, true⟩ (Random.Keystream.ofSeed 2) document
  have succeeds : compiled.isOk = true ∧ alsoCompiled.isOk = true := by decide +kernel
  have apart : (compiled.toOption.bind (·.position? "point_A") ==
      alsoCompiled.toOption.bind (·.position? "point_A")) = false := by
    decide +kernel
  cases done : compiled with
  | error error =>
      rw [done] at succeeds
      cases succeeds.1
  | ok scene =>
      cases alsoDone : alsoCompiled with
      | error error =>
          rw [alsoDone] at succeeds
          cases succeeds.2
      | ok another =>
          rw [done, alsoDone] at apart
          have alike := (compile_alike .standard true document .standard settings
            (Random.Keystream.ofSeed 1) (Random.Keystream.ofSeed 2)).2
          exact ⟨scene, another, done, alsoDone, apart, alike scene another done alsoDone⟩

end FigureMarkup
