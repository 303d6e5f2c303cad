import FigureMarkup.Proofs.Construction.Interpreting
import Mathlib.Data.List.DropRight
import Mathlib.Data.List.Basic

/-!
# Steps of animations

The steps of an animation can be read off the declarations. Each of them shows what the declarations
before its marker have touched since everything vanished last, in the order in which it was touched
first. The step after the last marker shows what is touched until the end.
-/

namespace FigureMarkup.Construction

open Figure Markup

/-! ## What declarations touch -/

def isStep (declaration : Declaration) : Bool := kindOf? declaration == some .step

def isClear (declaration : Declaration) : Bool := kindOf? declaration == some .clear

/-- The places of step markers among declarations. -/
def stepMarkers (declarations : List Declaration) : List Nat := declarations.findIdxs isStep

/-- The ends of the steps of an animation: its markers, and the end of the declarations. -/
def stepEnds (declarations : List Declaration) : List Nat :=
  stepMarkers declarations ++ [declarations.length]

section Touching

variable {α : Type} [Scalar α]

/-- The identifiers of the entities that a declaration touches in a registry. One that only moves a
point is not counted. -/
def touchedBy (registry : Registry α) (declaration : Declaration) : List String :=
  match apply registry declaration with
  | (.ok (.entities touched), later) =>
      if kindOf? declaration = some .loc then [] else touched.map later.sceneId
  | _ => []

/-- What some declarations have touched, one after the other, since everything vanished last. -/
def touchedSinceClear (α : Type) [Scalar α] (palette : Palette)
    (declarations : List Declaration) : List String :=
  (declarations.zipIdx.rtakeWhile (!isClear ·.1)).flatMap fun numbered =>
    touchedBy (construct palette (declarations.take numbered.2) : Registry α) numbered.1

/-- What is shown after some declarations, in the order in which it was touched first. -/
def shownAfter (α : Type) [Scalar α] (palette : Palette)
    (declarations : List Declaration) : List String :=
  (touchedSinceClear α palette declarations).eraseDups

variable {palette : Palette} {declarations : List Declaration} {last : Declaration}

theorem touchedSinceClear_append_clear (clears : isClear last = true) :
    touchedSinceClear α palette (declarations ++ [last]) = [] := by
  rw [touchedSinceClear, List.zipIdx_append, List.zipIdx_singleton, List.rtakeWhile_concat,
    if_neg (by simp [clears]), List.flatMap_nil]

theorem touchedSinceClear_append (keeps : isClear last = false) :
    touchedSinceClear α palette (declarations ++ [last]) =
      touchedSinceClear α palette declarations ++
        touchedBy (construct palette declarations : Registry α) last := by
  rw [touchedSinceClear, List.zipIdx_append, List.zipIdx_singleton, List.rtakeWhile_concat,
    if_pos (by simp [keeps]), List.flatMap_append, List.flatMap_singleton, Nat.zero_add,
    List.take_left]
  congr 1
  refine List.flatMap_congr fun ⟨declaration, i⟩ member => ?_
  have among := (List.rtakeWhile_suffix (!isClear ·.1) declarations.zipIdx).subset member
  have inside : i < declarations.length := by simpa using (List.mem_zipIdx among).2.1
  rw [List.take_append_of_le_length (Nat.le_of_lt inside)]

end Touching

/-! ## Animations -/

namespace Animation

theorem shown_touchOne {animation : Animation} (agrees : animation.Agrees) {touched : List String}
    (shown : animation.shown = touched.eraseDups) (id : String) :
    (animation.touchOne id).shown = (touched ++ [id]).eraseDups := by
  rw [agrees.shown_touchOne, List.eraseDups_append, ← shown]
  by_cases known : id ∈ touched
  · rw [if_pos (by simpa [shown] using known)]
    simp [List.removeAll, known]
  · rw [if_neg (by simpa [shown] using known)]
    simp [List.removeAll, known, List.eraseDups_cons]

theorem shown_touch {animation : Animation} (agrees : animation.Agrees) {touched : List String}
    (shown : animation.shown = touched.eraseDups) (ids : List String) :
    (animation.touch ids).shown = (touched ++ ids).eraseDups := by
  induction ids generalizing animation touched with
  | nil => rw [List.append_nil]; exact shown
  | cons id ids ih =>
      have more := ih (agrees.touchOne id) (shown_touchOne agrees shown id)
      rwa [List.append_assoc] at more

theorem steps_touch (animation : Animation) (ids : List String) :
    (animation.touch ids).steps = animation.steps := by
  induction ids generalizing animation with
  | nil => rfl
  | cons id ids ih => exact (ih (animation.touchOne id)).trans (steps_touchOne animation id)

end Animation

/-! ## Interpreting -/

variable {α : Type} [Scalar α]

/-- A declaration marks a step or its end exactly if it is of that kind. -/
theorem marks_of_apply {registry : Registry α} {declaration : Declaration} {outcome : Outcome}
    (done : (apply registry declaration).1 = .ok outcome) :
    (isStep declaration = true ↔ outcome = .step) ∧
      (isClear declaration = true ↔ outcome = .clear) := by
  have ofEffect {effect : Effect α}
      (ended : (effect.outcome declaration).1 = .ok outcome) :
      ∃ touched, outcome = .entities touched := by
    obtain ⟨fault | touched, later⟩ := effect
    · cases ended
    · exact ⟨touched, (Except.ok.inj ended).symm⟩
  unfold apply at done
  simp only [isStep, isClear, kindOf?]
  cases ofKind : DeclarationKind.ofName? declaration.kind with
  | none => simp [ofKind] at done
  | some kind =>
    simp only [ofKind] at done
    cases kind
    case step | clear =>
      cases done
      simp
    all_goals
      obtain ⟨touched, rfl⟩ := ofEffect done
      simp

theorem isClear_of_isStep {declaration : Declaration} (step : isStep declaration = true) :
    isClear declaration = false := by
  have ofKind : kindOf? declaration = some .step := by simpa [isStep] using step
  rw [isClear, ofKind]
  rfl

theorem touchedBy_of_isStep (registry : Registry α) {declaration : Declaration}
    (step : isStep declaration = true) : touchedBy registry declaration = [] := by
  have ofKind : kindOf? declaration = some .step := by simpa [isStep] using step
  simp only [touchedBy, apply, ofKind]

/-- An animation after a declaration that has succeeded. -/
theorem animation_interpret {interpreter later : Interpreter α} {declaration : Declaration}
    {outcome : Outcome}
    (interpreted : interpreter.interpret declaration = (.ok outcome, later)) :
    later.animation =
      if isStep declaration then interpreter.animation.step
      else if isClear declaration then interpreter.animation.clear
      else interpreter.animation.touch (touchedBy interpreter.registry declaration) := by
  obtain ⟨here, rfl⟩ := apply_of_interpret_ok interpreted
  obtain ⟨step, clear⟩ := marks_of_apply here
  cases outcome with
  | step => rw [if_pos (step.2 rfl)]; rfl
  | clear => rw [if_neg (by simp [step]), if_pos (clear.2 rfl)]; rfl
  | entities touched =>
      rw [if_neg (by simp [step]), if_neg (by simp [clear]), touchedBy]
      generalize apply interpreter.registry declaration = applied at here ⊢
      obtain ⟨result, registry⟩ := applied
      obtain rfl : result = .ok (.entities touched) := here
      simp only [Interpreter.record]
      split
      · rfl
      · rfl

/-- The animation of an interpreter shows the steps of the declarations that it has applied. -/
structure ShowsSteps (palette : Palette) (interpreter : Interpreter α)
    (declarations : List Declaration) : Prop where
  registry : interpreter.registry = construct palette declarations
  steps : interpreter.animation.steps = (stepMarkers declarations).map fun marker =>
    shownAfter α palette (declarations.take marker)
  shown : interpreter.animation.shown = shownAfter α palette declarations
  agrees : interpreter.animation.Agrees

theorem showsSteps_start (palette : Palette) :
    ShowsSteps palette (Interpreter.start palette : Interpreter α) [] :=
  ⟨rfl, rfl, rfl, Animation.agrees_empty⟩

theorem ShowsSteps.interpret {palette : Palette} {interpreter later : Interpreter α}
    {declarations : List Declaration} (shows : ShowsSteps palette interpreter declarations)
    {declaration : Declaration} {outcome : Outcome}
    (interpreted : interpreter.interpret declaration = (.ok outcome, later)) :
    ShowsSteps palette later (declarations ++ [declaration]) := by
  have registry : later.registry = construct palette (declarations ++ [declaration]) := by
    rw [construct_append, ← shows.registry, ← registry_interpret, interpreted]
  have agrees : later.animation.Agrees := by
    obtain ⟨-, rfl⟩ := apply_of_interpret_ok interpreted
    exact agrees_record shows.agrees
  have animation := animation_interpret interpreted
  have earlier : (stepMarkers declarations).map (fun marker =>
      shownAfter α palette ((declarations ++ [declaration]).take marker)) =
        (stepMarkers declarations).map fun marker =>
          shownAfter α palette (declarations.take marker) := by
    refine List.map_congr_left fun marker member => ?_
    have inside := List.lt_add_of_mem_findIdxs marker member
    rw [List.take_append_of_le_length (Nat.le_of_lt inside)]
  have markers : stepMarkers (declarations ++ [declaration]) =
      stepMarkers declarations ++ if isStep declaration then [declarations.length] else [] := by
    rw [stepMarkers, List.findIdxs_append, List.findIdxs_singleton, Nat.zero_add]
    rfl
  rw [shows.registry] at animation
  by_cases step : isStep declaration = true
  · have shown : shownAfter α palette (declarations ++ [declaration]) =
        shownAfter α palette declarations := by
      rw [shownAfter, touchedSinceClear_append (isClear_of_isStep step),
        touchedBy_of_isStep _ step, List.append_nil, shownAfter]
    rw [if_pos step] at animation markers
    refine ⟨registry, ?_, by rw [animation, shown]; exact shows.shown, agrees⟩
    rw [animation, markers, List.map_append, earlier, ← shows.steps, List.map_singleton,
      List.take_left, ← shows.shown]
    rfl
  · rw [if_neg step] at animation markers
    rw [List.append_nil] at markers
    by_cases clear : isClear declaration = true
    · rw [if_pos clear] at animation
      refine ⟨registry, by rw [animation, markers, earlier]; exact shows.steps, ?_, agrees⟩
      rw [animation, shownAfter, touchedSinceClear_append_clear clear]
      rfl
    · rw [if_neg clear] at animation
      refine ⟨registry, ?_, ?_, agrees⟩
      · rw [animation, Animation.steps_touch, markers, earlier, shows.steps]
      · rw [animation, Animation.shown_touch shows.agrees shows.shown, shownAfter,
          touchedSinceClear_append (by simpa using clear)]

theorem ShowsSteps.interpretAll {palette : Palette} {interpreter : Interpreter α}
    {declarations rest : List Declaration} (shows : ShowsSteps palette interpreter declarations)
    (interprets : (interpreter.interpretAll rest).1 = .ok ()) :
    ShowsSteps palette (interpreter.interpretAll rest).2 (declarations ++ rest) :=
  interpretAll_induction (fun shows interpreted => shows.interpret interpreted) shows interprets

/-- The animation of a document has one group for each end of a step, with what is shown there. -/
theorem ShowsSteps.all {palette : Palette} {interpreter : Interpreter α}
    {declarations : List Declaration} (shows : ShowsSteps palette interpreter declarations) :
    interpreter.animation.all = (stepEnds declarations).map fun stop =>
      shownAfter α palette (declarations.take stop) := by
  rw [Animation.all, shows.steps, shows.shown, stepEnds, List.map_append, List.map_singleton,
    List.take_length]

end FigureMarkup.Construction
