import FigureMarkup.Proofs.Construction.Declaring
import FigureMarkup.Proofs.Construction.WellFormed
import FigureMarkup.Proofs.Markup.Arguments

/-!
# Declarations that fail

A declaration that fails leaves at most some new points behind, which know nothing yet. The color
is the exception: it is read last, so a declaration with an unreadable color has done all that it
does without one. An interpreter records nothing about a declaration that fails.
-/

namespace FigureMarkup.Construction

open Figure Plane Markup

variable {α : Type} {declaration : Declaration}

/-! ## Declarations without their color -/

/-- A declaration without its color. -/
def colorless (declaration : Declaration) : Declaration := declaration.withoutArgument "color"

@[simp]
theorem kind_colorless (declaration : Declaration) :
    (colorless declaration).kind = declaration.kind :=
  rfl

@[simp]
theorem name_colorless (declaration : Declaration) :
    (colorless declaration).name = declaration.name :=
  rfl

@[simp]
theorem flags_colorless (declaration : Declaration) :
    (colorless declaration).flags = declaration.flags :=
  rfl

@[simp]
theorem hasFlag_colorless (declaration : Declaration) (flag : String) :
    (colorless declaration).hasFlag flag = declaration.hasFlag flag :=
  rfl

@[simp]
theorem argument?_colorless (declaration : Declaration) (key : String) :
    (colorless declaration).argument? key =
      if key = "color" then none else declaration.argument? key :=
  declaration.argument?_withoutArgument "color" key

section Handlers

variable [Scalar α] (registry : Registry α) (declaration : Declaration)

theorem declarePoint_colorless :
    declarePoint registry (colorless declaration) = declarePoint registry declaration := by
  simp [declarePoint, requiredName, keywordPosition, keywordNumber, declaredShape]

omit [Scalar α] in
theorem declareLine_colorless :
    declareLine registry (colorless declaration) = declareLine registry declaration := by
  simp [declareLine, endpointLabels, requiredName, newName]

theorem declareCircle_colorless :
    declareCircle registry (colorless declaration) = declareCircle registry declaration := by
  simp [declareCircle, requiredName, declaredRadius]

omit [Scalar α] in
theorem declarePolygon_colorless (triangle : Bool) :
    declarePolygon registry (colorless declaration) triangle =
      declarePolygon registry declaration triangle := by
  simp [declarePolygon, vertexLabels, requiredName, newName]

omit [Scalar α] in
theorem declareCenter_colorless :
    declareCenter registry (colorless declaration) = declareCenter registry declaration := by
  simp [declareCenter, requiredName]

omit [Scalar α] in
theorem declareAngle_colorless :
    declareAngle registry (colorless declaration) = declareAngle registry declaration := by
  simp [declareAngle, angleLabels, requiredName, newName]

theorem declareLoc_colorless :
    declareLoc registry (colorless declaration) = declareLoc registry declaration := by
  simp [declareLoc, requiredName, coordinate]

end Handlers

/-- Without a color, a declaration does what its handler does. -/
theorem paint_colorless (declaration : Declaration) (effect : Effect α) :
    paint (colorless declaration) effect = effect := by
  obtain ⟨_ | _ | _, _⟩ := effect <;> simp [paint]

theorem Effect.outcome_registry (effect : Effect α) :
    (effect.outcome declaration).2 = effect.2 := by
  rcases effect with ⟨_ | _, _⟩ <;> rfl

theorem paint_registry_of_error {effect : Effect α} {error : Error}
    (failed : ((paint declaration effect).outcome declaration).1 = .error error) :
    (paint declaration effect).2 = effect.2 := by
  obtain ⟨_ | _ | ⟨main, others⟩, later⟩ := effect
  · rfl
  · rfl
  · unfold paint at failed ⊢
    dsimp only at failed ⊢
    split at failed
    · rfl
    · split at failed
      · rfl
      · cases failed

theorem outcome_colorless {effect without : Effect α} {error : Error} (same : without = effect)
    (failed : ((paint declaration effect).outcome declaration).1 = .error error) :
    ((paint (colorless declaration) without).outcome (colorless declaration)).2 =
      ((paint declaration effect).outcome declaration).2 := by
  subst same
  rw [Effect.outcome_registry, Effect.outcome_registry, paint_colorless,
    paint_registry_of_error failed]

variable [Scalar α] {registry : Registry α}

/-- A declaration that fails leaves what it leaves without its color. -/
theorem apply_colorless_of_error {error : Error}
    (failed : (apply registry declaration).1 = .error error) :
    (apply registry (colorless declaration)).2 = (apply registry declaration).2 := by
  unfold apply at failed ⊢
  rw [kind_colorless]
  split at failed
  · rfl
  · exact outcome_colorless (declarePoint_colorless registry declaration) failed
  · exact outcome_colorless (declareLine_colorless registry declaration) failed
  · exact outcome_colorless (declareCircle_colorless registry declaration) failed
  · exact outcome_colorless (declarePolygon_colorless registry declaration false) failed
  · exact outcome_colorless (declarePolygon_colorless registry declaration true) failed
  · exact outcome_colorless (declareCenter_colorless registry declaration) failed
  · exact outcome_colorless (declareAngle_colorless registry declaration) failed
  · exact outcome_colorless (declareLoc_colorless registry declaration) failed
  · cases failed
  · cases failed
  · exact outcome_colorless rfl failed

/-! ## What is left behind -/

/-- Unless its color is at fault, a declaration that fails has at most entered points, and only
lines, polygons and angles do so before they fail. -/
theorem entersPoints_of_error {error : Error}
    (failed : (apply registry declaration).1 = .error error)
    (readable : ∀ value, error.fault ≠ .invalidColor value) :
    EntersPoints registry (apply registry declaration).2 ∧
      ((∀ kind ∈ kindOf? declaration, ¬ EntersFirst kind) →
        (apply registry declaration).2 = registry) := by
  have step := applying registry declaration
  generalize apply registry declaration = applied at failed step ⊢
  cases step with
  | unknown => exact ⟨.refl registry, fun _ => rfl⟩
  | mark => cases failed
  | refused declaring =>
      cases declaring with
      | refused fault entered untouched => exact ⟨entersPoints_enterPoints entered, untouched⟩
  | plain => cases failed
  | unreadable declaring argument =>
      cases failed
      exact absurd rfl (readable _)
  | painted => cases failed

/-- What a failing declaration leaves behind: with an unreadable color, all that it does without
one, and otherwise at most new points, which know nothing. All kinds of declarations but lines,
polygons and angles leave nothing. An interpreter changes in nothing but its registry. -/
theorem apply_contained {error : Error} (failed : (apply registry declaration).1 = .error error) :
    ((∃ value, error.fault = .invalidColor value) →
      (apply registry declaration).2 = (apply registry (colorless declaration)).2) ∧
    ((¬ ∃ value, error.fault = .invalidColor value) →
      EntersPoints registry (apply registry declaration).2 ∧
        (kindOf? declaration ∈ [none, some .point, some .circle, some .center, some .loc] →
          (apply registry declaration).2 = registry)) ∧
    ∀ interpreter : Interpreter α, interpreter.registry = registry →
      interpreter.interpret declaration =
        (.error error, { interpreter with registry := (apply registry declaration).2 }) := by
  refine ⟨fun _ => (apply_colorless_of_error failed).symm, fun readable => ?_, ?_⟩
  · obtain ⟨entered, untouched⟩ :=
      entersPoints_of_error failed fun value same => readable ⟨value, same⟩
    refine ⟨entered, fun ofKind => untouched fun kind same late => ?_⟩
    rw [same] at ofKind
    rcases late with rfl | rfl | rfl | rfl <;> simp at ofKind
  · rintro interpreter rfl
    exact interpret_of_error failed

/-- A line whose name is taken leaves its two points, and nothing else is there that was not there
before. With an unreadable color, a line that is new is there. -/
theorem apply_contained_taken_line :
    let earlier : Declaration := ⟨"line", some "AB", 1, ⟨0, 19⟩, [("p1", "C"), ("p2", "D")], []⟩
    let taken : Declaration := ⟨"line", some "AB", 1, ⟨19, 28⟩, [], []⟩
    let dyed : Declaration := ⟨"line", some "EF", 1, ⟨28, 48⟩, [("color", "reddish")], []⟩
    let registry : Registry Float := construct .standard [earlier]
    (apply registry taken).1 = .error (.inDeclaration (.malformed (.lineTaken "AB")) taken) ∧
      EntersPoints registry (apply registry taken).2 ∧
      (apply registry taken).2.count .point = registry.count .point + 2 ∧
      (apply registry dyed).1 = .error (.inDeclaration (.invalidColor "reddish") dyed) ∧
      (apply registry dyed).2 = (apply registry (colorless dyed)).2 ∧
      (apply registry dyed).2.count .line = registry.count .line + 1 := by
  intro earlier taken dyed registry
  have refused : (apply registry taken).1 =
      .error (.inDeclaration (.malformed (.lineTaken "AB")) taken) := by decide +kernel
  have unreadable : (apply registry dyed).1 =
      .error (.inDeclaration (.invalidColor "reddish") dyed) := by decide +kernel
  have readable : ¬ ∃ value, Error.fault (.inDeclaration (.malformed (.lineTaken "AB")) taken) =
      .invalidColor value := by
    rintro ⟨value, ⟨⟩⟩
  exact ⟨refused, ((apply_contained refused).2.1 readable).1, by decide +kernel, unreadable,
    (apply_contained unreadable).1 ⟨"reddish", rfl⟩, by decide +kernel⟩

end FigureMarkup.Construction
