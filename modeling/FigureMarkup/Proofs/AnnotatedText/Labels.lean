import FigureMarkup.Proofs.AnnotatedText.Passages

/-!
# Labels

In annotated text a label takes the place of each unit that declares something visible. Nothing or a
section break takes the place of the others.
-/

namespace FigureMarkup.AnnotatedText

open Construction Markup Text

/-- A declaration gets a label unless it is hidden, places a point, or belongs to the animation or
to the figure as a whole. -/
def Labelled (declaration : Declaration) : Prop :=
  declaration.hasFlag "hidden" = false ∧
    DeclarationKind.ofName? declaration.kind ∉
      [some .loc, some .step, some .clear, some .definitions]

instance (declaration : Declaration) : Decidable (Labelled declaration) :=
  inferInstanceAs (Decidable (_ ∧ _))

/-- The text of a label that refers to an entity. -/
def labelText (target label : String) : String :=
  "<span name='text_" ++ escapeXml target ++ "' class='GeoElement'>" ++ escapeXml label ++
    "</span>"

/-- The end of a section and the start of the next one. -/
def sectionBreak (number : Nat) : String := "</div><div id='step_" ++ toString number ++ "'>"

variable {declaration : Declaration}

theorem replacement_of_labelled (labelled : Labelled declaration) (target : Option String) :
    replacement declaration target = some (reference declaration target) := by
  obtain ⟨visible, other⟩ := labelled
  unfold replacement
  split
  case h_1 kind | h_2 kind | h_3 kind | h_4 kind => simp [kind] at other
  case h_5 => rw [visible, if_neg Bool.false_ne_true]

theorem replacement_of_unlabelled (unlabelled : ¬ Labelled declaration)
    (target : Option String) :
    replacement declaration target = none ∨ replacement declaration target = some .step := by
  unfold replacement
  split
  case h_4 => exact .inr rfl
  case h_5 notLoc notClear notDefinitions notStep =>
    have hidden : declaration.hasFlag "hidden" = true := by
      by_contra visible
      refine unlabelled ⟨Bool.eq_false_iff.2 visible, ?_⟩
      simpa using ⟨notLoc, notStep, notClear, notDefinitions⟩
    rw [if_pos hidden]
    exact .inl rfl
  all_goals exact .inl rfl

/-- A label refers to the entity that a declaration is about. -/
theorem render_labelled (labelled : Labelled declaration) (number : Nat) (target : String) :
    render number (replacement declaration (some target)).toList =
      labelText target ((declaration.argument? "text").getD (standardLabel declaration)) := by
  rw [replacement_of_labelled labelled]
  exact (render_reference number [] _ _).trans (String.append_empty ..)

/-- Nothing or a section break stands for other declarations. -/
theorem render_unlabelled (unlabelled : ¬ Labelled declaration) (number : Nat)
    (target : Option String) :
    render number (replacement declaration target).toList = "" ∨
      render number (replacement declaration target).toList = sectionBreak (number + 1) := by
  rcases replacement_of_unlabelled unlabelled target with kept | step
  · rw [kept]
    exact .inl rfl
  · rw [step]
    exact .inr ((render_step number []).trans (String.append_empty ..))

end FigureMarkup.AnnotatedText
