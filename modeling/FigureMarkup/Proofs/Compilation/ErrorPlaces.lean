import FigureMarkup.Proofs.Compilation.Stages
import FigureMarkup.Proofs.Markup.ErrorPlaces

/-!
# Places of compile errors

Every error of a document that is not about its figure as a whole leads to a place in the document.
Errors of reading are at a bracket or in a unit, one after the other. An error of construction is at
the unit of the first declaration that fails.
-/

namespace FigureMarkup

open Construction Figure Markup Text

variable {σ α : Type} [Scalar α] [Random.Source σ α]

/-- Parse errors stand in the document one after the other. An error of the brackets is at a live
bracket and has its line. Any other one is within a unit and has the line on which the unit opens;
its span runs forward, unless the value of a keyword is missing and separators follow the equals
sign. An error of construction has the span and the line of the unit whose declaration is the first
one that fails. -/
theorem compile_error_places (settings : CompileSettings α) (random : σ) (document : String) :
    (∀ errors, compile settings random document = .error (.parse errors) →
      (∃ error, errors = [.brackets error] ∧ error.AtBracket document.toList) ∨
        ∃ units, Bracketed.find document = .ok units ∧ errors ≠ [] ∧
          (∀ error ∈ errors, ∃ unit ∈ units, unit.StandsIn document.toList ∧
            PlacedInUnit document.toList unit error) ∧
          errors.Pairwise ParseError.Precedes) ∧
    (∀ error, compile settings random document = .error (.construction error) →
      ∃ declarations i declaration units unit,
        Declaration.parse document = .ok declarations ∧ declarations[i]? = some declaration ∧
        (apply (construct settings.palette (declarations.take i) : Registry α) declaration).1 =
          .error error ∧
        (∀ j earlier, j < i → declarations[j]? = some earlier → ∃ outcome,
          (apply (construct settings.palette (declarations.take j) : Registry α) earlier).1 =
            .ok outcome) ∧
        Bracketed.find document = .ok units ∧ unit ∈ units ∧ unit.StandsIn document.toList ∧
        error.span = unit.span ∧ error.line = unit.line) := by
  have stages := Compilation.stages settings random document
  unfold compile
  generalize Compilation.ofDocument settings random document = result at stages
  cases stages with
  | unread parsed =>
      refine ⟨fun errors failed => ?_, nofun⟩
      cases failed
      exact errors_of_parse parsed
  | unconstructed parsed failed =>
      refine ⟨nofun, fun error same => ?_⟩
      cases same
      obtain ⟨i, declaration, stored, fails, succeed⟩ := first_failure failed
      obtain ⟨units, found, unit, among, stands, span, line⟩ :=
        Declaration.unit_of_mem_parse parsed (List.mem_of_getElem? stored)
      obtain ⟨errorSpan, errorLine⟩ := place_of_apply_error fails
      exact ⟨_, i, declaration, units, unit, parsed, stored, fails, succeed, found, among, stands,
        errorSpan.trans span, errorLine.trans line⟩
  | unplaced => exact ⟨nofun, nofun⟩
  | placed =>
      dsimp only
      split
      · exact ⟨nofun, nofun⟩
      · exact ⟨nofun, nofun⟩

end FigureMarkup
