import FigureMarkup.Proofs.AnnotatedText.Labels
import FigureMarkup.Proofs.Construction.Steps

/-!
# Sections of annotated text

The step markers of a document divide its annotated text into sections, with numbers in order. In
each section stand the prose and the output of the units between two markers.
-/

namespace FigureMarkup.AnnotatedText

open Construction Markup Text

/-! ## Between two markers -/

/-- The prose right before the unit of a declaration, or at the end if there is none. -/
def proseBefore (passages : List Passage) (rest : List Char) (i : Nat) : String :=
  String.ofList (unescapeBrackets ((passages[i]?.map (·.prose)).getD rest))

/-- The passages from one declaration on up to another one, and the prose right before its unit. -/
def stretch (passages : List Passage) (rest : List Char) (start stop : Nat) : String :=
  String.join (((passages.take stop).drop start).map Passage.text) ++
    proseBefore passages rest stop

/-- The starts of sections: that of the text, and right behind each marker. -/
def sectionStarts (declarations : List Declaration) : List Nat :=
  0 :: (stepMarkers declarations).map (· + 1)

/-- What stands in the sections, each of which ends at a marker or with the text. -/
def sections (declarations : List Declaration) (passages : List Passage) (rest : List Char) :
    List String :=
  List.zipWith (stretch passages rest) (sectionStarts declarations) (stepEnds declarations)

def sectionOpening (number : Nat) : String := "<div id='step_" ++ toString number ++ "'>"

def sectionClosing : String := "</div>"

/-- A section with its number. -/
def sectionText (number : Nat) (content : String) : String :=
  sectionOpening number ++ (content ++ sectionClosing)

theorem sectionBreak_eq (number : Nat) :
    sectionBreak number = sectionClosing ++ sectionOpening number := by
  have cut : "</div><div id='step_" = "</div>" ++ "<div id='step_" := by decide +kernel
  calc sectionBreak number
      = ("</div>" ++ "<div id='step_") ++ toString number ++ "'>" :=
        congrArg (· ++ toString number ++ "'>") cut
    _ = "</div>" ++ ("<div id='step_" ++ toString number ++ "'>") := by
        simp only [String.append_assoc]

theorem length_sections (declarations : List Declaration) (passages : List Passage)
    (rest : List Char) :
    (sections declarations passages rest).length = (stepEnds declarations).length := by
  simp [sections, sectionStarts, stepEnds]

section Stretches

variable (passage : Passage) (passages : List Passage) (rest : List Char)

theorem stretch_zero_zero :
    stretch passages rest 0 0 = proseBefore passages rest 0 := by
  simp [stretch]

theorem stretch_zero_succ (stop : Nat) :
    stretch (passage :: passages) rest 0 (stop + 1) =
      passage.text ++ stretch passages rest 0 stop := by
  simp [stretch, proseBefore, String.append_assoc]

theorem stretch_succ_succ (start stop : Nat) :
    stretch (passage :: passages) rest (start + 1) (stop + 1) =
      stretch passages rest start stop := by
  simp [stretch, proseBefore]

theorem zipWith_stretch (starts stops : List Nat) :
    List.zipWith (stretch (passage :: passages) rest) (starts.map (· + 1)) (stops.map (· + 1)) =
      List.zipWith (stretch passages rest) starts stops := by
  simp only [List.zipWith_map, stretch_succ_succ]

end Stretches

/-! ## Along the declarations -/

variable {declaration : Declaration} {declarations : List Declaration}

theorem stepMarkers_cons (declaration : Declaration) (declarations : List Declaration) :
    stepMarkers (declaration :: declarations) =
      if isStep declaration then 0 :: (stepMarkers declarations).map (· + 1)
      else (stepMarkers declarations).map (· + 1) := by
  rw [stepMarkers, List.findIdxs_cons, List.findIdxs_start]
  rfl

/-- A marker ends the first section. -/
theorem sections_of_isStep (step : isStep declaration = true) (passage : Passage)
    (passages : List Passage) (rest : List Char) :
    sections (declaration :: declarations) (passage :: passages) rest =
      String.ofList (unescapeBrackets passage.prose) ::
        sections declarations passages rest := by
  have starts : sectionStarts (declaration :: declarations) =
      0 :: (sectionStarts declarations).map (· + 1) := by
    simp [sectionStarts, stepMarkers_cons, step]
  have stops : stepEnds (declaration :: declarations) =
      0 :: (stepEnds declarations).map (· + 1) := by
    simp [stepEnds, stepMarkers_cons, step]
  rw [sections, starts, stops, List.zipWith_cons_cons, zipWith_stretch, stretch_zero_zero]
  rfl

/-- Any other declaration stands in the first section. -/
theorem sections_of_not_isStep (other : isStep declaration = false) (passage : Passage)
    (passages : List Passage) (rest : List Char) :
    sections (declaration :: declarations) (passage :: passages) rest =
      (sections declarations passages rest).modifyHead (passage.text ++ ·) := by
  obtain ⟨stop, stops, ends⟩ := List.exists_cons_of_ne_nil
    (List.append_ne_nil_of_right_ne_nil (stepMarkers declarations)
      (List.cons_ne_nil declarations.length []))
  have ends : stepEnds declarations = stop :: stops := ends
  have laterEnds : stepEnds (declaration :: declarations) =
      (stepEnds declarations).map (· + 1) := by
    simp [stepEnds, stepMarkers_cons, other]
  rw [sections, sections, laterEnds, ends, List.map_cons]
  simp only [sectionStarts, stepMarkers_cons, other, Bool.false_eq_true, if_false,
    List.zipWith_cons_cons, List.modifyHead_cons, stretch_zero_succ, zipWith_stretch]

theorem replacement_of_isStep (step : isStep declaration = true) (target : Option String) :
    replacement declaration target = some .step := by
  have ofKind : DeclarationKind.ofName? declaration.kind = some .step := by
    simpa [isStep] using step
  simp only [replacement, ofKind]

theorem replacement_of_not_isStep (other : isStep declaration = false)
    (target : Option String) : replacement declaration target ≠ some .step := by
  have ofKind : DeclarationKind.ofName? declaration.kind ≠ some .step := by
    simpa [isStep] using other
  unfold replacement reference
  split
  · simp
  · simp
  · simp
  · exact absurd ‹_› ofKind
  · split <;> simp

theorem render_of_isStep (step : isStep declaration = true) (number : Nat)
    (target : Option String) :
    render number (replacement declaration target).toList = sectionBreak (number + 1) := by
  rw [replacement_of_isStep step]
  exact (render_step number []).trans (String.append_empty ..)

theorem count_replacement (declaration : Declaration) (target : Option String) :
    (replacement declaration target).toList.count .step = if isStep declaration then 1 else 0 := by
  by_cases step : isStep declaration = true
  · rw [if_pos step, replacement_of_isStep step]
    rfl
  · rw [if_neg step, List.count_eq_zero]
    simpa using replacement_of_not_isStep (by simpa using step) target

/-- Passages and the prose behind them are sections, of which the first one has been opened. -/
theorem Passages.text_eq {source remaining rest : List Char} {number offset : Nat}
    {targets : List (Option String)} {passages : List Passage}
    (divided : Passages source number offset remaining declarations targets passages rest) :
    ∃ first others, sections declarations passages rest = first :: others ∧
      String.join (passages.map Passage.text) ++ (String.ofList (unescapeBrackets rest) ++
        sectionClosing) = first ++ (sectionClosing ++
          String.join (others.mapIdx fun i => sectionText (number + 1 + i))) := by
  induction divided with
  | rest number offset text targets =>
      refine ⟨String.ofList (unescapeBrackets text), [], ?_, ?_⟩
      · simp [sections, sectionStarts, stepEnds, stepMarkers, stretch, proseBefore]
      · simp
  | @passage number offset prose vacated later declaration declarations targets passages rest gives
      divided ih =>
      obtain ⟨first, others, parts, text⟩ := ih
      rw [count_replacement] at text
      rw [List.map_cons, String.join_cons, String.append_assoc, text]
      by_cases step : isStep declaration = true
      · refine ⟨_, _, by rw [sections_of_isStep step, parts], ?_⟩
        rw [Passage.text, render_of_isStep step, sectionBreak_eq, List.mapIdx_cons,
          String.join_cons, sectionText, if_pos step]
        simp only [String.append_assoc, Nat.add_assoc, Nat.add_comm 1, Nat.add_zero]
      · have other : isStep declaration = false := by simpa using step
        refine ⟨_, _, by rw [sections_of_not_isStep other, parts, List.modifyHead_cons], ?_⟩
        rw [if_neg step, String.append_assoc]

/-- The annotated text of a document that can be read is made of its sections, with numbers in
order. -/
theorem annotate?_sections {document : String}
    (read : Declaration.parse document = .ok declarations) (targets : List (Option String)) :
    ∃ passages rest,
      Passages document.toList 0 0 document.toList declarations targets passages rest ∧
      annotate? document declarations targets =
        some (String.join ((sections declarations passages rest).mapIdx sectionText)) := by
  obtain ⟨passages, rest, divided, annotation⟩ := annotate?_eq read targets
  obtain ⟨first, others, parts, content⟩ := divided.text_eq
  refine ⟨passages, rest, divided, annotation.trans (congrArg some ?_)⟩
  have opening : "<div id='step_0'>" = sectionOpening 0 := by decide +kernel
  calc "<div id='step_0'>" ++ (String.join (passages.map Passage.text) ++
        String.ofList (unescapeBrackets rest)) ++ sectionClosing
      = sectionOpening 0 ++ (String.join (passages.map Passage.text) ++
          String.ofList (unescapeBrackets rest)) ++ sectionClosing :=
        congrArg (· ++ _ ++ sectionClosing) opening
    _ = sectionOpening 0 ++ (first ++ (sectionClosing ++
          String.join (others.mapIdx fun i => sectionText (0 + 1 + i)))) := by
        rw [← content]
        simp only [String.append_assoc]
    _ = String.join ((sections declarations passages rest).mapIdx sectionText) := by
        rw [parts, List.mapIdx_cons, String.join_cons, sectionText]
        simp only [String.append_assoc, Nat.add_comm]

end FigureMarkup.AnnotatedText
