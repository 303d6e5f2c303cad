import FigureMarkup.Text.Blank
import FigureMarkup.Text.LowerCase
import Mathlib.Logic.Basic

/-!
# Words of text

A word is text without blanks that is not empty. Text is split into its words at every blank, so a
blank parts the words before it from those after it. Lower-casing keeps blanks blank and everything
else not blank, so texts that are equal in lower case are words together.
-/

namespace FigureMarkup.Text

/-! ## Splitting -/

/-- Some text is a single word: it is not empty, and no character of it is blank. -/
def IsWord (text : String) : Prop := text.toList ≠ [] ∧ ∀ c ∈ text.toList, isBlank c = false

instance (text : String) : Decidable (IsWord text) :=
  @instDecidableAnd _ _ inferInstance (List.decidableBAll _ text.toList)

theorem wordsFrom_of_no_blank {text : List Char} (noBlank : ∀ c ∈ text, isBlank c = false)
    (word : List Char) :
    wordsFrom word text = if word = [] ∧ text = [] then [] else [word.reverse ++ text] := by
  induction text generalizing word with
  | nil => cases word <;> simp [wordsFrom]
  | cons c rest ih =>
      obtain ⟨first, others⟩ := List.forall_mem_cons.1 noBlank
      rw [wordsFrom, if_neg (by simp [first]), ih others]
      simp

/-- Text without blanks is a single word, unless it is empty. -/
theorem words_of_isWord {text : String} (word : IsWord text) :
    words text.toList = [text.toList] := by
  rw [words, wordsFrom_of_no_blank word.2, if_neg fun empty => word.1 empty.2]
  rfl

theorem wordsFrom_append_blank (word first : List Char) {c : Char} (blank : isBlank c = true)
    (rest : List Char) :
    wordsFrom word (first ++ c :: rest) = wordsFrom word first ++ words rest := by
  induction first generalizing word with
  | nil =>
      rw [List.nil_append, wordsFrom.eq_2, if_pos blank, wordsFrom.eq_1]
      split <;> rfl
  | cons d first ih =>
      rw [List.cons_append, wordsFrom, wordsFrom]
      split
      · split
        · exact ih []
        · rw [ih [], List.cons_append]
      · exact ih (d :: word)

/-- The words of text with a blank in it are those before the blank and those behind it. -/
theorem words_append_blank (first : List Char) {c : Char} (blank : isBlank c = true)
    (rest : List Char) : words (first ++ c :: rest) = words first ++ words rest :=
  wordsFrom_append_blank [] first blank rest

theorem isWord_of_mem_wordsFrom {word text found : List Char}
    (noBlank : ∀ c ∈ word, isBlank c = false) (member : found ∈ wordsFrom word text) :
    IsWord (String.ofList found) := by
  have whole {word : List Char} (nonempty : word ≠ []) (noBlank : ∀ c ∈ word, isBlank c = false) :
      IsWord (String.ofList word.reverse) := by
    simpa [IsWord] using ⟨nonempty, noBlank⟩
  induction text generalizing word with
  | nil =>
      by_cases empty : word = []
      · simp [wordsFrom, empty] at member
      · obtain rfl : found = word.reverse := by simpa [wordsFrom, empty] using member
        exact whole empty noBlank
  | cons c text ih =>
      by_cases blank : isBlank c = true
      · by_cases empty : word = []
        · exact ih (List.forall_mem_nil _) (by simpa [wordsFrom, blank, empty] using member)
        · have cases : found = word.reverse ∨ found ∈ wordsFrom [] text := by
            simpa [wordsFrom, blank, empty] using member
          rcases cases with rfl | later
          · exact whole empty noBlank
          · exact ih (List.forall_mem_nil _) later
      · refine ih ?_ (by simpa [wordsFrom, blank] using member)
        exact List.forall_mem_cons.2 ⟨by simpa using blank, noBlank⟩

theorem isWord_of_mem_words {text found : List Char} (member : found ∈ words text) :
    IsWord (String.ofList found) :=
  isWord_of_mem_wordsFrom (List.forall_mem_nil _) member

/-! ## Letter case -/

/-- The code points with the property `White_Space`, as inclusive ranges. -/
def blankRanges : List (Nat × Nat) :=
  [(0x09, 0x0D), (0x20, 0x20), (0x85, 0x85), (0xA0, 0xA0), (0x1680, 0x1680), (0x2000, 0x200A),
    (0x2028, 0x2029), (0x202F, 0x202F), (0x205F, 0x205F), (0x3000, 0x3000)]

theorem isBlank_eq_inRanges (c : Char) : isBlank c = inRanges blankRanges c.toNat := by
  rw [Bool.eq_iff_iff]
  simp [isBlank, inRanges, blankRanges]
  omega

/-- A run of capitals and the run of its lower-case letters lie apart from some code points. -/
def CapitalRun.avoids (run : CapitalRun) (range : Nat × Nat) : Bool :=
  (run.last < range.1 || range.2 < run.first) &&
    ((run.last : Int) + run.shift < range.1 || (range.2 : Int) < run.first + run.shift)

theorem capitalRuns_avoid_blanks :
    ∀ run ∈ capitalRuns, ∀ range ∈ blankRanges, run.avoids range = true := by
  decide +kernel

theorem inRanges_eq_false {ranges : List (Nat × Nat)} {code : Nat} :
    inRanges ranges code = false ↔ ∀ range ∈ ranges, code < range.1 ∨ range.2 < code := by
  simp [inRanges, or_iff_not_imp_left]

/-- A number that is no code point stands for the character with number zero. -/
theorem toNat_ofNat_cases (code : Nat) :
    (Char.ofNat code).toNat = code ∨ (Char.ofNat code).toNat = 0 := by
  unfold Char.ofNat
  by_cases valid : code.isValidChar
  · rw [dif_pos valid]
    exact .inl rfl
  · rw [dif_neg valid]
    exact .inr rfl

/-- Neither a capital of a run nor its lower-case letter is blank. -/
theorem notBlank_of_covers {run : CapitalRun} (member : run ∈ capitalRuns) {c : Char}
    (covers : run.covers c.toNat = true) :
    isBlank c = false ∧ isBlank (Char.ofNat (c.toNat + run.shift).toNat) = false := by
  have inside : run.first ≤ c.toNat ∧ c.toNat ≤ run.last := by
    simp only [CapitalRun.covers, Bool.and_eq_true, decide_eq_true_eq] at covers
    exact covers.1
  rw [isBlank_eq_inRanges, isBlank_eq_inRanges, inRanges_eq_false, inRanges_eq_false,
    ← forall₂_and]
  intro range listed
  have apart := capitalRuns_avoid_blanks run member range listed
  simp only [CapitalRun.avoids, Bool.and_eq_true, Bool.or_eq_true, decide_eq_true_eq] at apart
  have positive : ∀ range ∈ blankRanges, 0 < range.1 := by decide
  have nonzero := positive range listed
  refine ⟨by omega, ?_⟩
  rcases toNat_ofNat_cases (c.toNat + run.shift).toNat with same | zero <;> omega

/-- The lower-case form of a character is blank exactly if the character is. -/
theorem isBlank_of_mem_lowerChar {c d : Char} (member : d ∈ lowerChar c) :
    isBlank d = isBlank c := by
  have ascii : ∀ code < 0x80, isBlank (Char.ofNat code).toLower = isBlank (Char.ofNat code) := by
    decide +kernel
  unfold lowerChar at member
  split at member
  case isTrue small =>
    obtain rfl := List.mem_singleton.1 member
    simpa using ascii c.toNat small
  case isFalse =>
    split at member
    case isTrue dotted =>
      subst dotted
      obtain rfl | member := List.mem_cons.1 member
      · decide
      · rw [List.mem_singleton.1 member]
        decide
    case isFalse =>
      cases found : capitalRuns.find? (·.covers c.toNat) with
      | none =>
        simp only [found] at member
        rw [List.mem_singleton.1 member]
      | some run =>
        simp only [found] at member
        obtain rfl := List.mem_singleton.1 member
        have covers : run.covers c.toNat = true := by
          simpa using List.find?_some found
        have ⟨upper, lower⟩ := notBlank_of_covers (List.mem_of_find?_eq_some found) covers
        rw [upper, lower]

theorem lowerChar_ne_nil (c : Char) : lowerChar c ≠ [] := by
  unfold lowerChar
  split
  · simp
  · split
    · simp
    · split <;> simp

theorem lowerFrom_cons (before : List Char) (c : Char) (rest : List Char) :
    ∃ lowered, lowered ≠ [] ∧ (∀ d ∈ lowered, isBlank d = isBlank c) ∧
      lowerFrom before (c :: rest) = lowered ++ lowerFrom (c :: before) rest := by
  by_cases sigma : c = 'Σ'
  · subst sigma
    refine ⟨_, ?_, ?_, rfl⟩
    · rw [if_pos rfl]
      split <;> simp
    · rw [if_pos rfl]
      split <;>
        · intro d member
          rw [List.mem_singleton.1 member]
          decide
  · exact ⟨lowerChar c, lowerChar_ne_nil c, fun d => isBlank_of_mem_lowerChar, by
      rw [lowerFrom, if_neg sigma]⟩

theorem lowerFrom_word (before text : List Char) :
    (lowerFrom before text = [] ↔ text = []) ∧
      ((∀ d ∈ lowerFrom before text, isBlank d = false) ↔ ∀ c ∈ text, isBlank c = false) := by
  induction text generalizing before with
  | nil => simp [lowerFrom]
  | cons c rest ih =>
      obtain ⟨lowered, nonempty, alike, same⟩ := lowerFrom_cons before c rest
      rw [same, List.forall_mem_append, List.forall_mem_cons, (ih _).2]
      refine ⟨by simp [nonempty], and_congr_left' ?_⟩
      obtain ⟨d, member⟩ := List.exists_mem_of_ne_nil lowered nonempty
      exact ⟨fun all => alike d member ▸ all d member,
        fun plain d member => alike d member ▸ plain⟩

theorem isWord_lower_iff (text : String) : IsWord (lower text) ↔ IsWord text := by
  have ⟨empty, noBlank⟩ := lowerFrom_word [] text.toList
  rw [IsWord, IsWord, lower, String.toList_ofList, noBlank, Ne, empty]

/-- Texts that are equal in lower case are words together. -/
theorem IsWord.of_lower_eq {first second : String} (word : IsWord first)
    (same : lower first = lower second) : IsWord second :=
  (isWord_lower_iff second).1 (same ▸ (isWord_lower_iff first).2 word)

end FigureMarkup.Text
