import FigureMarkup.Proofs.Markup.Arguments

/-!
# Sentences

The tokens of a unit form a sentence: a word, and after it items. A word can stand for itself or
begin a keyword, but every sentence has one reading, since no item begins with an equals sign. The
parser reads exactly the sentences. In every other sequence it stops at the first token with which
no sentence begins that way, or at the end if sentences do begin that way.
-/

namespace FigureMarkup.Markup

/-! ## Readings -/

/-- The text of a word or of a quoted string. -/
def Token.text? : Token → Option String
  | .equals => none
  | .word text => some text
  | .quoted text => some text

/-- Tokens that spell items in order. -/
inductive Spells : List Token → List Item → Prop
  | nil : Spells [] []
  | keyword {key value : String} {token : Token} {tokens : List Token} {items : List Item}
      (holds : token.text? = some value) (later : Spells tokens items) :
      Spells (.word key :: .equals :: token :: tokens) (.keyword key value :: items)
  | bare {text : String} {token : Token} {tokens : List Token} {items : List Item}
      (holds : token.text? = some text) (later : Spells tokens items) :
      Spells (token :: tokens) (.bare text :: items)

/-- Tokens that form a sentence with a kind and some items. -/
inductive Sentence : List Token → String × List Item → Prop
  | intro {kind : String} {tokens : List Token} {items : List Item}
      (spells : Spells tokens items) : Sentence (.word kind :: tokens) (kind, items)

theorem not_spells_equals {tokens : List Token} {items : List Item} :
    ¬ Spells (.equals :: tokens) items := by
  intro spells
  cases spells with
  | bare holds later => cases holds

theorem not_spelled_dangling (key : String) : ¬ ∃ items, Spells [.word key, .equals] items := by
  rintro ⟨items, spells⟩
  cases spells with
  | bare holds later => exact not_spells_equals later

theorem Spells.of_keyword {key : String} {token : Token} {tokens : List Token} {items : List Item}
    (spells : Spells (.word key :: .equals :: token :: tokens) items) :
    ∃ value later, token.text? = some value ∧ items = .keyword key value :: later ∧
      Spells tokens later := by
  cases spells with
  | keyword holds later => exact ⟨_, _, holds, rfl, later⟩
  | bare holds later => exact absurd later not_spells_equals

/-- An item before anything but an equals sign is bare. -/
theorem Spells.of_bare {token : Token} {tokens : List Token} {items : List Item}
    (spells : Spells (token :: tokens) items) (next : tokens.head? ≠ some .equals) :
    ∃ text later, token.text? = some text ∧ items = .bare text :: later ∧
      Spells tokens later := by
  cases spells with
  | keyword holds later => exact absurd rfl next
  | bare holds later => exact ⟨_, _, holds, rfl, later⟩

/-- Tokens spell one list of items at most. -/
theorem Spells.unique {tokens : List Token} {first second : List Item}
    (spells : Spells tokens first) (also : Spells tokens second) : first = second := by
  induction spells generalizing second with
  | nil => cases also; rfl
  | keyword holds _ ih =>
      obtain ⟨value, later, holdsToo, rfl, rest⟩ := also.of_keyword
      rw [holds, Option.some.injEq] at holdsToo
      rw [holdsToo, ih rest]
  | @bare text token tokens items holds rest ih =>
      -- No item begins with an equals sign, so a word before one cannot stand for itself.
      have next : tokens.head? ≠ some .equals := by
        intro begins
        obtain ⟨others, rfl⟩ := List.head?_eq_some_iff.1 begins
        exact not_spells_equals rest
      obtain ⟨other, later, holdsToo, rfl, restToo⟩ := also.of_bare next
      rw [holds, Option.some.injEq] at holdsToo
      rw [holdsToo, ih restToo]

/-- A sentence has one reading. -/
theorem Sentence.unique {tokens : List Token} {first second : String × List Item}
    (sentence : Sentence tokens first) (also : Sentence tokens second) : first = second := by
  cases sentence with
  | intro spells =>
      cases also with
      | intro spellsToo => rw [spells.unique spellsToo]

/-! ## Where reading stops -/

section Reading

variable {Reading Outer : Type}

/-- Tokens that some reading begins with. -/
def Viable (language : List Token → Reading → Prop) (tokens : List Token) : Prop :=
  ∃ more reading, language (tokens ++ more) reading

/-- The place where tokens stop being the beginning of something that can be read, with the fault
there, which says whether the tokens could also have ended there. At the end, a token is missing
after an equals sign or at the very start. -/
inductive Stops (language : List Token → Reading → Prop) : List PlacedToken → Misplaced → Prop
  | misplaced (good : List PlacedToken) {later : List PlacedToken} {token : Token}
      {place : Text.Span} {mayEnd : Bool} (viable : Viable language (good.map (·.1)))
      (stuck : ¬ Viable language (good.map (·.1) ++ [token]))
      (ends : mayEnd = true ↔ ∃ reading, language (good.map (·.1)) reading) :
      Stops language (good ++ (token, place) :: later) (.unexpected token mayEnd, some place)
  | missing {tokens : List PlacedToken} (viable : Viable language (tokens.map (·.1)))
      (unread : ¬ ∃ reading, language (tokens.map (·.1)) reading)
      (dangling : ∀ last ∈ tokens.getLast?, last.1 = .equals) :
      Stops language tokens (.unexpectedEnd, none)

/-- A result is the reading that tokens have, or says where reading stops. -/
inductive Reads (language : List Token → Reading → Prop) (tokens : List PlacedToken) :
    Except Misplaced Reading → Prop
  | accepted {reading : Reading} (read : language (tokens.map (·.1)) reading) :
      Reads language tokens (.ok reading)
  | stopped {fault : Misplaced} (stops : Stops language tokens fault) :
      Reads language tokens (.error fault)

theorem Stops.unread {language : List Token → Reading → Prop} {tokens : List PlacedToken}
    {fault : Misplaced} (stops : Stops language tokens fault) :
    ¬ ∃ reading, language (tokens.map (·.1)) reading := by
  rintro ⟨reading, read⟩
  cases stops with
  | missing viable unread dangling => exact unread ⟨reading, read⟩
  | @misplaced good later token place mayEnd viable stuck ends =>
      apply stuck
      refine ⟨later.map (·.1), reading, ?_⟩
      simpa using read

/-- A token is missing only at the end, after an equals sign or at the very start. -/
theorem Stops.of_missing {language : List Token → Reading → Prop} {tokens : List PlacedToken}
    {fault : SyntaxFault} (stops : Stops language tokens (fault, none)) :
    fault = .unexpectedEnd ∧ ∀ last ∈ tokens.getLast?, last.1 = .equals := by
  cases stops with
  | missing viable unread dangling => exact ⟨rfl, dangling⟩

theorem Reads.ok_iff {language : List Token → Reading → Prop} {tokens : List PlacedToken}
    {result : Except Misplaced Reading} (reads : Reads language tokens result)
    (unique : ∀ {first second}, language (tokens.map (·.1)) first →
      language (tokens.map (·.1)) second → first = second) {reading : Reading} :
    result = .ok reading ↔ language (tokens.map (·.1)) reading := by
  cases reads with
  | @accepted other read =>
      constructor
      · rintro ⟨⟩
        exact read
      · intro also
        rw [unique read also]
  | stopped stops =>
      constructor
      · rintro ⟨⟩
      · intro read
        exact absurd ⟨reading, read⟩ stops.unread

section Prepend

variable {inner : List Token → Reading → Prop} {outer : List Token → Outer → Prop}
  {rest : List PlacedToken} (chunk : List PlacedToken) {build : Reading → Outer}
  (gives : ∀ tokens reading, inner tokens reading →
    outer (chunk.map (·.1) ++ tokens) (build reading))
  (returns : ∀ tokens reading, tokens.head? = (rest.map (·.1)).head? →
    outer (chunk.map (·.1) ++ tokens) reading → ∃ reading, inner tokens reading)
  (nil : ∃ reading, inner [] reading)

include gives returns nil

/-- Put tokens before a sequence in which reading stops. The languages need to agree only on what
goes on like that sequence. -/
theorem Stops.prepend {fault : Misplaced} (stops : Stops inner rest fault) :
    Stops outer (chunk ++ rest) fault := by
  cases stops with
  | @misplaced good later token place mayEnd viable stuck ends =>
      obtain ⟨more, reading, read⟩ := viable
      rw [← List.append_assoc]
      refine .misplaced _ ⟨more, build reading, ?_⟩ ?_ ?_
      · rw [List.map_append, List.append_assoc]
        exact gives _ _ read
      · rintro ⟨others, reading, read⟩
        apply stuck
        refine ⟨others, returns _ reading ?_ ?_⟩
        · cases good <;> rfl
        · simpa using read
      · rw [ends, List.map_append]
        constructor
        · rintro ⟨reading, read⟩
          exact ⟨_, gives _ _ read⟩
        · rintro ⟨reading, read⟩
          -- What follows the chunk is known to go on like `rest` only if there is some of it.
          cases good with
          | nil => exact nil
          | cons first good => exact returns _ reading rfl read
  | missing viable unread dangling =>
      obtain ⟨more, reading, read⟩ := viable
      have nonempty : rest ≠ [] := by
        rintro rfl
        exact unread nil
      refine .missing ⟨more, build reading, ?_⟩ ?_ ?_
      · rw [List.map_append, List.append_assoc]
        exact gives _ _ read
      · rw [List.map_append]
        rintro ⟨reading, read⟩
        exact unread (returns _ reading rfl read)
      · intro last member
        rw [List.getLast?_append_of_ne_nil _ nonempty] at member
        exact dangling last member

theorem Reads.prepend {result : Except Misplaced Reading} (reads : Reads inner rest result) :
    Reads outer (chunk ++ rest) (result.map build) := by
  cases reads with
  | accepted read =>
      refine .accepted ?_
      rw [List.map_append]
      exact gives _ _ read
  | stopped stops => exact .stopped (stops.prepend chunk gives returns nil)

end Prepend

end Reading

/-! ## The parser -/

theorem reads_keyword {key value : String} {token : Token}
    (places : Text.Span × Text.Span × Text.Span) (holds : token.text? = some value)
    {rest : List PlacedToken} {result : Except Misplaced (List Item)}
    (reads : Reads Spells rest result) :
    Reads Spells
      ((.word key, places.1) :: (.equals, places.2.1) :: (token, places.2.2) :: rest)
      (result.map (.keyword key value :: ·)) := by
  refine reads.prepend [(.word key, places.1), (.equals, places.2.1), (token, places.2.2)]
    (fun tokens items spells => .keyword holds spells) ?_ ⟨[], .nil⟩
  intro tokens items _ spells
  obtain ⟨_, later, -, -, rest⟩ := spells.of_keyword
  exact ⟨later, rest⟩

theorem reads_bare {text : String} {token : Token} (holds : token.text? = some text)
    {place : Text.Span} {rest : List PlacedToken} {result : Except Misplaced (List Item)}
    (reads : Reads Spells rest result)
    (alone : (∀ key, token ≠ .word key) ∨ (rest.map (·.1)).head? ≠ some .equals) :
    Reads Spells ((token, place) :: rest) (result.map (.bare text :: ·)) := by
  refine reads.prepend [(token, place)] (fun tokens items spells => .bare holds spells) ?_
    ⟨[], .nil⟩
  intro tokens items same spells
  cases spells with
  | bare _ later => exact ⟨_, later⟩
  | keyword _ _ =>
      rcases alone with unworded | next
      · exact absurd rfl (unworded _)
      · exact absurd same.symm next

/-- The parser of items reads what tokens spell. -/
theorem reads_items (tokens : List PlacedToken) : Reads Spells tokens (items tokens) := by
  fun_induction items tokens with
  | case1 => exact .accepted .nil
  | case2 key first second =>
      have viable : Viable Spells [.word key, .equals] :=
        ⟨[.word ""], _, .keyword rfl .nil⟩
      refine .stopped (.missing viable (not_spelled_dangling key) ?_)
      rintro last ⟨⟩
      rfl
  | case3 key first second place rest =>
      have viable : Viable Spells [.word key, .equals] :=
        ⟨[.word ""], _, .keyword rfl .nil⟩
      have stuck : ¬ Viable Spells [.word key, .equals, .equals] := by
        rintro ⟨more, items, spells⟩
        obtain ⟨value, later, holds, -, -⟩ := spells.of_keyword
        cases holds
      refine .stopped (.misplaced [(.word key, first), (.equals, second)] viable stuck ?_)
      exact iff_of_false nofun (not_spelled_dangling key)
  | case4 key first second value third rest ih =>
      exact reads_keyword (first, second, third) rfl ih
  | case5 key first second value third rest ih =>
      exact reads_keyword (first, second, third) rfl ih
  | case6 text place rest next ih =>
      refine reads_bare rfl ih (.inr ?_)
      intro begins
      obtain _ | ⟨⟨token, second⟩, rest⟩ := rest
      · cases begins
      · cases begins
        exact next second rest rfl
  | case7 text place rest ih => exact reads_bare rfl ih (.inl nofun)
  | case8 place rest =>
      have stuck : ¬ Viable Spells [.equals] := by
        rintro ⟨more, items, spells⟩
        exact not_spells_equals spells
      exact .stopped (.misplaced [] ⟨[], [], .nil⟩ stuck (iff_of_true rfl ⟨[], .nil⟩))

/-- The parser reads sentences. -/
theorem reads_kindAndItems (tokens : List PlacedToken) :
    Reads Sentence tokens (kindAndItems tokens) := by
  have viable : Viable Sentence [] := ⟨[.word ""], ("", []), .intro .nil⟩
  have worded {token : Token} {tokens : List Token} {reading : String × List Item}
      (sentence : Sentence (token :: tokens) reading) : token = .word reading.1 := by
    cases sentence
    rfl
  fun_cases kindAndItems tokens with
  | case1 =>
      refine .stopped (.missing viable ?_ nofun)
      rintro ⟨reading, sentence⟩
      cases sentence
  | case2 kind place rest =>
      refine (reads_items rest).prepend [(.word kind, place)]
        (fun tokens items spells => .intro spells) ?_ ⟨[], .nil⟩
      intro tokens reading _ sentence
      cases sentence with
      | intro spells => exact ⟨_, spells⟩
  | case3 token place rest other =>
      have stuck : ¬ Viable Sentence [token] := by
        rintro ⟨more, reading, sentence⟩
        exact other _ (worded sentence)
      refine .stopped (.misplaced [] viable stuck (iff_of_false nofun ?_))
      rintro ⟨reading, sentence⟩
      cases sentence

end FigureMarkup.Markup
