import FigureMarkup.Markup.Token
import FigureMarkup.Proofs.Text.Places

/-!
# Lexemes

Lexing skips a separator or takes one lexeme at a time. So the lexemes of content stand in it one
after the other, and only separators can follow the last of them.
-/

namespace FigureMarkup.Markup

open Text

theorem lexFrom_separator {c : Char} (separator : isSeparator c = true) (offset : Nat)
    (rest : List Char) : lexFrom offset (c :: rest) = lexFrom (offset + c.utf8Size) rest := by
  rw [lexFrom, if_pos separator]

theorem lexFrom_next {c : Char} (other : isSeparator c = false) {rest text left : List Char}
    {token : Option Token} (next : nextToken c rest = (token, text, left)) (offset : Nat) :
    lexFrom offset (c :: rest) =
      ⟨token, text, ⟨offset, offset + byteLength text⟩⟩ ::
        lexFrom (offset + byteLength text) left := by
  rw [lexFrom, if_neg (by simp [other])]
  simp only [next]

/-- Every lexeme is what is scanned at the place where it stands. -/
theorem exists_of_mem_lexFrom {offset : Nat} {content : List Char} {lexeme : Lexeme}
    (member : lexeme ∈ lexFrom offset content) :
    ∃ before c rest, content = before ++ c :: rest ∧
      lexeme = ⟨(nextToken c rest).1, (nextToken c rest).2.1,
        ⟨offset + byteLength before, offset + byteLength (before ++ (nextToken c rest).2.1)⟩⟩ := by
  fun_induction lexFrom offset content with
  | case1 => cases member
  | case2 offset c rest separator ih =>
      obtain ⟨before, d, later, rfl, rfl⟩ := ih member
      refine ⟨c :: before, d, later, rfl, ?_⟩
      simp [Nat.add_assoc]
  | case3 offset c rest other next stop ih =>
      have whole : next.2.1 ++ next.2.2 = c :: rest := nextToken_append c rest
      rcases List.mem_cons.1 member with rfl | among
      · exact ⟨[], c, rest, rfl, rfl⟩
      · obtain ⟨before, d, later, parts, rfl⟩ := ih among
        refine ⟨next.2.1 ++ before, d, later, ?_, ?_⟩
        · rw [← whole, parts, List.append_assoc]
        · simp [stop, Nat.add_assoc]

theorem text_of_equals {c : Char} {rest : List Char}
    (equals : (nextToken c rest).1 = some .equals) : (nextToken c rest).2.1 = ['='] := by
  unfold nextToken at *
  split
  case isTrue same => rw [same]
  case isFalse other =>
    rw [if_neg other] at equals
    split at equals <;> split at equals <;> cases equals

/-- An equals sign stands for itself. -/
theorem text_of_mem_lexFrom {offset : Nat} {content : List Char} {lexeme : Lexeme}
    (member : lexeme ∈ lexFrom offset content) (equals : lexeme.token = some .equals) :
    lexeme.text = ['='] := by
  obtain ⟨_, c, rest, -, rfl⟩ := exists_of_mem_lexFrom member
  exact text_of_equals equals

/-- Content without lexemes consists of separators. In other content the last lexeme stands at its
place, and separators follow it. -/
theorem lexFrom_last (offset : Nat) (content : List Char) :
    (lexFrom offset content = [] ∧ ∀ c ∈ content, isSeparator c = true) ∨
      ∃ earlier last separators, content = earlier ++ last.text ++ separators ∧
        (∀ c ∈ separators, isSeparator c = true) ∧
        (lexFrom offset content).getLast? = some last ∧
        last.span = ⟨offset + byteLength earlier, offset + byteLength (earlier ++ last.text)⟩ := by
  fun_induction lexFrom offset content with
  | case1 => exact .inl ⟨rfl, nofun⟩
  | case2 offset c rest separator ih =>
      rcases ih with ⟨empty, separators⟩ | ⟨earlier, last, separators, parts, all, found, place⟩
      · exact .inl ⟨empty, by simpa [separator] using separators⟩
      · refine .inr ⟨c :: earlier, last, separators, by simp [parts], all, found, ?_⟩
        simp [place, Nat.add_assoc]
  | case3 offset c rest other next stop ih =>
      have whole : next.2.1 ++ next.2.2 = c :: rest := nextToken_append c rest
      rcases ih with ⟨empty, separators⟩ | ⟨earlier, last, separators, parts, all, found, place⟩
      · let first : Lexeme := ⟨next.1, next.2.1, ⟨offset, stop⟩⟩
        have alone : (first :: lexFrom stop next.2.2).getLast? = some first := by
          rw [empty]
          rfl
        exact .inr ⟨[], first, next.2.2, whole.symm, separators, alone, rfl⟩
      · refine .inr ⟨next.2.1 ++ earlier, last, separators, ?_, all, ?_, ?_⟩
        · rw [← whole, parts]
          simp
        · rw [List.getLast?_cons, found]
          rfl
        · simp [place, stop, Nat.add_assoc]

end FigureMarkup.Markup
