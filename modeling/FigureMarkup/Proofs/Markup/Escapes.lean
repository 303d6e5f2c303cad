import FigureMarkup.Markup.Token
import Mathlib.Data.List.Induction

/-!
# Escapes

A backslash takes the meaning from the character after it, and a scan reads the two together. So
text falls into escapes and plain characters, with at most a lone backslash at its end. Whether a
character is escaped can also be told from the characters before it: it is if the backslashes right
before it are odd in number.
-/

namespace FigureMarkup.Markup

/-- Go through a text as scans do: by escapes and by plain characters. -/
theorem escape_induction {motive : List Char → Prop} (nil : motive []) (lone : motive ['\\'])
    (escaped : ∀ c rest, motive rest → motive ('\\' :: c :: rest))
    (plain : ∀ c rest, c ≠ '\\' → motive rest → motive (c :: rest)) :
    ∀ text, motive text
  | [] => nil
  | [c] =>
      if backslash : c = '\\' then backslash ▸ lone
      else plain c [] backslash nil
  | c :: d :: rest =>
      if backslash : c = '\\' then
        backslash ▸ escaped d rest (escape_induction nil lone escaped plain rest)
      else plain c (d :: rest) backslash (escape_induction nil lone escaped plain (d :: rest))

/-! ## Lone backslashes -/

/-- The number of backslashes in a row at the end of a text. -/
def trailingBackslashes (text : List Char) : Nat := (text.reverse.takeWhile (· = '\\')).length

/-- No backslash at the end of a text escapes what comes after it. -/
def Whole (text : List Char) : Prop := trailingBackslashes text % 2 = 0

instance (text : List Char) : Decidable (Whole text) :=
  inferInstanceAs (Decidable (trailingBackslashes text % 2 = 0))

theorem whole_nil : Whole [] := rfl

theorem trailingBackslashes_concat (text : List Char) (c : Char) :
    trailingBackslashes (text ++ [c]) = if c = '\\' then trailingBackslashes text + 1 else 0 := by
  by_cases backslash : c = '\\'
  · simp [trailingBackslashes, backslash]
  · simp [trailingBackslashes, backslash]

/-- A backslash after whole text is open, and every other character leaves text whole. -/
theorem whole_concat_iff {text : List Char} (whole : Whole text) (c : Char) :
    Whole (text ++ [c]) ↔ c ≠ '\\' := by
  unfold Whole at *
  rw [trailingBackslashes_concat]
  by_cases backslash : c = '\\'
  · have : (trailingBackslashes text + 1) % 2 = 1 := by omega
    simp [this, backslash]
  · simp [backslash]

/-- Whole text has no influence on what comes after it. -/
theorem Whole.append_iff {first : List Char} (whole : Whole first) (second : List Char) :
    Whole (first ++ second) ↔ Whole second := by
  have same : trailingBackslashes (first ++ second) % 2 = trailingBackslashes second % 2 := by
    -- The last character decides, unless it is one more backslash after those before it.
    induction second using List.reverseRecOn with
    | nil => rw [List.append_nil]; exact whole
    | append_singleton earlier c ih =>
        rw [← List.append_assoc, trailingBackslashes_concat, trailingBackslashes_concat]
        split
        · omega
        · rfl
  unfold Whole
  rw [same]

theorem whole_escape (c : Char) : Whole ['\\', c] := by
  by_cases backslash : c = '\\'
  · subst backslash
    decide
  · simp [Whole, trailingBackslashes, backslash]

theorem Whole.escape {text : List Char} (whole : Whole text) (c : Char) :
    Whole (text ++ ['\\', c]) :=
  (whole.append_iff _).2 (whole_escape c)

theorem whole_escaped_iff (c : Char) (rest : List Char) :
    Whole ('\\' :: c :: rest) ↔ Whole rest :=
  (whole_escape c).append_iff rest

theorem whole_plain_iff {c : Char} (plain : c ≠ '\\') (rest : List Char) :
    Whole (c :: rest) ↔ Whole rest :=
  ((whole_concat_iff whole_nil c).2 plain).append_iff rest

/-! ## Escaping -/

/-- Put a backslash before every special character. -/
def escape (special : Char → Bool) (text : List Char) : List Char :=
  text.flatMap fun c => if special c then ['\\', c] else [c]

theorem escape_cons (special : Char → Bool) (c : Char) (rest : List Char) :
    escape special (c :: rest) =
      (if special c then ['\\', c] else [c]) ++ escape special rest :=
  List.flatMap_cons

theorem unescapeChars_cons_of_ne {c : Char} (plain : c ≠ '\\') (rest : List Char) :
    unescapeChars (c :: rest) = c :: unescapeChars rest := by
  rw [unescapeChars]
  · intro backslash
    exact absurd backslash plain
  · intro d later backslash
    exact absurd backslash plain

/-- Text is read back from its escaped form, if backslashes are special in it. -/
theorem unescapeChars_escape {special : Char → Bool} (backslash : special '\\' = true)
    (text : List Char) : unescapeChars (escape special text) = text := by
  induction text with
  | nil => rfl
  | cons c rest ih =>
      rw [escape_cons]
      split
      case isTrue => rw [List.cons_append, List.cons_append, List.nil_append, unescapeChars, ih]
      case isFalse ordinary =>
        have plain : c ≠ '\\' := by
          intro equal
          exact ordinary (equal ▸ backslash)
        rw [List.singleton_append, unescapeChars_cons_of_ne plain, ih]

end FigureMarkup.Markup
