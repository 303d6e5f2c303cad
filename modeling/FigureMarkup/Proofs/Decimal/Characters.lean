import FigureMarkup.Decimal.Layout

/-!
# Characters of written numbers

Whatever its layout, a number is written with digits, a few signs, and the words that its style has
for what is no number.
-/

namespace FigureMarkup.Decimal

theorem isDigit_of_mem_digitText {n : Nat} {c : Char} (member : c ∈ digitText n) :
    c.isDigit = true :=
  Nat.isDigit_of_mem_toDigits (by decide) (by decide) member

theorem isDigit_of_mem_zeros {count : Nat} {c : Char} (member : c ∈ List.replicate count '0') :
    c.isDigit = true := by
  rw [List.eq_of_mem_replicate member]
  rfl

/-- A character that may stand in a number of some style. -/
def Style.Uses (style : Style) (c : Char) : Prop :=
  c.isDigit = true ∨ c ∈ ['.', '-', '+', 'e'] ∨
    c ∈ (style.wholeEnding ++ style.infinity ++ style.nan).toList

instance (style : Style) (c : Char) : Decidable (style.Uses c) :=
  inferInstanceAs (Decidable (_ ∨ _ ∨ _))

/-- All characters of a text may stand in a number of some style. -/
def Style.Spells (style : Style) (text : String) : Prop := ∀ c ∈ text.toList, style.Uses c

namespace Style.Spells

variable {style : Style} {first second text : String}

theorem append (one : style.Spells first) (two : style.Spells second) :
    style.Spells (first ++ second) := by
  intro c member
  rw [String.toList_append, List.mem_append] at member
  exact member.elim (one c) (two c)

theorem digits {digits : List Char} (all : ∀ c ∈ digits, c.isDigit = true) :
    style.Spells (String.ofList digits) := by
  intro c member
  rw [String.toList_ofList] at member
  exact .inl (all c member)

theorem zero : style.Spells "0" := by
  have digit : "0".toList.all Char.isDigit = true := by decide
  exact fun c member => .inl (List.all_eq_true.1 digit c member)

theorem signs (known : text.toList.all (['.', '-', '+', 'e'].contains ·) = true) :
    style.Spells text :=
  fun c member => .inr (.inl (List.contains_iff_mem.1 (List.all_eq_true.1 known c member)))

theorem wholeEnding : style.Spells style.wholeEnding :=
  fun c member => .inr (.inr (by simp [String.toList_append, member]))

theorem infinity : style.Spells style.infinity :=
  fun c member => .inr (.inr (by simp [String.toList_append, member]))

theorem nan : style.Spells style.nan :=
  fun c member => .inr (.inr (by simp [String.toList_append, member]))

theorem positional {digits : List Char} (all : ∀ c ∈ digits, c.isDigit = true) (whole : Int) :
    style.Spells (positional style digits whole) := by
  unfold Decimal.positional
  split
  case isTrue below =>
    have point : style.Spells "." := .signs (by decide)
    have start : style.Spells "0." := zero.append point
    exact start.append (.digits fun c member =>
      (List.mem_append.1 member).elim isDigit_of_mem_zeros (all c))
  case isFalse above =>
    split
    case isTrue long =>
      exact (Spells.digits fun c member =>
        (List.mem_append.1 member).elim (all c) isDigit_of_mem_zeros).append .wholeEnding
    case isFalse short =>
      have point : style.Spells "." := .signs (by decide)
      exact ((Spells.digits fun c member => all c (List.mem_of_mem_take member)).append
        point).append (.digits fun c member => all c (List.mem_of_mem_drop member))

theorem scientific {digits : List Char} (all : ∀ c ∈ digits, c.isDigit = true) (exponent : Int) :
    style.Spells (scientific digits exponent) := by
  have fraction : style.Spells (if (digits.drop 1).isEmpty then "" else
      "." ++ String.ofList (digits.drop 1)) := by
    split
    case isTrue => exact .signs (by decide)
    case isFalse =>
      exact (Spells.signs (by decide)).append
        (.digits fun c member => all c (List.mem_of_mem_drop member))
  have sign : style.Spells (if exponent < 0 then "e-" else "e+") := by
    split
    case isTrue => exact .signs (by decide)
    case isFalse => exact .signs (by decide)
  have power : style.Spells (toString exponent.natAbs) :=
    .digits fun c => isDigit_of_mem_digitText
  exact (((Spells.digits fun c member => all c (List.mem_of_mem_take member)).append
    fraction).append sign).append power

theorem signed (x : Binary) (spells : style.Spells text) : style.Spells (signed x text) := by
  unfold Decimal.signed
  split
  case isTrue => exact (Spells.signs (by decide)).append spells
  case isFalse => exact spells

end Style.Spells

theorem spells_renderMagnitude (style : Style) (magnitude : Magnitude) :
    style.Spells (style.renderMagnitude magnitude) := by
  cases magnitude with
  | nan => exact .nan
  | infinite => exact .infinity
  | finite significand exponent =>
      unfold Style.renderMagnitude
      dsimp only
      split
      case isTrue => exact Style.Spells.zero.append .wholeEnding
      case isFalse =>
        split
        case isTrue => exact .positional (fun _ => isDigit_of_mem_digitText) _
        case isFalse => exact .scientific (fun _ => isDigit_of_mem_digitText) _

theorem spells_fixedMagnitude (style : Style) (places : Nat) (magnitude : Magnitude) :
    style.Spells (style.fixedMagnitude places magnitude) := by
  cases magnitude with
  | nan => exact .nan
  | infinite => exact .infinity
  | finite significand exponent =>
      unfold Style.fixedMagnitude
      dsimp only
      generalize padding : List.replicate _ '0' ++ digitText _ = digits
      have all : ∀ c ∈ digits, c.isDigit = true := by
        subst padding
        exact fun c member => (List.mem_append.1 member).elim isDigit_of_mem_zeros
          isDigit_of_mem_digitText
      refine (Style.Spells.digits fun c member => all c (List.mem_of_mem_take member)).append ?_
      split
      case isTrue => exact .signs (by decide)
      case isFalse =>
        exact (Style.Spells.signs (by decide)).append
          (.digits fun c member => all c (List.mem_of_mem_drop member))

theorem spells_render (style : Style) (x : Float) : style.Spells (style.render x) :=
  .signed _ (spells_renderMagnitude style _)

theorem spells_fixed (style : Style) (places : Nat) (x : Float) :
    style.Spells (style.fixed places x) :=
  .signed _ (spells_fixedMagnitude style places _)

end FigureMarkup.Decimal
