import FigureMarkup.Construction.Declare

/-!
# The notation of colors

A color is written with one to four pairs of digits to base sixteen, perhaps after one number sign,
and a pair stands for a channel on a scale of 255. A plus sign is also taken in place of the first
digit of a pair. All else is refused under the text as it was given. Without plus signs the texts
that are read are exactly those of hexadecimal colors.
-/

namespace FigureMarkup

open Text

/-! ## Digits -/

/-- A character is the digit to base sixteen with a value, in either case. -/
def Text.IsHexDigit (c : Char) (value : Nat) : Prop :=
  ['0', '1', '2', '3', '4', '5', '6', '7', '8', '9', 'a', 'b', 'c', 'd', 'e', 'f'][value]? =
      some c ∨
    ['0', '1', '2', '3', '4', '5', '6', '7', '8', '9', 'A', 'B', 'C', 'D', 'E', 'F'][value]? =
      some c

namespace Text

instance (c : Char) (value : Nat) : Decidable (IsHexDigit c value) :=
  inferInstanceAs (Decidable (_ ∨ _))

theorem hexValue?_of_isHexDigit {c : Char} {value : Nat} (digit : IsHexDigit c value) :
    hexValue? c = some value := by
  have lower : ∀ place < 16, (['0', '1', '2', '3', '4', '5', '6', '7', '8', '9', 'a', 'b', 'c',
      'd', 'e', 'f'][place]?).bind hexValue? = some place := by
    decide
  have upper : ∀ place < 16, (['0', '1', '2', '3', '4', '5', '6', '7', '8', '9', 'A', 'B', 'C',
      'D', 'E', 'F'][place]?).bind hexValue? = some place := by
    decide
  rcases digit with stands | stands
  · have inside := (List.getElem?_eq_some_iff.1 stands).1
    simpa only [stands, Option.bind_some] using lower value inside
  · have inside := (List.getElem?_eq_some_iff.1 stands).1
    simpa only [stands, Option.bind_some] using upper value inside

theorem isHexDigit_of_hexValue? {c : Char} {value : Nat} (read : hexValue? c = some value) :
    IsHexDigit c value := by
  -- Every range of digits is a piece of the row, counted from its first character.
  have digits : ∀ n < 10, IsHexDigit (Char.ofNat (48 + n)) n := by decide
  have lower : ∀ n < 6, IsHexDigit (Char.ofNat (97 + n)) (n + 10) := by decide
  have upper : ∀ n < 6, IsHexDigit (Char.ofNat (65 + n)) (n + 10) := by decide
  have place (first : Nat) (above : first ≤ c.toNat) :
      c = Char.ofNat (first + (c.toNat - first)) := by
    rw [Nat.add_sub_cancel' above, Char.ofNat_toNat]
  unfold hexValue? at read
  split at read
  case isTrue range =>
    obtain ⟨above, below⟩ := Bool.and_eq_true_iff.1 range
    have above : 48 ≤ c.toNat := of_decide_eq_true above
    have below : c.toNat ≤ 57 := of_decide_eq_true below
    cases read
    have digit := digits (c.toNat - 48) (by omega)
    rwa [← place 48 above] at digit
  case isFalse =>
    split at read
    case isTrue range =>
      obtain ⟨above, below⟩ := Bool.and_eq_true_iff.1 range
      have above : 97 ≤ c.toNat := of_decide_eq_true above
      have below : c.toNat ≤ 102 := of_decide_eq_true below
      cases read
      have digit := lower (c.toNat - 97) (by omega)
      rwa [← place 97 above] at digit
    case isFalse =>
      split at read
      case isTrue range =>
        obtain ⟨above, below⟩ := Bool.and_eq_true_iff.1 range
        have above : 65 ≤ c.toNat := of_decide_eq_true above
        have below : c.toNat ≤ 70 := of_decide_eq_true below
        cases read
        have digit := upper (c.toNat - 65) (by omega)
        rwa [← place 65 above] at digit
      case isFalse => cases read

theorem hexValue?_eq_some_iff {c : Char} {value : Nat} :
    hexValue? c = some value ↔ IsHexDigit c value :=
  ⟨isHexDigit_of_hexValue?, hexValue?_of_isHexDigit⟩

/-- Only digits have values, so a sign has none. -/
theorem not_isHexDigit_of_none {c : Char} (unread : hexValue? c = none) (value : Nat) :
    ¬ IsHexDigit c value := by
  intro digit
  rw [hexValue?_of_isHexDigit digit] at unread
  cases unread

/-! ## Pairs -/

/-- A text consists of pairs of characters, which write numbers in turn. -/
inductive Pairs (writes : Char → Char → Nat → Prop) : List Char → List Nat → Prop
  | nil : Pairs writes [] []
  | cons {first second : Char} {value : Nat} {rest : List Char} {values : List Nat}
      (here : writes first second value) (later : Pairs writes rest values) :
      Pairs writes (first :: second :: rest) (value :: values)

theorem Pairs.mono {writes more : Char → Char → Nat → Prop} {text : List Char} {values : List Nat}
    (pairs : Pairs writes text values)
    (included : ∀ first second value, first ∈ text → writes first second value →
      more first second value) :
    Pairs more text values := by
  induction pairs with
  | nil => exact .nil
  | cons here later ih =>
      refine .cons (included _ _ _ List.mem_cons_self here) (ih fun first second value member => ?_)
      exact included first second value (List.mem_cons_of_mem _ (List.mem_cons_of_mem _ member))

/-- Two digits to base sixteen write a number below 256. -/
def IsHexPair (first second : Char) (value : Nat) : Prop :=
  ∃ high low, IsHexDigit first high ∧ IsHexDigit second low ∧ value = 16 * high + low

/-- A plus sign and one digit write the value of the digit. -/
def IsSignedDigit (first second : Char) (value : Nat) : Prop :=
  first = '+' ∧ IsHexDigit second value

def IsPair (first second : Char) (value : Nat) : Prop :=
  IsHexPair first second value ∨ IsSignedDigit first second value

end Text

namespace Rgba

theorem pairValue?_eq_some_iff {first second : Char} {value : Nat} :
    pairValue? first second = some value ↔ IsPair first second value := by
  unfold pairValue? IsPair
  by_cases plus : first = '+'
  · subst plus
    have noDigit (high : Nat) : ¬ IsHexDigit '+' high := not_isHexDigit_of_none (by decide) high
    rw [if_pos rfl, hexValue?_eq_some_iff]
    constructor
    · intro digit
      exact .inr ⟨rfl, digit⟩
    · rintro (⟨high, low, digit, -⟩ | ⟨-, digit⟩)
      · exact absurd digit (noDigit high)
      · exact digit
  · rw [if_neg plus]
    constructor
    · intro read
      cases highRead : hexValue? first with
      | none => simp [highRead] at read
      | some high =>
          cases lowRead : hexValue? second with
          | none => simp [highRead, lowRead] at read
          | some low =>
              obtain rfl : 16 * high + low = value := by simpa [highRead, lowRead] using read
              exact .inl ⟨high, low, hexValue?_eq_some_iff.1 highRead,
                hexValue?_eq_some_iff.1 lowRead, rfl⟩
    · rintro (⟨high, low, highDigit, lowDigit, rfl⟩ | ⟨same, -⟩)
      · rw [hexValue?_of_isHexDigit highDigit, hexValue?_of_isHexDigit lowDigit]
      · exact absurd same plus

theorem pairValues?_eq_some_iff : {digits : List Char} → {bytes : List Nat} →
    (pairValues? digits = some bytes ↔ Pairs IsPair digits bytes)
  | [], bytes => by
      constructor
      · rintro ⟨⟩
        exact .nil
      · rintro ⟨⟩
        rfl
  | [_], bytes => by
      constructor
      · rintro ⟨⟩
      · rintro ⟨⟩
  | first :: second :: rest, bytes => by
      rw [pairValues?]
      constructor
      · intro read
        cases here : pairValue? first second with
        | none => simp [here] at read
        | some value =>
            cases later : pairValues? rest with
            | none => simp [here, later] at read
            | some values =>
                obtain rfl : value :: values = bytes := by simpa [here, later] using read
                exact .cons (pairValue?_eq_some_iff.1 here) (pairValues?_eq_some_iff.1 later)
      · rintro (_ | ⟨here, later⟩)
        rw [pairValue?_eq_some_iff.2 here, pairValues?_eq_some_iff.2 later]

/-! ## Colors -/

/-- A text is one to four pairs, perhaps after one number sign. -/
def IsWritten (writes : Char → Char → Nat → Prop) (text : String) (bytes : List Nat) : Prop :=
  ∃ digits, (text.toList = digits ∨ text.toList = '#' :: digits) ∧
    Pairs writes digits bytes ∧ 1 ≤ bytes.length ∧ bytes.length ≤ 4

/-- The color with some channels on a scale of 255. One that is missing is zero, except that a
missing opacity is full. -/
def inTurn (bytes : List Nat) : Rgba :=
  let part (i : Nat) (missing : Float) : Float :=
    (bytes[i]?.map fun byte => Float.ofNat byte / 255.0).getD missing
  ⟨part 0 0.0, part 1 0.0, part 2 0.0, part 3 1.0⟩

theorem channel_getD (bytes : List Nat) (i missing : Nat) :
    channel (bytes.getD i missing) =
      (bytes[i]?.map fun byte => Float.ofNat byte / 255.0).getD (channel missing) := by
  rw [List.getD_eq_getElem?_getD]
  cases bytes[i]? <;> rfl

theorem ofChannels_eq (bytes : List Nat) : ofChannels bytes = inTurn bytes := by
  have zero : channel 0 = 0.0 := by decide +kernel
  have full : channel 255 = 1.0 := by decide +kernel
  unfold ofChannels
  dsimp only
  rw [channel_getD, channel_getD, channel_getD, channel_getD, zero, full]
  rfl

/-- What stands after the number sign of a text, or the whole text if it has none. -/
def afterSign : List Char → List Char
  | '#' :: rest => rest
  | digits => digits

theorem afterSign_cases (text : List Char) :
    text = afterSign text ∨ text = '#' :: afterSign text := by
  unfold afterSign
  split
  · exact .inr rfl
  · exact .inl rfl

/-- No pair begins with a number sign, so the pairs of a text are those after the sign. -/
theorem afterSign_of_isWritten {text : String} {bytes : List Nat}
    (written : IsWritten IsPair text bytes) :
    Pairs IsPair (afterSign text.toList) bytes ∧ 1 ≤ bytes.length ∧ bytes.length ≤ 4 := by
  obtain ⟨digits, shape, pairs, many⟩ := written
  refine ⟨?_, many⟩
  rcases shape with bare | signed
  · rw [bare]
    cases pairs with
    | nil => exact .nil
    | @cons first second value rest values here later =>
      have notSign : first ≠ '#' := by
        rintro rfl
        rcases here with ⟨high, low, digit, -⟩ | ⟨same, -⟩
        · exact not_isHexDigit_of_none (by decide) high digit
        · cases same
      have whole : afterSign (first :: second :: rest) = first :: second :: rest := by
        simp [afterSign, notSign]
      rw [whole]
      exact .cons here later
  · rw [signed]
    exact pairs

theorem read?_eq (text : String) :
    read? text = (pairValues? (afterSign text.toList)).bind fun bytes =>
      if 1 ≤ bytes.length && bytes.length ≤ 4 then some (ofChannels bytes) else none := by
  unfold read?
  dsimp only
  split
  case h_1 bytes found =>
    have found : pairValues? (afterSign text.toList) = some bytes := found
    rw [found, Option.bind_some]
  case h_2 missed =>
    have missed : pairValues? (afterSign text.toList) = none := missed
    rw [missed, Option.bind_none]

theorem read?_eq_some_iff {text : String} {color : Rgba} :
    read? text = some color ↔ ∃ bytes, IsWritten IsPair text bytes ∧ color = inTurn bytes := by
  rw [read?_eq, Option.bind_eq_some_iff]
  constructor
  · rintro ⟨bytes, pairs, read⟩
    split at read
    case isTrue many =>
      cases read
      simp only [Bool.and_eq_true, decide_eq_true_eq] at many
      exact ⟨bytes, ⟨_, afterSign_cases text.toList, pairValues?_eq_some_iff.1 pairs, many⟩,
        ofChannels_eq bytes⟩
    case isFalse => cases read
  · rintro ⟨bytes, written, rfl⟩
    obtain ⟨pairs, many⟩ := afterSign_of_isWritten written
    refine ⟨bytes, pairValues?_eq_some_iff.2 pairs, ?_⟩
    rw [if_pos (by simpa using many), ofChannels_eq]

/-- Without plus signs, pairs are pairs of digits. -/
theorem isWritten_iff_of_plain {text : String} (plain : '+' ∉ text.toList) (bytes : List Nat) :
    IsWritten IsPair text bytes ↔ IsWritten IsHexPair text bytes := by
  constructor
  · rintro ⟨digits, shape, pairs, many⟩
    refine ⟨digits, shape, pairs.mono fun first second value member => ?_, many⟩
    have standing : first ∈ text.toList := by
      rcases shape with bare | signed
      · exact bare ▸ member
      · exact signed ▸ List.mem_cons_of_mem _ member
    rintro (pair | ⟨rfl, -⟩)
    · exact pair
    · exact absurd standing plain
  · rintro ⟨digits, shape, pairs, many⟩
    exact ⟨digits, shape, pairs.mono fun _ _ _ _ pair => .inl pair, many⟩

end Rgba

namespace Construction

open Figure Markup Rgba

theorem color_eq_ok_iff {text : String} {color : Rgba} :
    Palette.color text = .ok color ↔ read? text = some color := by
  unfold Palette.color
  cases read? text <;> simp

/-- A color is read from one to four pairs of digits to base sixteen, perhaps after one number
sign, where a plus sign may stand for the first digit of a pair; without plus signs these are the
hexadecimal colors. Every other text is refused as it was given, also where it is asked for in a
declaration. -/
theorem color_outcome {α : Type} (text : String) :
    (∀ color, Palette.color text = .ok color ↔
      ∃ bytes, IsWritten IsPair text bytes ∧ color = inTurn bytes) ∧
    ('+' ∉ text.toList → ∀ color, Palette.color text = .ok color ↔
      ∃ bytes, IsWritten IsHexPair text bytes ∧ color = inTurn bytes) ∧
    ((¬ ∃ bytes, IsWritten IsPair text bytes) →
      Palette.color text = .error (.invalidColor text) ∧
      ∀ (declaration : Declaration) (main : EntityRef) (others : List EntityRef)
        (registry : Registry α), declaration.argument? "color" = some text →
          paint declaration (.ok (main :: others), registry) =
            (.error (.invalidColor text), registry)) := by
  refine ⟨fun color => ?_, fun plain color => ?_, fun unwritten => ?_⟩
  · rw [color_eq_ok_iff, read?_eq_some_iff]
  · simp only [color_eq_ok_iff, read?_eq_some_iff, isWritten_iff_of_plain plain]
  · have refused : read? text = none := by
      rw [Option.eq_none_iff_forall_ne_some]
      intro color read
      obtain ⟨bytes, written, -⟩ := read?_eq_some_iff.1 read
      exact unwritten ⟨bytes, written⟩
    refine ⟨?_, fun declaration main others registry asked => ?_⟩
    · rw [Palette.color, refused]
    · simp only [paint, asked, refused]

/-- Six digits give an opaque color, and a plus sign passes for a digit. -/
theorem color_outcome_opaque :
    '+' ∉ "#ff8800".toList ∧
      Palette.color "#ff8800" = .ok (inTurn [255, 136, 0]) ∧
      (∃ bytes, IsWritten IsHexPair "#ff8800" bytes) ∧
      Palette.color "+f" = .ok (inTurn [15]) := by
  have plain : '+' ∉ "#ff8800".toList := by decide
  have written : IsWritten IsHexPair "#ff8800" [255, 136, 0] := by
    refine ⟨['f', 'f', '8', '8', '0', '0'], .inr (by decide), ?_, by decide⟩
    exact .cons ⟨15, 15, by decide⟩ (.cons ⟨8, 8, by decide⟩ (.cons ⟨0, 0, by decide⟩ .nil))
  have signed : IsWritten IsPair "+f" [15] :=
    ⟨['+', 'f'], .inl (by decide), .cons (.inr ⟨rfl, by decide⟩) .nil, by decide⟩
  have ⟨_, plainly, _⟩ := color_outcome (α := Float) "#ff8800"
  have ⟨read, _, _⟩ := color_outcome (α := Float) "+f"
  exact ⟨plain, (plainly plain _).2 ⟨_, written, rfl⟩, ⟨_, written⟩, (read _).2 ⟨_, signed, rfl⟩⟩

end Construction

end FigureMarkup
