import FigureMarkup.Proofs.Decimal.Characters
import FigureMarkup.Proofs.Json.Reader
import FigureMarkup.Proofs.Random.Doubles

/-!
# Numbers in JSON text

Every finite double is written as a number of JSON. The shortest decimal of a double other than
zero is not zero either, so its digits start with no zero, and each layout puts them where the
grammar wants a whole number, a fraction and an exponent. Text of this grammar has a value.
-/

namespace FigureMarkup

open Decimal Text

/-! ## Digits -/

namespace Decimal

theorem digitText_ne_nil (n : Nat) : digitText n ≠ [] := Nat.toDigits_ne_nil

theorem head?_digitText_ne_zero {n : Nat} (positive : 0 < n) : (digitText n).head? ≠ some '0' := by
  unfold digitText
  induction n using Nat.strongRecOn with
  | ind n ih =>
      by_cases small : n < 10
      · have digits : ∀ digit < 10, 0 < digit → [Nat.digitChar digit].head? ≠ some '0' := by decide
        rw [Nat.toDigits_of_lt_base small]
        exact digits n small positive
      · have shorter := ih (n / 10) (by omega) (by omega)
        rw [Nat.toDigits_of_base_le (by decide) (by omega), List.head?_append]
        cases first : (Nat.toDigits 10 (n / 10)).head? with
        | none => exact absurd (List.head?_eq_none_iff.1 first) Nat.toDigits_ne_nil
        | some c => rwa [first] at shorter

/-! ## The shortest decimal -/

theorem positivePower_pos {base : Nat} (positive : 0 < base) (exponent : Int) :
    0 < positivePower base exponent :=
  Nat.pow_pos positive

/-- Zero does not read back as a double of another value. -/
theorem holds_zero {significand unit : Nat} (exponent : Int) (step : Nat)
    (positive : 0 < significand) (unitPositive : 0 < unit) :
    (RoundingInterval.of significand exponent).holds unit step 0 = false := by
  have low : 0 < (RoundingInterval.of significand exponent).low := by
    unfold RoundingInterval.of
    dsimp only
    split <;> omega
  have bound := Nat.mul_pos low unitPositive
  unfold RoundingInterval.holds
  rw [Nat.zero_mul]
  split
  all_goals
    simp only [Bool.and_eq_false_iff, decide_eq_false_iff_not]
    exact .inl (by omega)

theorem le_nearer (tie : Tie) (middle step below : Nat) : below ≤ nearer tie middle step below := by
  unfold nearer
  dsimp only
  split
  · exact Nat.le_refl _
  · split
    · exact Nat.le_succ _
    · cases tie with
      | toEven =>
          dsimp only
          split <;> omega
      | away => exact Nat.le_succ _

theorem pos_of_decimalAt? {tie : Tie} {significand : Nat} {exponent place : Int} {value : Nat}
    (positive : 0 < significand) (found : decimalAt? tie significand exponent place = some value) :
    0 < value := by
  unfold decimalAt? at found
  dsimp only at found
  generalize size : positivePower 2 (exponent - 2) * positivePower 10 (-place) = unit at found
  generalize positivePower 2 (2 - exponent) * positivePower 10 place = step at found
  generalize (RoundingInterval.of significand exponent).middle * unit = middle at found
  have unitPositive : 0 < unit :=
    size ▸ Nat.mul_pos (positivePower_pos (by decide) _) (positivePower_pos (by decide) _)
  -- The lower neighbour is only taken if it reads back, and then it is not zero.
  have above : (RoundingInterval.of significand exponent).holds unit step (middle / step) = true →
      0 < middle / step := by
    intro holds
    refine Nat.pos_of_ne_zero fun zero => ?_
    rw [zero, holds_zero exponent step positive unitPositive] at holds
    cases holds
  cases lower : (RoundingInterval.of significand exponent).holds unit step (middle / step) with
  | true =>
    have positive := above lower
    cases upper :
        (RoundingInterval.of significand exponent).holds unit step (middle / step + 1) with
    | true =>
        obtain rfl : nearer tie middle step (middle / step) = value := by
          simpa [lower, upper] using found
        exact Nat.lt_of_lt_of_le positive (le_nearer _ _ _ _)
    | false =>
        obtain rfl : middle / step = value := by simpa [lower, upper] using found
        exact positive
  | false =>
    cases upper :
        (RoundingInterval.of significand exponent).holds unit step (middle / step + 1) with
    | true =>
        obtain rfl : middle / step + 1 = value := by simpa [lower, upper] using found
        exact Nat.succ_pos _
    | false => simp [lower, upper] at found

theorem Digits.trimZeros_pos (places : Nat) {digits : Digits} (positive : 0 < digits.value) :
    0 < (digits.trimZeros places).value := by
  induction places generalizing digits with
  | zero => exact positive
  | succ places ih =>
      unfold trimZeros
      split
      · exact ih (show 0 < digits.value / 10 by omega)
      · exact positive

theorem shortest_pos (tie : Tie) {significand : Nat} (exponent : Int)
    (positive : 0 < significand) : 0 < (shortest tie significand exponent).value := by
  unfold shortest
  refine Digits.trimZeros_pos _ ?_
  generalize search : List.findSome? _ _ = found
  cases found with
  | none => exact positive
  | some digits =>
      obtain ⟨count, -, hit⟩ := List.exists_of_findSome?_eq_some search
      obtain ⟨value, found, rfl⟩ := Option.map_eq_some_iff.1 hit
      exact pos_of_decimalAt? positive found

/-! ## Finite doubles -/

open Float.Model FigureMarkup.Random in
theorem magnitude_ofFloat {x : Float} (finite : x.isFinite = true) :
    ∃ significand exponent, (Binary.ofFloat x).magnitude = .finite significand exponent := by
  have fields := fields_unpack x.toModel.toBits.toBitVec
  have rest : exponentField x.toModel.toBits.toBitVec ≠ 2047 := by
    have finite :
        (UnpackedFloat.unpack Format.binary64 x.toModel.toBits.toBitVec).isFinite = true := finite
    generalize UnpackedFloat.unpack Format.binary64 x.toModel.toBits.toBitVec = number
      at fields finite
    cases fields with
    | special _ infinite =>
        rw [infinite] at finite
        cases finite
    | zero _ empty =>
        unfold exponentField
        omega
    | subnormal _ _ empty => omega
    | normal _ _ _ rest => omega
  have biased : x.toBits.toNat / leadingBit % 2048 ≠ 2047 := rest
  unfold Binary.ofFloat Binary.ofBits
  dsimp only
  rw [if_neg biased]
  split
  · exact ⟨_, _, rfl⟩
  · exact ⟨_, _, rfl⟩

end Decimal

/-! ## The grammar -/

namespace Json

/-- Digits at the start of text end where something else starts. -/
theorem span_digits {digits ending : List Char} (all : ∀ c ∈ digits, c.isDigit = true)
    (stops : ∀ c ∈ ending.head?, c.isDigit = false) :
    (digits ++ ending).takeWhile Char.isDigit = digits ∧
      (digits ++ ending).dropWhile Char.isDigit = ending := by
  rw [List.takeWhile_append_of_pos all, List.dropWhile_append_of_pos all]
  cases ending with
  | nil => exact ⟨List.append_nil _, rfl⟩
  | cons c rest =>
      have stop := stops c rfl
      rw [List.takeWhile_cons_of_neg (by simp [stop]), List.dropWhile_cons_of_neg (by simp [stop])]
      exact ⟨List.append_nil _, rfl⟩

/-- An exponent is missing, or a letter, perhaps a sign, and digits. -/
theorem readExponent?_cases {text : List Char} (correct : (readExponent? text).isSome = true) :
    text = [] ∨ ∃ letter rest, text = letter :: rest ∧ (letter = 'e' ∨ letter = 'E') ∧
      ∀ c ∈ (takeSign rest).2, c.isDigit = true := by
  cases text with
  | nil => exact .inl rfl
  | cons letter rest =>
      simp only [readExponent?] at correct
      split at correct
      case isTrue letters =>
        split at correct
        case isTrue digits =>
          have letters := (Bool.or_eq_true_iff.1 letters).imp of_decide_eq_true of_decide_eq_true
          have digits := List.all_eq_true.1 (Bool.and_eq_true_iff.1 digits).2
          exact .inr ⟨letter, rest, rfl, letters, digits⟩
        case isFalse => cases correct
      case isFalse => cases correct

theorem not_isDigit_of_readExponent? {text : List Char}
    (correct : (readExponent? text).isSome = true) : ∀ c ∈ text.head?, c.isDigit = false := by
  intro c first
  rcases readExponent?_cases correct with rfl | ⟨letter, rest, rfl, rfl | rfl, -⟩
  · cases first
  · cases first
    rfl
  · cases first
    rfl

/-- Text ends with an exponent or nothing, either after a point and its digits or at once. -/
theorem isEnding_cases {text : List Char} (correct : isEnding text = true) :
    (∃ rest, text = '.' :: rest ∧ (readExponent? (rest.dropWhile Char.isDigit)).isSome = true) ∨
      ((∀ rest, text ≠ '.' :: rest) ∧ (readExponent? text).isSome = true) := by
  unfold isEnding at correct
  split at correct
  case h_1 rest => exact .inl ⟨rest, rfl, (Bool.and_eq_true_iff.1 correct).2⟩
  case h_2 noPoint => exact .inr ⟨noPoint, correct⟩

theorem not_isDigit_of_isEnding {ending : List Char} (correct : isEnding ending = true) :
    ∀ c ∈ ending.head?, c.isDigit = false := by
  rcases isEnding_cases correct with ⟨rest, rfl, -⟩ | ⟨-, exponent⟩
  · intro c first
    cases first
    rfl
  · exact not_isDigit_of_readExponent? exponent

theorem isUnsigned_append {digits ending : List Char} (all : ∀ c ∈ digits, c.isDigit = true)
    (whole : isWhole digits = true) (correct : isEnding ending = true) :
    isUnsigned (digits ++ ending) = true := by
  obtain ⟨taken, dropped⟩ := span_digits all (not_isDigit_of_isEnding correct)
  rw [isUnsigned, taken, dropped, whole, correct]
  rfl

theorem isEnding_point {fraction exponent : List Char} (all : ∀ c ∈ fraction, c.isDigit = true)
    (filled : fraction ≠ []) (correct : (readExponent? exponent).isSome = true) :
    isEnding ('.' :: (fraction ++ exponent)) = true := by
  obtain ⟨taken, dropped⟩ := span_digits all (not_isDigit_of_readExponent? correct)
  rw [isEnding, taken, dropped, correct, Bool.and_true, Bool.not_eq_true',
    List.isEmpty_eq_false_iff]
  exact filled

theorem isEnding_fraction {fraction : List Char} (all : ∀ c ∈ fraction, c.isDigit = true)
    (filled : fraction ≠ []) : isEnding ('.' :: fraction) = true := by
  rw [← List.append_nil fraction]
  exact isEnding_point all filled rfl

/-- Digits that could be those of a positive number. -/
structure Leads (digits : List Char) : Prop where
  all : ∀ c ∈ digits, c.isDigit = true
  filled : digits ≠ []
  head : digits.head? ≠ some '0'

theorem Leads.isWhole {digits : List Char} (leads : Leads digits) : isWhole digits = true := by
  unfold Json.isWhole
  rw [Bool.or_eq_true, Bool.and_eq_true, Bool.not_eq_true', List.isEmpty_eq_false_iff,
    bne_iff_ne]
  exact .inr ⟨leads.filled, leads.head⟩

theorem Leads.append {digits more : List Char} (leads : Leads digits)
    (all : ∀ c ∈ more, c.isDigit = true) : Leads (digits ++ more) where
  all c member := (List.mem_append.1 member).elim (leads.all c) (all c)
  filled := List.append_ne_nil_of_left_ne_nil leads.filled more
  head := by
    obtain ⟨first, rest, rfl⟩ := List.exists_cons_of_ne_nil leads.filled
    exact leads.head

theorem Leads.take {digits : List Char} (leads : Leads digits) {count : Nat}
    (positive : 0 < count) :
    Leads (digits.take count) where
  all c member := leads.all c (List.mem_of_mem_take member)
  filled := by
    obtain ⟨first, rest, rfl⟩ := List.exists_cons_of_ne_nil leads.filled
    obtain ⟨count, rfl⟩ := Nat.exists_eq_succ_of_ne_zero positive.ne'
    exact List.cons_ne_nil _ _
  head := by
    rw [List.head?_take, if_neg positive.ne']
    exact leads.head

theorem leads_digitText {n : Nat} (positive : 0 < n) : Leads (digitText n) where
  all _ := isDigit_of_mem_digitText
  filled := digitText_ne_nil n
  head := head?_digitText_ne_zero positive

/-! ## Layouts -/

theorem isUnsigned_positional {digits : List Char} (leads : Leads digits) (whole : Int) :
    isUnsigned (positional numberStyle digits whole).toList = true := by
  unfold positional
  split
  case isTrue below =>
    rw [String.toList_append, String.toList_ofList, String.toList_ofList]
    have zero : ∀ c ∈ ['0'], c.isDigit = true := List.forall_mem_singleton.2 rfl
    change isUnsigned (['0'] ++ '.' :: (List.replicate (-whole).toNat '0' ++ digits)) = true
    refine isUnsigned_append zero (by decide) (isEnding_fraction ?_ ?_)
    · exact fun c member => (List.mem_append.1 member).elim isDigit_of_mem_zeros (leads.all c)
    · exact List.append_ne_nil_of_right_ne_nil _ leads.filled
  case isFalse above =>
    split
    case isTrue long =>
      rw [String.toList_append, String.toList_ofList]
      have filled : Leads (digits ++ List.replicate (whole.toNat - digits.length) '0') :=
        leads.append fun _ => isDigit_of_mem_zeros
      exact isUnsigned_append filled.all filled.isWhole (by decide)
    case isFalse short =>
      have start : Leads (digits.take whole.toNat) := leads.take (by omega)
      have rest : digits.drop whole.toNat ≠ [] := by
        rw [ne_eq, List.drop_eq_nil_iff]
        omega
      rw [String.toList_append, String.toList_append, String.toList_ofList, String.toList_ofList,
        String.toList_ofList, List.append_assoc]
      refine isUnsigned_append start.all start.isWhole (isEnding_fraction ?_ rest)
      exact fun c member => leads.all c (List.mem_of_mem_drop member)

theorem readExponent?_digitText (sign : Char) (n : Nat) (allowed : sign = '-' ∨ sign = '+') :
    (readExponent? ('e' :: sign :: digitText n)).isSome = true := by
  have digits : (!(digitText n).isEmpty && (digitText n).all Char.isDigit) = true := by
    rw [Bool.and_eq_true, Bool.not_eq_true', List.isEmpty_eq_false_iff, List.all_eq_true]
    exact ⟨digitText_ne_nil n, fun _ => isDigit_of_mem_digitText⟩
  rcases allowed with rfl | rfl
  · simp [readExponent?, takeSign, digits]
  · simp [readExponent?, takeSign, digits]

theorem isUnsigned_scientific {digits : List Char} (leads : Leads digits) (exponent : Int) :
    isUnsigned (scientific digits exponent).toList = true := by
  obtain ⟨sign, allowed, written⟩ : ∃ sign, (sign = '-' ∨ sign = '+') ∧
      (if exponent < 0 then "e-" else "e+").toList = ['e', sign] := by
    split
    · exact ⟨'-', .inl rfl, rfl⟩
    · exact ⟨'+', .inr rfl, rfl⟩
  have tail := readExponent?_digitText sign exponent.natAbs allowed
  have first : Leads (digits.take 1) := leads.take (by decide)
  unfold scientific
  dsimp only
  rw [String.toList_append, String.toList_append, String.toList_append, String.toList_ofList,
    written, Nat.toString_eq_repr, Nat.toList_repr, List.append_assoc, List.append_assoc]
  refine isUnsigned_append first.all first.isWhole ?_
  split
  case isTrue => exact tail
  case isFalse more =>
    have more : digits.drop 1 ≠ [] := mt List.isEmpty_iff.2 more
    rw [String.toList_append, String.toList_ofList, String.toList_ofList]
    exact isEnding_point (fun c member => leads.all c (List.mem_of_mem_drop member)) more tail

theorem isUnsigned_renderMagnitude (significand : Nat) (exponent : Int) :
    isUnsigned (numberStyle.renderMagnitude (.finite significand exponent)).toList = true := by
  unfold Style.renderMagnitude
  dsimp only
  split
  case isTrue => decide
  case isFalse nonzero =>
    have leads := leads_digitText
      (shortest_pos numberStyle.tie exponent (Nat.pos_of_ne_zero nonzero))
    split
    · exact isUnsigned_positional leads _
    · exact isUnsigned_scientific leads _

theorem isNumber_of_isUnsigned {text : List Char} (correct : isUnsigned text = true) :
    isNumber text = true := by
  have same : withoutMinus text = text := by
    unfold withoutMinus
    split
    · cases correct
    · rfl
  rw [isNumber, same, correct]

theorem isNumber_numberText {x : Float} (finite : x.isFinite = true) :
    isNumber (numberText x).toList = true := by
  obtain ⟨significand, exponent, size⟩ := magnitude_ofFloat finite
  have correct := isUnsigned_renderMagnitude significand exponent
  rw [numberText, if_pos finite, Style.render, size]
  unfold signed
  split
  · rw [String.toList_append]
    exact correct
  · exact isNumber_of_isUnsigned correct

/-! ## Values -/

theorem filled_of_isWhole {digits : List Char} (whole : isWhole digits = true) : digits ≠ [] := by
  rintro rfl
  revert whole
  decide

theorem readDecimal?_of_isUnsigned (negative : Bool) {text : List Char}
    (correct : isUnsigned text = true) : (readDecimal? negative text).isSome = true := by
  obtain ⟨whole, ending⟩ := Bool.and_eq_true_iff.1 correct
  have filled : (text.takeWhile Char.isDigit).isEmpty = false :=
    List.isEmpty_eq_false_iff.2 (filled_of_isWhole whole)
  rcases isEnding_cases ending with ⟨rest, point, exponent⟩ | ⟨noPoint, exponent⟩
  · simp only [readDecimal?, point, filled, Bool.false_and, Option.isSome_map,
      if_neg Bool.false_ne_true, exponent]
  · unfold readDecimal?
    dsimp only
    split
    case h_1 point => exact absurd point (noPoint _)
    case h_2 =>
      rw [filled, Bool.false_and, if_neg Bool.false_ne_true, Option.isSome_map]
      exact exponent

/-- A number has no plus sign. -/
theorem takeSign_of_isNumber {text : List Char} (correct : isNumber text = true) :
    (takeSign text).2 = withoutMinus text := by
  unfold takeSign
  split
  case h_1 => rfl
  case h_2 => cases correct
  case h_3 other _ =>
    unfold withoutMinus
    split
    case h_1 => exact absurd rfl (other _)
    case h_2 => rfl

/-- What is a number to JSON is one to the reader of numerals, which accepts more. -/
theorem read?_of_isNumber {text : List Char} (correct : isNumber text = true) :
    (Numeral.read? text).isSome = true := by
  have rest := takeSign_of_isNumber correct
  unfold Numeral.read?
  rw [isNumber, ← rest] at correct
  dsimp only
  split
  · rfl
  · split
    · rfl
    · exact readDecimal?_of_isUnsigned _ correct

theorem isPlain_of_isDigit {c : Char} (digit : c.isDigit = true) : isPlain c = true := by
  simp only [isPlain, Char.isAlphanum, digit, Bool.or_true, Bool.true_or]

theorem isPlain_of_takeSign {text : List Char}
    (plain : ∀ c ∈ (takeSign text).2, isPlain c = true) : ∀ c ∈ text, isPlain c = true := by
  unfold takeSign at plain
  split at plain
  · exact List.forall_mem_cons.2 ⟨rfl, plain⟩
  · exact List.forall_mem_cons.2 ⟨rfl, plain⟩
  · exact plain

theorem isPlain_of_readExponent? {text : List Char}
    (correct : (readExponent? text).isSome = true) : ∀ c ∈ text, isPlain c = true := by
  rcases readExponent?_cases correct with rfl | ⟨letter, rest, rfl, letters, digits⟩
  · exact List.forall_mem_nil _
  · have plain : isPlain letter = true := by rcases letters with rfl | rfl <;> rfl
    have later := isPlain_of_takeSign fun c member => isPlain_of_isDigit (digits c member)
    exact List.forall_mem_cons.2 ⟨plain, later⟩

/-- Text is plain if what follows its first digits is. -/
theorem isPlain_of_dropWhile {text : List Char}
    (plain : ∀ c ∈ text.dropWhile Char.isDigit, isPlain c = true) :
    ∀ c ∈ text, isPlain c = true := by
  intro c member
  rw [← List.takeWhile_append_dropWhile (p := Char.isDigit) (l := text)] at member
  rcases List.mem_append.1 member with digit | rest
  · exact isPlain_of_isDigit (List.mem_takeWhile_imp digit)
  · exact plain c rest

theorem isPlain_of_isEnding {text : List Char} (correct : isEnding text = true) :
    ∀ c ∈ text, isPlain c = true := by
  rcases isEnding_cases correct with ⟨rest, rfl, exponent⟩ | ⟨-, exponent⟩
  · have plain := isPlain_of_dropWhile (isPlain_of_readExponent? exponent)
    exact List.forall_mem_cons.2 ⟨rfl, plain⟩
  · exact isPlain_of_readExponent? exponent

theorem isPlain_of_isNumber {text : List Char} (correct : isNumber text = true) :
    ∀ c ∈ text, isPlain c = true := by
  have unsigned : ∀ c ∈ withoutMinus text, isPlain c = true :=
    isPlain_of_dropWhile (isPlain_of_isEnding (Bool.and_eq_true_iff.1 correct).2)
  unfold withoutMinus at unsigned
  split at unsigned
  · exact List.forall_mem_cons.2 ⟨rfl, unsigned⟩
  · exact unsigned

end Json

end FigureMarkup
