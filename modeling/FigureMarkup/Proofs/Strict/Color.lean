import FigureMarkup.Color.Palette
import FigureMarkup.Proofs.Text.Places
import Mathlib.Data.List.Basic

/-!
# Strict operations on colors

A color is read from pairs of digits, each of which is cut from the text by its place. The cut has
no result if a place lies beyond the text or within a character. Only text of narrow characters and
of even size is cut at all, so every cut has a result, whatever the text is. A palette that is read
in this way has a cycle of colors, so there is always a next one.
-/

namespace FigureMarkup.Strict

open Text

/-- Collecting results over a list has a result if there is one for every member. -/
theorem mapM_eq {β γ : Type} {read : β → Option γ} {result : β → γ} {items : List β}
    (reads : ∀ item ∈ items, read item = some (result item)) :
    items.mapM read = some (items.map result) := by
  induction items with
  | nil => rfl
  | cons item items ih =>
      rw [List.mapM_cons, reads item List.mem_cons_self,
        ih fun other member => reads other (List.mem_cons_of_mem item member)]
      rfl

/-! ## Narrow text -/

def isNarrow (c : Char) : Bool := c.utf8Size = 1

theorem byteLength_of_narrow {text : List Char} (narrow : text.all isNarrow = true) :
    byteLength text = text.length := by
  induction text with
  | nil => rfl
  | cons c rest ih =>
      rw [List.all_cons, Bool.and_eq_true, isNarrow, decide_eq_true_eq] at narrow
      rw [byteLength_cons, narrow.1, ih narrow.2, List.length_cons, Nat.add_comm]

/-- Text of narrow characters can be cut everywhere. -/
theorem slice_of_narrow {text : List Char} (narrow : text.all isNarrow = true) {start size : Nat}
    (inside : start + size ≤ text.length) :
    slice text ⟨start, start + size⟩ = some ((text.drop start).take size) := by
  have whole : text.take start ++ (text.drop start).take size ++ (text.drop start).drop size =
      text := by
    rw [List.append_assoc, List.take_append_drop, List.take_append_drop]
  rw [← whole, List.all_append, List.all_append, Bool.and_eq_true, Bool.and_eq_true] at narrow
  have cut := slice_append (text.take start) ((text.drop start).take size)
    ((text.drop start).drop size)
  rwa [whole, byteLength_append, byteLength_of_narrow narrow.1.1, byteLength_of_narrow narrow.1.2,
    List.length_take, List.length_take, List.length_drop, Nat.min_eq_left (by omega),
    Nat.min_eq_left (by omega)] at cut

/-! ## Reading colors -/

def pairValue : List Char → Option Nat
  | [first, second] => Rgba.pairValue? first second
  | _ => none

/-- The pairs of a text, cut from it one after another. -/
def pairs (digits : List Char) : Option (List (List Char)) :=
  (List.range (byteLength digits / 2)).mapM fun i => slice digits ⟨2 * i, 2 * i + 2⟩

/-- Read digits. They are cut into pairs only if there are one to four pairs of them and if no
character is wide. -/
def readDigits (digits : List Char) : Option (Option Rgba) :=
  let size := byteLength digits
  if size = 0 ∨ 8 < size ∨ size % 2 ≠ 0 ∨ digits.all isNarrow = false then
    some none
  else
    (pairs digits).map fun pairs => (pairs.mapM pairValue).map Rgba.ofChannels

def readColor (text : String) : Option (Option Rgba) :=
  readDigits <|
    match text.toList with
    | '#' :: rest => rest
    | digits => digits

theorem pairs_of_narrow {digits : List Char} (narrow : digits.all isNarrow = true) :
    pairs digits =
      some ((List.range (digits.length / 2)).map fun i => (digits.drop (2 * i)).take 2) := by
  rw [pairs, byteLength_of_narrow narrow]
  refine mapM_eq fun i member => slice_of_narrow narrow ?_
  have below := List.mem_range.1 member
  omega

theorem mapM_pairValue : (digits : List Char) → digits.length % 2 = 0 →
    ((List.range (digits.length / 2)).map fun i => (digits.drop (2 * i)).take 2).mapM pairValue =
      Rgba.pairValues? digits
  | [], _ => rfl
  | [_], odd => nomatch odd
  | first :: second :: rest, even => by
      rw [List.length_cons, List.length_cons] at even
      have later := mapM_pairValue rest (by omega)
      have more : (first :: second :: rest).length / 2 = rest.length / 2 + 1 := by
        rw [List.length_cons, List.length_cons]
        omega
      have shifted : (List.range (rest.length / 2)).map
          ((fun i => ((first :: second :: rest).drop (2 * i)).take 2) ∘ Nat.succ) =
          (List.range (rest.length / 2)).map fun i => (rest.drop (2 * i)).take 2 :=
        List.map_congr_left fun i _ => by simp [Nat.mul_add]
      rw [more, List.range_succ_eq_map, List.map_cons, List.map_map, shifted, List.mapM_cons,
        later, Rgba.pairValues?]
      cases value : Rgba.pairValue? first second with
      | none => simp [pairValue, value]
      | some value =>
          cases Rgba.pairValues? rest <;> simp [pairValue, value]

theorem isNarrow_of_le {c last : Char} (low : last.toNat ≤ 127) (below : c ≤ last) :
    isNarrow c = true :=
  decide_eq_true (Char.utf8Size_eq_one_iff.2 (UInt32.le_trans below low))

theorem isNarrow_of_hexValue? {c : Char} {value : Nat} (read : hexValue? c = some value) :
    isNarrow c = true := by
  unfold hexValue? at read
  split at read
  case isTrue digit =>
    have below : c ≤ '9' := of_decide_eq_true (Bool.and_eq_true_iff.1 digit).2
    exact isNarrow_of_le (by decide) below
  case isFalse =>
    split at read
    case isTrue letter =>
      exact isNarrow_of_le (by decide) (of_decide_eq_true (Bool.and_eq_true_iff.1 letter).2)
    case isFalse =>
      split at read
      case isTrue letter =>
        exact isNarrow_of_le (by decide) (of_decide_eq_true (Bool.and_eq_true_iff.1 letter).2)
      case isFalse => cases read

theorem narrow_of_pairValue? {first second : Char} {value : Nat}
    (read : Rgba.pairValue? first second = some value) :
    isNarrow first = true ∧ isNarrow second = true := by
  unfold Rgba.pairValue? at read
  split at read
  case isTrue plus => exact ⟨by rw [plus]; decide, isNarrow_of_hexValue? read⟩
  case isFalse =>
    cases high : hexValue? first with
    | none => simp [high] at read
    | some _ =>
        cases low : hexValue? second with
        | none => simp [high, low] at read
        | some _ => exact ⟨isNarrow_of_hexValue? high, isNarrow_of_hexValue? low⟩

/-- Only narrow characters form pairs. -/
theorem narrow_of_pairValues? : {digits : List Char} → {bytes : List Nat} →
    Rgba.pairValues? digits = some bytes →
      digits.all isNarrow = true ∧ digits.length = 2 * bytes.length
  | [], bytes, read => by
      cases read
      exact ⟨rfl, rfl⟩
  | [_], bytes, read => nomatch read
  | first :: second :: rest, bytes, read => by
      rw [Rgba.pairValues?] at read
      cases here : Rgba.pairValue? first second with
      | none => simp [here] at read
      | some value =>
          cases later : Rgba.pairValues? rest with
          | none => simp [here, later] at read
          | some values =>
              obtain rfl : value :: values = bytes := by simpa [here, later] using read
              have ⟨narrowFirst, narrowSecond⟩ := narrow_of_pairValue? here
              have ⟨narrow, size⟩ := narrow_of_pairValues? later
              simp [narrowFirst, narrowSecond, narrow, size]
              omega

theorem readDigits_eq (digits : List Char) :
    readDigits digits =
      some (match Rgba.pairValues? digits with
        | some bytes =>
            if 1 ≤ bytes.length && bytes.length ≤ 4 then some (.ofChannels bytes) else none
        | none => none) := by
  unfold readDigits
  dsimp only
  split
  case isTrue refused =>
    cases read : Rgba.pairValues? digits with
    | none => rfl
    | some bytes =>
        have ⟨narrow, size⟩ := narrow_of_pairValues? read
        have many : ¬ (1 ≤ bytes.length ∧ bytes.length ≤ 4) := by
          rw [byteLength_of_narrow narrow, size] at refused
          simp only [narrow, Bool.true_eq_false, or_false] at refused
          omega
        simp [many]
  case isFalse kept =>
    simp only [not_or, Bool.not_eq_false] at kept
    obtain ⟨nonempty, few, even, narrow⟩ := kept
    rw [byteLength_of_narrow narrow] at nonempty few even
    rw [pairs_of_narrow narrow, Option.map_some, mapM_pairValue digits (by omega)]
    cases read : Rgba.pairValues? digits with
    | none => rfl
    | some bytes =>
        have size := (narrow_of_pairValues? read).2
        have many : 1 ≤ bytes.length ∧ bytes.length ≤ 4 := by omega
        simp [many]

/-- Reading a color always has a result, and it is the usual one. -/
theorem readColor_eq (text : String) : readColor text = some (Rgba.read? text) :=
  readDigits_eq _

/-! ## Palettes -/

def paletteColor (text : String) : Option (Except PaletteError Rgba) :=
  (readColor text).map fun
    | some color => .ok color
    | none => .error (.invalidColor text)

def paletteOfEntries (entries : Palette.Entries) : Option (Except PaletteError Palette) := do
  let cycle ← entries.cycle.mapM paletteColor
  let point ← paletteColor entries.point
  let circle ← paletteColor entries.circle
  return match cycle.mapM id with
    | .error error => .error error
    | .ok [] => .error .emptyCycle
    | .ok (first :: rest) => do
        let point ← point
        let circle ← circle
        return ⟨entries.name, point, circle, first :: rest, List.cons_ne_nil first rest⟩

def readPalette (text : String) : Option (Except PaletteError Palette) :=
  match (Toml.readDocument text).bind Palette.entries? with
  | some entries => paletteOfEntries entries
  | none => some (.error .malformed)

/-- The next color, taken from a cycle that has one at its place. -/
def nextColor (colors : ColorCycle) : Option Rgba :=
  let cycle := colors.palette.cycle
  if cycle.length = 0 then none else cycle[colors.next % cycle.length]?

theorem paletteColor_eq (text : String) : paletteColor text = some (Palette.color text) := by
  unfold paletteColor Palette.color
  cases read : Rgba.read? text with
  | none => simp [readColor_eq, read]
  | some color => simp [readColor_eq, read]

theorem paletteOfEntries_eq (entries : Palette.Entries) :
    paletteOfEntries entries = some (Palette.ofEntries entries) := by
  have colors : entries.cycle.mapM paletteColor = some (entries.cycle.map Palette.color) :=
    mapM_eq fun text _ => paletteColor_eq text
  unfold paletteOfEntries Palette.ofEntries
  rcases cycle : entries.cycle.mapM Palette.color with error | _ | ⟨first, rest⟩
  · simp [colors, paletteColor_eq, cycle]
  · simp [colors, paletteColor_eq, cycle]
  · simp [colors, paletteColor_eq, cycle]

/-- Reading a palette always has a result, and it is the usual one. -/
theorem readPalette_eq (text : String) : readPalette text = some (Palette.read text) := by
  unfold readPalette Palette.read
  cases (Toml.readDocument text).bind Palette.entries? with
  | none => rfl
  | some entries => exact paletteOfEntries_eq entries

theorem nextColor_eq (colors : ColorCycle) : nextColor colors = some colors.color := by
  have nonzero : colors.palette.cycle.length ≠ 0 := fun zero =>
    colors.palette.cycle_ne_nil (List.length_eq_zero_iff.1 zero)
  rw [nextColor, if_neg nonzero, ColorCycle.color, List.getElem?_eq_getElem]
  rfl

end FigureMarkup.Strict
