import FigureMarkup.Proofs.Json.Numbers

/-!
# Reading what was written

Reading the compact text of a value gives the value again. A number comes back as the double that
its decimal text says, and one that is not finite as `null`.
-/

namespace FigureMarkup.Json

open Decimal Text

/-- The number that its text is read as. -/
def readBackNumber (x : Float) : Float :=
  ((Numeral.read? (numberText x).toList).getD .nan).toFloat

mutual

/-- The value that its text is read as. -/
def readBack : Json → Json
  | .null => .null
  | .bool value => .bool value
  | .number x => if x.isFinite then .number (readBackNumber x) else .null
  | .string text => .string text
  | .array items => .array (readBackItems items)
  | .object members => .object (readBackMembers members)

def readBackItems : List Json → List Json
  | [] => []
  | item :: rest => item.readBack :: readBackItems rest

def readBackMembers : List (String × Json) → List (String × Json)
  | [] => []
  | (name, value) :: rest => (name, value.readBack) :: readBackMembers rest

end

/-! ## Tokens of written text -/

theorem scan?_cons {state next : Scan} {c : Char} {tokens : List Token}
    (step : state.next? c = some (tokens, next)) (rest : List Char) :
    scan? state (c :: rest) = (scan? next rest).map fun more => tokens ++ more := by
  rw [scan?, step, Option.bind_some]

theorem scan?_silent {state next : Scan} {c : Char} (step : state.next? c = some ([], next))
    (rest : List Char) : scan? state (c :: rest) = scan? next rest := by
  rw [scan?_cons step]
  exact Option.map_id'

theorem scan?_refused {state : Scan} {c : Char} (refused : state.next? c = none)
    (rest : List Char) : scan? state (c :: rest) = none := by
  rw [scan?, refused, Option.bind_none]

/-- Whatever follows cannot go on with a word. -/
def Ends (rest : List Char) : Prop := ∀ c ∈ rest.head?, isPlain c = false

theorem ends_cons {c : Char} (stop : isPlain c = false) (rest : List Char) : Ends (c :: rest) := by
  intro first head
  cases head
  exact stop

/-- An escape of one letter. -/
theorem scan?_escape (before : List Char) {letter c : Char} (stands : unescape? letter = some c)
    (short : letter ≠ 'u') (rest : List Char) :
    scan? (.string before none) ('\\' :: letter :: rest) =
      scan? (.string (before ++ [c]) none) rest := by
  have opening : (Scan.string before none).next? '\\' = some ([], .escape before none) := rfl
  have closing : (Scan.escape before none).next? letter =
      some ([], .string (before ++ [c]) none) := by
    simp [Scan.next?, short, stands]
  rw [scan?_silent opening, scan?_silent closing]

theorem next?_code {c : Char} {digit : Nat} (reads : hexValue? c = some digit)
    (before : List Char) (left value : Nat) :
    (Scan.code before none (left + 1) value).next? c =
      some ([], .code before none left (16 * value + digit)) := by
  rw [Scan.next?, reads]
  rfl

theorem next?_code_zero {c : Char} {digit : Nat} (reads : hexValue? c = some digit)
    (before : List Char) {value : Nat} (low : 16 * value + digit < 0xD800) :
    (Scan.code before none 0 value).next? c =
      some ([], .string (before ++ [Char.ofNat (16 * value + digit)]) none) := by
  have first : ¬ 0xD800 ≤ 16 * value + digit := by omega
  have second : ¬ 0xDC00 ≤ 16 * value + digit := by omega
  rw [Scan.next?, reads]
  simp [Scan.addUnit?, first, second]

/-- An escape by number, as it is written for control characters. -/
theorem scan?_code (before : List Char) {c : Char} (control : c.toNat < 0x20) (rest : List Char) :
    scan? (.string before none)
        ('\\' :: 'u' :: '0' :: '0' :: hexDigit (c.toNat / 16) :: hexDigit c.toNat :: rest) =
      scan? (.string (before ++ [c]) none) rest := by
  have opening : (Scan.string before none).next? '\\' = some ([], .escape before none) := rfl
  have letter : (Scan.escape before none).next? 'u' = some ([], .code before none 3 0) := rfl
  have zero : hexValue? '0' = some 0 := rfl
  have value : 16 * (16 * (16 * (16 * 0 + 0) + 0) + c.toNat / 16 % 16) + c.toNat % 16 =
      c.toNat := by
    omega
  have low : 16 * (16 * (16 * (16 * 0 + 0) + 0) + c.toNat / 16 % 16) + c.toNat % 16 < 0xD800 := by
    omega
  have last := next?_code_zero (hexValue?_hexDigit c.toNat) before low
  rw [scan?_silent opening, scan?_silent letter, scan?_silent (next?_code zero _ _ _),
    scan?_silent (next?_code zero _ _ _),
    scan?_silent (next?_code (hexValue?_hexDigit (c.toNat / 16)) _ _ _), scan?_silent last, value,
    Char.ofNat_toNat]

theorem scan?_escapeChar (before : List Char) (c : Char) (rest : List Char) :
    scan? (.string before none) (escapeChar c ++ rest) =
      scan? (.string (before ++ [c]) none) rest := by
  by_cases named : c ∈ ['"', '\\', '\x08', '\x0c', '\n', '\r', '\t']
  · -- Seven characters have an escape of their own.
    simp only [List.mem_cons, List.not_mem_nil, or_false] at named
    rcases named with rfl | rfl | rfl | rfl | rfl | rfl | rfl
    all_goals exact scan?_escape before rfl (by decide) rest
  · simp only [List.mem_cons, List.not_mem_nil, or_false, not_or] at named
    obtain ⟨noQuote, noBackslash, others⟩ := named
    by_cases control : c.toNat < 0x20
    · have written : escapeChar c =
          ['\\', 'u', '0', '0', hexDigit (c.toNat / 16), hexDigit c.toNat] := by
        simp [escapeChar, noQuote, noBackslash, others, control]
      rw [written]
      exact scan?_code before control rest
    · have written : escapeChar c = [c] := by
        simp [escapeChar, noQuote, noBackslash, others, control]
      have step : (Scan.string before none).next? c = some ([], .string (before ++ [c]) none) := by
        rw [Scan.next?, if_neg noQuote, if_neg noBackslash, if_neg control]
      rw [written]
      exact scan?_silent step rest

theorem scan?_quote (text : String) (rest : List Char) :
    scan? .between ((quote text).toList ++ rest) =
      (scan? .between rest).map fun more => .string text.toList :: more := by
  have inside (before : List Char) : scan? (.string before none)
      (text.toList.flatMap escapeChar ++ '"' :: rest) =
        (scan? .between rest).map fun more => .string (before ++ text.toList) :: more := by
    induction text.toList generalizing before with
    | nil =>
        have step : (Scan.string before none).next? '"' = some ([.string before], .between) := rfl
        rw [List.append_nil]
        exact scan?_cons step rest
    | cons c text ih =>
        rw [List.flatMap_cons, List.append_assoc, scan?_escapeChar, ih, List.append_assoc]
        rfl
  rw [quote, String.toList_ofList, List.cons_append, List.append_assoc]
  exact (scan?_silent rfl _).trans (inside [])

/-- A word ends at a character that cannot go on with it. -/
theorem next?_word_of_stop {c : Char} (stop : isPlain c = false) (before : List Char) :
    (Scan.word before).next? c =
      (Scan.between.next? c).map fun step => (.word before :: step.1, step.2) := by
  have stop : ¬ isPlain c = true := by
    rw [stop]
    exact Bool.false_ne_true
  exact if_neg stop

theorem scan?_word_append (before : List Char) {word rest : List Char}
    (plain : ∀ c ∈ word, isPlain c = true) (ends : Ends rest) :
    scan? (.word before) (word ++ rest) =
      (scan? .between rest).map fun more => .word (before ++ word) :: more := by
  induction word generalizing before with
  | nil =>
      cases rest with
      | nil =>
          simp only [List.append_nil, scan?]
          rfl
      | cons c rest =>
          have step := next?_word_of_stop (ends c rfl) before
          rw [List.nil_append, List.append_nil]
          cases start : Scan.between.next? c with
          | none =>
              rw [start] at step
              rw [scan?_refused step, scan?_refused start]
              rfl
          | some both =>
              rw [start] at step
              rw [scan?_cons step, scan?_cons start, Option.map_map]
              rfl
  | cons c word ih =>
      obtain ⟨first, later⟩ := List.forall_mem_cons.1 plain
      have step : (Scan.word before).next? c = some ([], .word (before ++ [c])) := if_pos first
      rw [List.cons_append, scan?_silent step, ih _ later, List.append_assoc]
      rfl

theorem scan?_word {word rest : List Char} (filled : word ≠ [])
    (plain : ∀ c ∈ word, isPlain c = true) (ends : Ends rest) :
    scan? .between (word ++ rest) = (scan? .between rest).map fun more => .word word :: more := by
  obtain ⟨c, word, rfl⟩ := List.exists_cons_of_ne_nil filled
  obtain ⟨first, later⟩ := List.forall_mem_cons.1 plain
  have noQuote : c ≠ '"' := by
    rintro rfl
    cases first
  have step : Scan.between.next? c = some ([], .word [c]) := by
    rw [Scan.next?, Scan.start?, if_neg noQuote, if_pos first]
  rw [List.cons_append, scan?_silent step, scan?_word_append [c] later ends]
  rfl

/-! ## Values of written text -/

theorem isPlain_numberText (x : Float) : (numberText x).toList.all isPlain = true := by
  by_cases finite : x.isFinite = true
  · exact List.all_eq_true.2 (isPlain_of_isNumber (isNumber_numberText finite))
  · rw [numberText, if_neg finite]
    decide

theorem readWord?_numberText (x : Float) :
    readWord? (numberText x).toList = some (readBack (.number x)) := by
  by_cases finite : x.isFinite = true
  · have correct := isNumber_numberText finite
    obtain ⟨numeral, read⟩ := Option.isSome_iff_exists.1 (read?_of_isNumber correct)
    have others (word : List Char) (noNumber : isNumber word = false) :
        (numberText x).toList ≠ word := by
      rintro rfl
      rw [noNumber] at correct
      cases correct
    rw [readWord?, if_neg (others _ (by decide)), if_neg (others _ (by decide)),
      if_neg (others _ (by decide)), readNumber?, if_pos correct, readBack, if_pos finite,
      readBackNumber, read]
    rfl
  · rw [numberText, if_neg finite, readBack, if_neg finite]
    rfl

namespace Reading

/-- Scanning on and reading on are done one token at a time. -/
theorem through_append {text rest : List Char} {token : Token}
    (scanned : scan? .between (text ++ rest) =
      (scan? .between rest).map fun more => token :: more) (reading : Reading) :
    reading.through (text ++ rest) = (reading.next? token).bind (·.through rest) := by
  unfold through
  rw [scanned]
  cases scan? .between rest with
  | none =>
      cases reading.next? token with
      | none => rfl
      | some _ => rfl
  | some tokens =>
      rw [Option.map_some, Option.bind_some, List.foldlM_cons]
      rfl

theorem through_mark {c : Char} {mark : Token}
    (stands : Scan.between.next? c = some ([mark], .between)) {reading next : Reading}
    (step : reading.next? mark = some next) (rest : List Char) :
    reading.through (c :: rest) = next.through rest := by
  have scanned : scan? .between ([c] ++ rest) =
      (scan? .between rest).map fun more => mark :: more := scan?_cons stands rest
  rw [← List.singleton_append, through_append scanned, step, Option.bind_some]

theorem through_quote {text : String} {reading next : Reading}
    (step : reading.next? (.string text.toList) = some next) (rest : List Char) :
    reading.through ((quote text).toList ++ rest) = next.through rest := by
  rw [through_append (scan?_quote text rest), step, Option.bind_some]

/-- A place that takes a value. -/
def Takes (reading : Reading) (frames : List Frame) : Prop :=
  ∀ token, token ≠ .endArray → reading.next? token = nextInValue? frames token

theorem takes_needsValue (frames : List Frame) : (needsValue frames).Takes frames :=
  fun _ _ => rfl

theorem takes_opensArray (frames : List Frame) :
    (opensArray frames).Takes (.array [] :: frames) :=
  fun _ inside => if_neg inside

theorem Takes.through_word {reading : Reading} {frames : List Frame}
    (takes : reading.Takes frames) {word rest : List Char} {value : Json}
    (plain : word.all isPlain = true) (reads : readWord? word = some value) (ends : Ends rest) :
    reading.through (word ++ rest) = (after value frames).through rest := by
  have filled : word ≠ [] := by
    rintro rfl
    cases reads
  have step := takes (.word word) nofun
  rw [nextInValue?, reads] at step
  rw [through_append (scan?_word filled (List.all_eq_true.1 plain) ends), step]
  rfl

/-- A place that takes the name of a member. -/
def TakesName (reading : Reading) (members : List (String × Json)) (frames : List Frame) : Prop :=
  ∀ name : String, reading.next? (.string name.toList) = some (.needsColon members name frames)

theorem takesName_needsName (members : List (String × Json)) (frames : List Frame) :
    (needsName members frames).TakesName members frames := by
  intro name
  rw [next?, nextInName?, String.ofList_toList]

theorem takesName_opensObject (frames : List Frame) : (opensObject frames).TakesName [] frames := by
  intro name
  rw [next?, if_neg nofun, nextInName?, String.ofList_toList]

theorem toList_items (item next : Json) (items : List Json) :
    (",".intercalate (compactItems (item :: next :: items))).toList =
      item.compact.toList ++ ',' :: (",".intercalate (compactItems (next :: items))).toList := by
  rw [compactItems, compactItems, String.intercalate_cons_cons, ← compactItems,
    String.toList_append, String.toList_append, List.append_assoc]
  rfl

theorem toList_member (name : String) (value : Json) :
    (quote name ++ ":" ++ value.compact).toList =
      (quote name).toList ++ ':' :: value.compact.toList := by
  rw [String.toList_append, String.toList_append, List.append_assoc]
  rfl

theorem toList_members (name : String) (value : Json) (next : String × Json)
    (members : List (String × Json)) :
    (",".intercalate (compactMembers ((name, value) :: next :: members))).toList =
      (quote name).toList ++ ':' :: (value.compact.toList ++
        ',' :: (",".intercalate (compactMembers (next :: members))).toList) := by
  rw [compactMembers, compactMembers, String.intercalate_cons_cons, ← compactMembers,
    String.toList_append, String.toList_append, toList_member, List.append_assoc, List.append_assoc]
  rfl

-- The recursion is that of `compact`. What was read of an array or object stands in the top frame,
-- so the statements about parts hold whatever came before them.
mutual

theorem through_compact : ∀ (json : Json) {reading : Reading} {frames : List Frame},
    reading.Takes frames → ∀ {rest : List Char}, Ends rest →
      reading.through (json.compact.toList ++ rest) = (after json.readBack frames).through rest
  | .null, reading, frames, takes, rest, ends => by
      rw [compact, readBack]
      exact takes.through_word (by decide) rfl ends
  | .bool value, reading, frames, takes, rest, ends => by
      rw [compact, readBack]
      cases value with
      | false => exact takes.through_word (by decide) rfl ends
      | true => exact takes.through_word (by decide) rfl ends
  | .number x, reading, frames, takes, rest, ends => by
      rw [compact]
      exact takes.through_word (isPlain_numberText x) (readWord?_numberText x) ends
  | .string text, reading, frames, takes, rest, ends => by
      have step := takes (.string text.toList) nofun
      rw [nextInValue?, String.ofList_toList] at step
      rw [compact, through_quote step, readBack]
  | .array items, reading, frames, takes, rest, ends => by
      have opening := takes .beginArray nofun
      rw [compact, readBack, enclose, String.toList_append, String.toList_append,
        List.append_assoc, List.append_assoc]
      refine (through_mark rfl opening _).trans ?_
      cases items with
      | nil => exact through_mark rfl rfl rest
      | cons item items =>
          exact through_items (item :: items) (List.cons_ne_nil _ _) (takes_opensArray frames) rest
  | .object members, reading, frames, takes, rest, ends => by
      have opening := takes .beginObject nofun
      rw [compact, readBack, enclose, String.toList_append, String.toList_append,
        List.append_assoc, List.append_assoc]
      refine (through_mark rfl opening _).trans ?_
      cases members with
      | nil => exact through_mark rfl rfl rest
      | cons member members =>
          exact through_members (member :: members) (List.cons_ne_nil _ _)
            (takesName_opensObject frames) rest

theorem through_items : ∀ (items : List Json), items ≠ [] →
    ∀ {reading : Reading} {before : List Json} {frames : List Frame},
      reading.Takes (.array before :: frames) → ∀ (rest : List Char),
        reading.through ((",".intercalate (compactItems items)).toList ++ ']' :: rest) =
          (after (.array (before ++ readBackItems items)) frames).through rest
  | [], filled, _, _, _, _, _ => absurd rfl filled
  | [item], _, reading, before, frames, takes, rest => by
      rw [compactItems, compactItems, String.intercalate_singleton,
        through_compact item takes (ends_cons rfl rest), readBackItems, readBackItems]
      exact through_mark rfl rfl rest
  | item :: next :: items, _, reading, before, frames, takes, rest => by
      have later := through_items (next :: items) (List.cons_ne_nil _ _)
        (takes_needsValue (.array (before ++ [item.readBack]) :: frames)) rest
      rw [List.append_assoc, List.singleton_append] at later
      rw [toList_items, List.append_assoc, List.cons_append,
        through_compact item takes (ends_cons rfl _), readBackItems]
      exact (through_mark rfl rfl _).trans later

theorem through_members : ∀ (members : List (String × Json)), members ≠ [] →
    ∀ {reading : Reading} {before : List (String × Json)} {frames : List Frame},
      reading.TakesName before frames → ∀ (rest : List Char),
        reading.through ((",".intercalate (compactMembers members)).toList ++ '\x7d' :: rest) =
          (after (.object (before ++ readBackMembers members)) frames).through rest
  | [], filled, _, _, _, _, _ => absurd rfl filled
  | [(name, value)], _, reading, before, frames, takes, rest => by
      rw [compactMembers, compactMembers, String.intercalate_singleton, toList_member,
        List.append_assoc, List.cons_append, through_quote (takes name), through_mark rfl rfl,
        through_compact value (takes_needsValue _) (ends_cons rfl rest), readBackMembers,
        readBackMembers]
      exact through_mark rfl rfl rest
  | (name, value) :: next :: members, _, reading, before, frames, takes, rest => by
      have later := through_members (next :: members) (List.cons_ne_nil _ _)
        (takesName_needsName (before ++ [(name, value.readBack)]) frames) rest
      rw [List.append_assoc, List.singleton_append] at later
      rw [toList_members, List.append_assoc, List.cons_append, List.append_assoc, List.cons_append,
        through_quote (takes name), through_mark rfl rfl,
        through_compact value (takes_needsValue _) (ends_cons rfl _), readBackMembers]
      exact (through_mark rfl rfl _).trans later

end

end Reading

/-- Compact text is read as the value it was written for. -/
theorem read?_compact (json : Json) : read? json.compact = some json.readBack := by
  have ends : Ends [] := nofun
  have done := Reading.through_compact json (Reading.takes_needsValue []) ends
  rw [List.append_nil] at done
  rw [read?, done]
  rfl

end FigureMarkup.Json
