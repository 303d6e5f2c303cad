import FigureMarkup.Proofs.Markup.Escapes
import FigureMarkup.Proofs.Markup.Reading

/-!
# Writing units

A record holds what a unit can say. It is written as a unit with every character of its kind and its
keywords escaped and everything else in quoted strings. The lexemes of that unit are the tokens that
the record consists of, and they form a sentence which says what the record holds.
-/

namespace FigureMarkup.Markup

open Text

/-! ## Written texts -/

/-- A text as one word, with every character escaped. -/
def writtenWord (text : String) : List Char := escape (fun _ => true) text.toList

/-- Decide whether a character is escaped in a written string. -/
def isStringSpecial (c : Char) : Bool := c = '"' || c = '\\' || c = '[' || c = ']'

/-- A text as a quoted string. -/
def writtenString (text : String) : List Char :=
  '"' :: (escape isStringSpecial text.toList ++ ['"'])

/-- Decide whether a character is escaped in written prose. -/
def isProseSpecial (c : Char) : Bool := c = '\\' || c = '[' || c = ']'

/-- A text as prose between units. -/
def writtenProse (text : String) : List Char := escape isProseSpecial text.toList

def writtenItem : Item → List Char
  | .keyword key value => writtenWord key ++ '=' :: writtenString value
  | .bare text => writtenString text

def Item.tokens : Item → List Token
  | .keyword key value => [.word key, .equals, .quoted value]
  | .bare text => [.quoted text]

/-! ## Records -/

/-- Texts that can stand for kinds and keywords: they are not empty, have no line break, and are in
lower case. -/
structure IsLabel (text : String) : Prop where
  nonempty : text ≠ ""
  unbroken : '\n' ∉ text.toList
  lowered : lower text = text

/-- What a unit can say. -/
structure Record where
  kind : String
  name : Option String
  arguments : List (String × String)
  flags : List String
  kind_label : IsLabel kind
  keys_label : ∀ argument ∈ arguments, IsLabel argument.1
  keys_other : ∀ argument ∈ arguments, argument.1 ≠ "name"
  keys_single : (arguments.map (·.1)).Nodup
  /-- A flag in the first place would be the name. -/
  unnamed : name = none → arguments ≠ [] ∨ flags = []

namespace Record

def items (record : Record) : List Item :=
  record.name.toList.map .bare ++
    record.arguments.map (fun argument => .keyword argument.1 argument.2) ++
    record.flags.map .bare

/-- The content of the unit for a record. -/
def content (record : Record) : List Char :=
  writtenWord record.kind ++ record.items.flatMap fun item => ' ' :: writtenItem item

/-- The unit for a record. -/
def unit (record : Record) : List Char := '[' :: (record.content ++ [']'])

end Record

/-! ## Scanning written texts -/

theorem spanEscaped_escaped (plain : Char → Bool) {c : Char} (unbroken : c ≠ '\n')
    (rest : List Char) :
    spanEscaped plain ('\\' :: c :: rest) =
      ('\\' :: c :: (spanEscaped plain rest).1, (spanEscaped plain rest).2) := by
  rw [spanEscaped, if_neg unbroken]

theorem spanEscaped_plain {plain : Char → Bool} {c : Char} (unescaped : c ≠ '\\')
    (accepted : plain c = true) (rest : List Char) :
    spanEscaped plain (c :: rest) =
      (c :: (spanEscaped plain rest).1, (spanEscaped plain rest).2) := by
  rw [spanEscaped, if_pos accepted]
  · intro backslash
    exact absurd backslash unescaped
  · intro d later backslash
    exact absurd backslash unescaped

theorem spanEscaped_stop {plain : Char → Bool} {c : Char} (unescaped : c ≠ '\\')
    (refused : plain c = false) (rest : List Char) :
    spanEscaped plain (c :: rest) = ([], c :: rest) := by
  rw [spanEscaped, if_neg (by simp [refused])]
  · intro backslash
    exact absurd backslash unescaped
  · intro d later backslash
    exact absurd backslash unescaped

/-- A scan reads escaped text to its end. -/
theorem spanEscaped_escape {plain special : Char → Bool} {text : List Char}
    (unbroken : ∀ c ∈ text, special c = true → c ≠ '\n')
    (accepted : ∀ c ∈ text, special c = false → c ≠ '\\' ∧ plain c = true) (rest : List Char) :
    spanEscaped plain (escape special text ++ rest) =
      (escape special text ++ (spanEscaped plain rest).1, (spanEscaped plain rest).2) := by
  induction text with
  | nil => rfl
  | cons c text ih =>
      have onward := ih (fun d member => unbroken d (.tail c member))
        (fun d member => accepted d (.tail c member))
      rw [escape_cons]
      cases decided : special c with
      | true =>
          have same := unbroken c (.head text) decided
          simp only [if_true, List.cons_append, List.nil_append]
          rw [spanEscaped_escaped plain same, onward]
      | false =>
          obtain ⟨unescaped, plainly⟩ := accepted c (.head text) decided
          simp only [Bool.false_eq_true, if_false, List.cons_append, List.nil_append]
          rw [spanEscaped_plain unescaped plainly, onward]

/-- Text after which no word goes on. -/
def EndsWord (rest : List Char) : Prop := ∀ c ∈ rest.head?, c ≠ '\\' ∧ isWordChar c = false

theorem EndsWord.span {rest : List Char} (ends : EndsWord rest) :
    spanEscaped isWordChar rest = ([], rest) := by
  cases rest with
  | nil => rfl
  | cons c rest =>
      obtain ⟨unescaped, refused⟩ := ends c rfl
      exact spanEscaped_stop unescaped refused rest

/-- A written word is read back as a word. -/
theorem nextToken_word {text : String} (label : IsLabel text) {rest : List Char}
    (ends : EndsWord rest) :
    ∃ left, writtenWord text ++ rest = '\\' :: left ∧
      nextToken '\\' left = (some (.word text), writtenWord text, rest) := by
  have spanned : spanEscaped isWordChar (writtenWord text ++ rest) = (writtenWord text, rest) := by
    rw [writtenWord, spanEscaped_escape, ends.span, List.append_nil]
    · intro c member _ newline
      exact label.unbroken (newline ▸ member)
    · nofun
  have read : String.ofList (unescapeChars (writtenWord text)) = text := by
    rw [writtenWord, unescapeChars_escape rfl, String.ofList_toList]
  obtain ⟨c, later, letters⟩ : ∃ c later, text.toList = c :: later := by
    apply List.exists_cons_of_ne_nil
    intro empty
    exact label.nonempty (String.toList_eq_nil_iff.1 empty)
  -- The word starts with a backslash, so it is taken neither for a sign nor for a string.
  have begins : writtenWord text = '\\' :: c :: escape (fun _ => true) later := by
    rw [writtenWord, letters, escape_cons]
    rfl
  refine ⟨c :: escape (fun _ => true) later ++ rest, by rw [begins]; rfl, ?_⟩
  rw [begins] at spanned read
  rw [List.cons_append] at spanned
  rw [nextToken, if_neg (by decide), if_neg (by decide), spanned]
  simp only [read, begins]

/-- A written string is read back as a quoted string. -/
theorem nextToken_string (text : String) (rest : List Char) :
    nextToken '"' (escape isStringSpecial text.toList ++ '"' :: rest) =
      (some (.quoted text), writtenString text, rest) := by
  have spanned : spanEscaped isQuotedChar (escape isStringSpecial text.toList ++ '"' :: rest) =
      (escape isStringSpecial text.toList, '"' :: rest) := by
    rw [spanEscaped_escape, spanEscaped_stop (by decide) (by decide), List.append_nil]
    · intro c _ special newline
      subst newline
      exact absurd special (by decide)
    · intro c _ ordinary
      simp only [isStringSpecial, Bool.or_eq_false_iff, decide_eq_false_iff_not] at ordinary
      simp [isQuotedChar, ordinary]
  have read : String.ofList (unescapeChars (escape isStringSpecial text.toList)) = text := by
    rw [unescapeChars_escape (by decide), String.ofList_toList]
  rw [nextToken, if_neg (by decide), if_pos rfl, spanned]
  simp only [read]
  rfl

/-! ## Lexemes of written texts -/

/-- Content that is divided into some tokens, wherever it stands. -/
def Lexes (content : List Char) (tokens : List Token) : Prop :=
  ∀ offset, (lexFrom offset content).map (·.token) = tokens.map some

namespace Lexes

theorem nil : Lexes [] [] := by
  intro offset
  rw [lexFrom]
  rfl

variable {rest : List Char} {tokens : List Token} (lexes : Lexes rest tokens)

include lexes

theorem separator {c : Char} (separator : isSeparator c = true) : Lexes (c :: rest) tokens := by
  intro offset
  rw [lexFrom_separator separator]
  exact lexes _

theorem next {c : Char} (other : isSeparator c = false) {text later : List Char} {token : Token}
    (next : nextToken c later = (some token, text, rest)) :
    Lexes (c :: later) (token :: tokens) := by
  intro offset
  rw [lexFrom_next other next, List.map_cons, List.map_cons, lexes]

theorem equals : Lexes ('=' :: rest) (.equals :: tokens) := lexes.next rfl rfl

theorem string (text : String) : Lexes (writtenString text ++ rest) (.quoted text :: tokens) := by
  rw [writtenString, List.cons_append, List.append_assoc]
  exact lexes.next rfl (nextToken_string text rest)

theorem word {text : String} (label : IsLabel text) (ends : EndsWord rest) :
    Lexes (writtenWord text ++ rest) (.word text :: tokens) := by
  obtain ⟨later, whole, read⟩ := nextToken_word label ends
  rw [whole]
  exact lexes.next rfl read

end Lexes

theorem endsWord_of_refused {c : Char} (unescaped : c ≠ '\\') (refused : isWordChar c = false)
    (rest : List Char) : EndsWord (c :: rest) := by
  rintro d ⟨⟩
  exact ⟨unescaped, refused⟩

/-- The keyword of an item, if it has one, can be written as a word. -/
def Item.Labelled : Item → Prop
  | .keyword key _ => IsLabel key
  | .bare _ => True

theorem Lexes.item {item : Item} (labelled : item.Labelled) {rest : List Char}
    {tokens : List Token} (lexes : Lexes rest tokens) :
    Lexes (writtenItem item ++ rest) (item.tokens ++ tokens) := by
  cases item with
  | bare text => exact lexes.string text
  | keyword key value =>
      have assigned : Lexes ('=' :: (writtenString value ++ rest))
          (.equals :: .quoted value :: tokens) := (lexes.string value).equals
      have whole := assigned.word labelled (endsWord_of_refused (by decide) (by decide) _)
      simpa [writtenItem, Item.tokens] using whole

theorem lexes_items {items : List Item} (labelled : ∀ item ∈ items, item.Labelled) :
    Lexes (items.flatMap fun item => ' ' :: writtenItem item) (items.flatMap Item.tokens) := by
  induction items with
  | nil => exact .nil
  | cons item items ih =>
      have later := ih fun item member => labelled item (.tail _ member)
      exact (later.item (labelled item (.head _))).separator rfl

theorem endsWord_items (items : List Item) :
    EndsWord (items.flatMap fun item => ' ' :: writtenItem item) := by
  cases items with
  | nil => nofun
  | cons item items => exact endsWord_of_refused (by decide) (by decide) _

/-- The tokens of items spell these items. -/
theorem spells_tokens (items : List Item) : Spells (items.flatMap Item.tokens) items := by
  induction items with
  | nil => exact .nil
  | cons item items ih =>
      cases item with
      | keyword key value => exact .keyword rfl ih
      | bare text => exact .bare rfl ih

theorem placedTokens_of_formed {lexemes : List Lexeme} {tokens : List Token}
    (formed : lexemes.map (·.token) = tokens.map some) :
    (placedTokens lexemes).map (·.1) = tokens := by
  have plain : (placedTokens lexemes).map (·.1) = (lexemes.map (·.token)).filterMap id := by
    rw [placedTokens, List.map_filterMap, List.filterMap_map]
    congr 1
    funext lexeme
    cases found : lexeme.token <;> simp [found]
  rw [plain, formed, List.filterMap_map]
  exact List.filterMap_some

/-! ## Reading records -/

namespace Record

variable (record : Record)

/-- The items of a record are bare or come from its arguments. -/
theorem item_cases {item : Item} (member : item ∈ record.items) :
    (∃ text, item = .bare text) ∨
      ∃ argument ∈ record.arguments, item = .keyword argument.1 argument.2 := by
  simp only [items, List.mem_append, List.mem_map] at member
  rcases member with (⟨text, -, rfl⟩ | ⟨argument, given, rfl⟩) | ⟨text, -, rfl⟩
  · exact .inl ⟨text, rfl⟩
  · exact .inr ⟨argument, given, rfl⟩
  · exact .inl ⟨text, rfl⟩

theorem labelled_items : ∀ item ∈ record.items, item.Labelled := by
  intro item member
  rcases record.item_cases member with ⟨text, rfl⟩ | ⟨argument, given, rfl⟩
  · trivial
  · exact record.keys_label argument given

theorem lexes_content :
    Lexes record.content (.word record.kind :: record.items.flatMap Item.tokens) :=
  (lexes_items record.labelled_items).word record.kind_label (endsWord_items record.items)

/-- No item of a record is the keyword for its name. -/
theorem lastValue_name : lastValue "name" record.items = none := by
  have unsaid : ∀ item ∈ record.items, item.value? "name" = none := by
    intro item member
    rcases record.item_cases member with ⟨text, rfl⟩ | ⟨argument, given, rfl⟩
    · rfl
    · have other : lower argument.1 ≠ "name" := by
        rw [(record.keys_label argument given).lowered]
        exact record.keys_other argument given
      exact if_neg other
  rw [lastValue, List.filterMap_eq_nil_iff.2 unsaid]
  rfl

theorem filterMap_bare? (arguments : List (String × String)) (flags : List String) :
    List.filterMap Item.bare?
      (arguments.map (fun argument => .keyword argument.1 argument.2) ++ flags.map .bare) =
      flags := by
  have unsaid : List.filterMap Item.bare?
      (arguments.map fun argument => .keyword argument.1 argument.2) = [] := by
    simp [Item.bare?]
  rw [List.filterMap_append, unsaid, List.nil_append, List.filterMap_map]
  exact List.filterMap_some

/-- The first item of a record is bare if it is the name, and not otherwise. -/
theorem bare?_head_items : record.items.head?.bind (·.bare?) = record.name := by
  cases named : record.name with
  | some name =>
      simp [items, named, Item.bare?]
  | none =>
      cases given : record.arguments with
      | cons argument arguments => simp [items, named, given, Item.bare?]
      | nil =>
          have bare : record.flags = [] :=
            (record.unnamed named).resolve_left (fun nonempty => nonempty given)
          simp [items, named, given, bare]

theorem filterMap_bare?_tail_items : record.items.tail.filterMap (·.bare?) = record.flags := by
  cases named : record.name with
  | some name =>
      rw [items, named]
      exact filterMap_bare? record.arguments record.flags
  | none =>
      cases given : record.arguments with
      | cons argument arguments =>
          -- The tail lacks the first keyword, and no flag.
          rw [items, named, given]
          exact filterMap_bare? arguments record.flags
      | nil =>
          have bare : record.flags = [] :=
            (record.unnamed named).resolve_left (fun nonempty => nonempty given)
          simp [items, named, given, bare]

/-- The declaration that a record is read as, if some text stands before its unit. -/
def declaration (before : List Char) : Declaration where
  kind := record.kind
  name := record.name
  line := 1 + before.count '\n'
  span := ⟨byteLength before, byteLength before + byteLength record.unit⟩
  arguments := record.arguments
  flags := record.flags

/-- The items of a record say what the record holds. -/
theorem ofItems_items (line : Nat) (span : Span) :
    Declaration.ofItems record.kind record.items line span =
      ⟨record.kind, record.name, line, span, record.arguments, record.flags⟩ := by
  have spoken : record.items.foldl Declaration.addKeyword (.empty record.kind line span) =
      { Declaration.empty record.kind line span with arguments := record.arguments } := by
    rw [items, List.foldl_append, List.foldl_append,
      Declaration.addKeywords_bare _ record.name.toList, Declaration.addKeywords_of_new,
      Declaration.addKeywords_bare]
    · rfl
    · intro argument given
      exact (record.keys_label argument given).lowered
    · exact record.keys_single
  have declares := declares_ofItems record.kind record.items line span
  have name := declares.name
  have flags := declares.flags
  rw [record.lastValue_name, record.bare?_head_items, Option.none_or] at name
  rw [record.filterMap_bare?_tail_items] at flags
  have kept : record.arguments.filter (·.1 != "name") = record.arguments := by
    rw [List.filter_eq_self]
    intro argument given
    simpa using record.keys_other argument given
  simp only [Declaration.ofItems, spoken] at name flags ⊢
  rw [name, flags]
  simp [Declaration.withoutArgument, Declaration.empty, kept, record.kind_label.lowered]

/-- The unit that a search finds, if it starts where the given text stops. -/
def bracketed (before : List Char) : Bracketed where
  content := String.ofList record.content
  span := ⟨byteLength before, byteLength before + byteLength record.unit⟩
  line := 1 + before.count '\n'

/-- A record is read back from its unit. -/
theorem ofBracketed_bracketed (before : List Char) :
    Declaration.ofBracketed (record.bracketed before) = .ok (record.declaration before) := by
  have formed : (lex (record.bracketed before).content).map (·.token) =
      (Token.word record.kind :: record.items.flatMap Item.tokens).map some := by
    rw [lex, bracketed, String.toList_ofList]
    exact record.lexes_content 0
  rw [declaration, ← ofItems_items]
  apply Declaration.ofBracketed_of_sentence
  · intro lexeme member unrecognized
    have token := List.mem_map_of_mem (f := Lexeme.token) member
    rw [formed, unrecognized] at token
    simp at token
  · rw [placedTokens_of_formed formed]
    exact .intro (spells_tokens record.items)

end Record

end FigureMarkup.Markup
