import FigureMarkup.Text.Replace

/-!
# Text in XML

Escaping exchanges each character that has a meaning in XML for an entity of its own, and no other
character starts with an ampersand afterwards. So the entities can be decoded again, and different
texts are escaped differently. An ampersand is only left at the start of an entity, and none of the
characters that open or close a tag or a quoted value is left.
-/

namespace FigureMarkup.Text

/-- What a character is written as. -/
def xmlChar : Char → List Char
  | '&' => ['&', 'a', 'm', 'p', ';']
  | '<' => ['&', 'l', 't', ';']
  | '>' => ['&', 'g', 't', ';']
  | '"' => ['&', 'q', 'u', 'o', 't', ';']
  | '\'' => ['&', 'a', 'p', 'o', 's', ';']
  | c => [c]

theorem replaceChar_append (old : Char) (new first second : List Char) :
    replaceChar old new (first ++ second) =
      replaceChar old new first ++ replaceChar old new second :=
  List.flatMap_append

theorem escapeXmlChars_append (first second : List Char) :
    escapeXmlChars (first ++ second) = escapeXmlChars first ++ escapeXmlChars second := by
  simp only [escapeXmlChars, replaceChar_append]

theorem escapeXmlChars_singleton (c : Char) : escapeXmlChars [c] = xmlChar c := by
  unfold xmlChar
  split
  case h_6 ampersand less greater quote apostrophe =>
    have ampersand : c ≠ '&' := ampersand
    have less : c ≠ '<' := less
    have greater : c ≠ '>' := greater
    have quote : c ≠ '"' := quote
    have apostrophe : c ≠ '\'' := apostrophe
    simp [escapeXmlChars, replaceChar, ampersand, less, greater, quote, apostrophe]
  all_goals decide

/-- The exchange of one special character after another is one of all characters at once. -/
theorem escapeXmlChars_eq (text : List Char) : escapeXmlChars text = text.flatMap xmlChar := by
  induction text with
  | nil => rfl
  | cons c rest ih =>
      rw [← List.singleton_append, escapeXmlChars_append, escapeXmlChars_singleton, ih]
      rfl

/-- Read text in which entities stand for special characters. -/
def decodeXml : List Char → List Char
  | '&' :: 'a' :: 'm' :: 'p' :: ';' :: rest => '&' :: decodeXml rest
  | '&' :: 'l' :: 't' :: ';' :: rest => '<' :: decodeXml rest
  | '&' :: 'g' :: 't' :: ';' :: rest => '>' :: decodeXml rest
  | '&' :: 'q' :: 'u' :: 'o' :: 't' :: ';' :: rest => '"' :: decodeXml rest
  | '&' :: 'a' :: 'p' :: 'o' :: 's' :: ';' :: rest => '\'' :: decodeXml rest
  | c :: rest => c :: decodeXml rest
  | [] => []

theorem decodeXml_xmlChar (c : Char) (rest : List Char) :
    decodeXml (xmlChar c ++ rest) = c :: decodeXml rest := by
  unfold xmlChar
  split
  case h_6 ampersand less greater quote apostrophe =>
    have ampersand : c ≠ '&' := ampersand
    rw [List.singleton_append, decodeXml]
    all_goals
      intros
      contradiction
  all_goals rfl

theorem decodeXml_escapeXmlChars (text : List Char) : decodeXml (escapeXmlChars text) = text := by
  rw [escapeXmlChars_eq]
  induction text with
  | nil => rfl
  | cons c rest ih => rw [List.flatMap_cons, decodeXml_xmlChar, ih]

theorem decodeXml_escapeXml (text : String) : decodeXml (escapeXml text).toList = text.toList := by
  rw [escapeXml, String.toList_ofList, decodeXml_escapeXmlChars]

theorem escapeXml_inj {first second : String} (same : escapeXml first = escapeXml second) :
    first = second := by
  have decoded := congrArg (fun text => decodeXml text.toList) same
  rw [decodeXml_escapeXml, decodeXml_escapeXml] at decoded
  exact String.toList_inj.1 decoded

/-! ## Entities -/

def xmlEntities : List (List Char) :=
  ["&amp;", "&lt;", "&gt;", "&quot;", "&apos;"].map String.toList

/-- The characters by which a reader of XML tells tags and quoted values from other text. -/
def xmlDelimiters : List Char := ['<', '>', '"', '\'']

theorem xmlChar_cases (c : Char) :
    xmlChar c ∈ xmlEntities ∨ (xmlChar c = [c] ∧ c ≠ '&' ∧ c ∉ xmlDelimiters) := by
  unfold xmlChar
  split
  case h_6 ampersand less greater quote apostrophe =>
    refine .inr ⟨rfl, ampersand, ?_⟩
    simpa [xmlDelimiters] using ⟨less, greater, quote, apostrophe⟩
  all_goals exact .inl (by decide)

/-- An entity has an ampersand at its start only, and nothing that delimits markup. -/
theorem xmlEntity_parts : ∀ entity ∈ xmlEntities, entity.head? = some '&' ∧ '&' ∉ entity.tail ∧
    ∀ c ∈ xmlDelimiters, c ∉ entity := by
  simp [xmlEntities, xmlDelimiters]

theorem not_mem_escapeXmlChars {c : Char} (delimits : c ∈ xmlDelimiters) (text : List Char) :
    c ∉ escapeXmlChars text := by
  rw [escapeXmlChars_eq, List.mem_flatMap]
  rintro ⟨d, -, member⟩
  rcases xmlChar_cases d with entity | ⟨plain, -, other⟩
  · exact (xmlEntity_parts _ entity).2.2 c delimits member
  · rw [plain, List.mem_singleton] at member
    exact other (member ▸ delimits)

/-- Escaped text cannot open a tag, nor end one or a quoted value. -/
theorem not_mem_escapeXml {c : Char} (delimits : c ∈ xmlDelimiters) (text : String) :
    c ∉ (escapeXml text).toList := by
  rw [escapeXml, String.toList_ofList]
  exact not_mem_escapeXmlChars delimits text.toList

/-- Escaped text cannot end an attribute. -/
theorem quote_not_mem_escapeXml (text : String) : '"' ∉ (escapeXml text).toList :=
  not_mem_escapeXml (by decide) text

/-- An ampersand in what a character is written as starts an entity. -/
theorem entity_of_xmlChar {c : Char} {before after : List Char}
    (parts : xmlChar c = before ++ '&' :: after) : before = [] ∧ '&' :: after ∈ xmlEntities := by
  rcases xmlChar_cases c with entity | ⟨plain, other, -⟩
  · obtain ⟨-, once, -⟩ := xmlEntity_parts _ entity
    cases before with
    | nil =>
        rw [parts] at entity
        exact ⟨rfl, entity⟩
    | cons d before => simp [parts] at once
  · rw [plain] at parts
    obtain ⟨rfl, rfl⟩ : before = [] ∧ c = '&' := by
      cases before <;> simp at parts ⊢
      exact parts.1
    exact absurd rfl other

/-- Every ampersand in escaped text starts an entity. -/
theorem exists_entity_of_ampersand {text before after : List Char}
    (parts : escapeXmlChars text = before ++ '&' :: after) :
    ∃ entity ∈ xmlEntities, entity <+: '&' :: after := by
  rw [escapeXmlChars_eq] at parts
  induction text generalizing before with
  | nil => simp at parts
  | cons c rest ih =>
      rw [List.flatMap_cons] at parts
      rcases List.append_eq_append_iff.1 parts with ⟨between, rfl, later⟩ | ⟨between, same, later⟩
      · exact ih later
      · cases between with
        | nil => exact @ih [] later.symm
        | cons d between =>
            obtain ⟨rfl, rfl⟩ := List.cons.inj later
            exact ⟨_, (entity_of_xmlChar same).2, List.prefix_append ('&' :: between) _⟩

end FigureMarkup.Text
