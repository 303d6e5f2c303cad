import FigureMarkup.Proofs.Text.Xml

/-!
# Elements in XML

A reader of XML goes through a text once. In content, `<` opens a tag; the tag holds the name of an
element and then attributes with values in quotation marks, and ends at `>`, unless that stands in
a value. Text that is written part by part is read part by part: each part takes the reader from one
state to another, and adds the elements whose tags end in it.
-/

namespace FigureMarkup.Text

/-- An element as its tag shows it. The values of its attributes may still hold entities. -/
structure XmlElement where
  name : List Char
  attributes : List (List Char × List Char)
deriving DecidableEq, Repr

namespace XmlElement

def add (element : XmlElement) (attributes : List (String × String)) : XmlElement where
  name := element.name
  attributes := element.attributes ++
    attributes.map fun (name, value) => (name.toList, value.toList)

theorem add_nil (element : XmlElement) : element.add [] = element := by
  simp [add]

theorem add_add (element : XmlElement) (first second : List (String × String)) :
    (element.add first).add second = element.add (first ++ second) := by
  simp [add]

/-- An element has an attribute `id` with some value. -/
def hasId (element : XmlElement) (id : String) : Bool :=
  element.attributes.any fun (name, value) =>
    name = "id".toList && decodeXml value = id.toList

end XmlElement

/-- Where a reader of XML is, and what of a tag is read so far. -/
inductive XmlReader where
  | content
  | opening (name : List Char)
  /-- In a tag that ends an element. -/
  | closing
  | inside (element : XmlElement) (name : List Char)
  /-- In a value, which ends at the next mark of the kind with which it began. -/
  | quoted (element : XmlElement) (name : List Char) (mark : Char) (value : List Char)

namespace XmlReader

def blanks : List Char := [' ', '\t', '\n', '\r']

/-- The state of a reader after one more character. -/
def next : XmlReader → Char → XmlReader
  | .content, c => if c = '<' then .opening [] else .content
  | .opening name, c =>
      if c = '>' then .content
      else if c = '/' ∧ name = [] then .closing
      else if c = '/' ∨ c ∈ blanks then .inside ⟨name, []⟩ []
      else .opening (name ++ [c])
  | .closing, c => if c = '>' then .content else .closing
  | .inside element name, c =>
      if c = '>' then .content
      else if c = '"' ∨ c = '\'' then .quoted element name c []
      else if c = '/' ∨ c = '=' ∨ c ∈ blanks then .inside element name
      else .inside element (name ++ [c])
  | .quoted element name mark value, c =>
      if c = mark then .inside ⟨element.name, element.attributes ++ [(name, value)]⟩ []
      else .quoted element name mark (value ++ [c])

/-- The element whose tag ends with a character. -/
def ended? : XmlReader → Char → Option XmlElement
  | .opening name, '>' => some ⟨name, []⟩
  | .inside element _, '>' => some element
  | _, _ => none

/-- The elements whose tags end in the text after a reader. -/
def elements : XmlReader → List Char → List XmlElement
  | _, [] => []
  | reader, c :: rest => (reader.ended? c).toList ++ (reader.next c).elements rest

/-- A text takes a reader from one state to another, and some elements are read in it. -/
def Reads (start : XmlReader) (text : String) (found : List XmlElement) (stop : XmlReader) : Prop :=
  ∀ rest, start.elements (text.toList ++ rest) = found ++ stop.elements rest

end XmlReader

/-- The elements in a text. -/
def xmlElements (text : String) : List XmlElement := XmlReader.content.elements text.toList

/-- The elements in a text that have an identifier. -/
def elementsWithId (text id : String) : List XmlElement := (xmlElements text).filter (·.hasId id)

namespace XmlReader

variable {start middle stop : XmlReader} {first second : String}

theorem Reads.empty (reader : XmlReader) : Reads reader "" [] reader := fun _ => rfl

theorem Reads.append {found others : List XmlElement} (one : Reads start first found middle)
    (two : Reads middle second others stop) :
    Reads start (first ++ second) (found ++ others) stop := by
  intro rest
  rw [String.toList_append, List.append_assoc, one, two, List.append_assoc]

theorem Reads.xmlElements_eq {text : String} {found : List XmlElement}
    (reads : Reads .content text found .content) : xmlElements text = found := by
  simpa [elements, xmlElements] using reads []

/-! ## Parts of a text -/

/-- While a reader only notes the characters of a text, he reads no element. -/
theorem reads_of_notes (state : List Char → XmlReader) {text : String}
    (notes : ∀ c ∈ text.toList, ∀ noted,
      (state noted).ended? c = none ∧ (state noted).next c = state (noted ++ [c]))
    (noted : List Char) : Reads (state noted) text [] (state (noted ++ text.toList)) := by
  intro rest
  rw [List.nil_append]
  generalize text.toList = chars at notes
  induction chars generalizing noted with
  | nil => rw [List.nil_append, List.append_nil]
  | cons c chars ih =>
      obtain ⟨silent, noting⟩ := notes c List.mem_cons_self noted
      rw [List.cons_append, elements, silent, noting, Option.toList_none, List.nil_append,
        ih _ fun d member => notes d (List.mem_cons_of_mem c member), List.append_assoc,
        List.singleton_append]

theorem reads_content {text : String} (plain : '<' ∉ text.toList) :
    Reads .content text [] .content :=
  reads_of_notes (fun _ => .content)
    (fun _ member _ => ⟨rfl, if_neg (ne_of_mem_of_not_mem member plain)⟩) []

/-- What is written one after another is read one after another. -/
theorem reads_intercalate {β : Type} {items : List β} {write : β → String}
    {found : β → List XmlElement}
    (each : ∀ item ∈ items, Reads .content (write item) (found item) .content) :
    Reads .content ("".intercalate (items.map write)) (items.flatMap found) .content := by
  induction items with
  | nil => exact .empty .content
  | cons item items ih =>
      have others := ih fun other member => each other (List.mem_cons_of_mem item member)
      have written : "".intercalate ((item :: items).map write) =
          write item ++ "".intercalate (items.map write) := by
        cases items with
        | nil => simp
        | cons other items => simp [String.intercalate_cons_cons]
      rw [written, List.flatMap_cons]
      exact (each item List.mem_cons_self).append others

/-- Characters that end a name. -/
def nameEnds : List Char := ['>', '"', '\'', '/', '='] ++ blanks

/-- A text can be the name of an element or of an attribute. -/
def IsName (text : String) : Prop := ∀ c ∈ text.toList, c ∉ nameEnds

instance (text : String) : Decidable (IsName text) :=
  List.decidableBAll (· ∉ nameEnds) text.toList

theorem reads_opening {name : String} (named : IsName name) :
    Reads .content ("<" ++ name) [] (.opening name.toList) := by
  have start : Reads .content "<" [] (.opening []) := fun _ => rfl
  refine start.append (reads_of_notes .opening (fun c member noted => ?_) [])
  have plain := named c member
  simp only [nameEnds, List.mem_append, List.mem_cons, List.not_mem_nil, or_false, not_or] at plain
  obtain ⟨⟨notGreater, -, -, notSlash, -⟩, notBlank⟩ := plain
  simp [ended?, next, notGreater, notSlash, notBlank]

theorem reads_inside {name : String} (named : IsName name) (element : XmlElement) :
    Reads (.inside element []) name [] (.inside element name.toList) := by
  refine reads_of_notes (.inside element) (fun c member noted => ?_) []
  have plain := named c member
  simp only [nameEnds, List.mem_append, List.mem_cons, List.not_mem_nil, or_false, not_or] at plain
  obtain ⟨⟨notGreater, notQuote, notApostrophe, notSlash, notEqual⟩, notBlank⟩ := plain
  simp [ended?, next, notGreater, notQuote, notApostrophe, notSlash, notEqual, notBlank]

theorem reads_quoted {value : String} (unquoted : '"' ∉ value.toList) (element : XmlElement)
    (name : List Char) :
    Reads (.quoted element name '"' []) value [] (.quoted element name '"' value.toList) :=
  reads_of_notes (.quoted element name '"')
    (fun _ member _ => ⟨rfl, if_neg (ne_of_mem_of_not_mem member unquoted)⟩) []

end XmlReader

end FigureMarkup.Text
