import FigureMarkup.Proofs.Text.Xml

/-!
# Markup around escaped text

Escaping leaves none of the characters that open or close a tag or a quoted value. Whoever reads XML
is therefore in the same place before and after escaped text. So two texts that differ only in what
was escaped have the same markup.
-/

namespace FigureMarkup.Text

/-! ## Reading markup -/

/-- Where in XML a reader is: in content, in a tag, or in a value in quotes. -/
inductive XmlPlace where
  | content
  | tag
  | double
  | single
deriving DecidableEq, Repr

namespace XmlPlace

/-- The place of a reader after one more character. -/
def next : XmlPlace → Char → XmlPlace
  | .content, '<' => .tag
  | .tag, '>' => .content
  | .tag, '"' => .double
  | .tag, '\'' => .single
  | .double, '"' => .tag
  | .single, '\'' => .tag
  | place, _ => place

def after (place : XmlPlace) (text : List Char) : XmlPlace := text.foldl next place

/-- The characters of a text with which a reader gets from one place to another, and the place in
which each of them is read. -/
def turns (place : XmlPlace) : List Char → List (XmlPlace × Char)
  | [] => []
  | c :: rest =>
      if place.next c = place then turns place rest
      else (place, c) :: turns (place.next c) rest

theorem next_of_not_mem {c : Char} (plain : c ∉ xmlDelimiters) (place : XmlPlace) :
    place.next c = place := by
  simp only [xmlDelimiters, List.mem_cons, List.not_mem_nil, or_false, not_or] at plain
  unfold next
  split <;> simp_all

theorem after_append (place : XmlPlace) (first second : List Char) :
    place.after (first ++ second) = (place.after first).after second :=
  List.foldl_append

theorem turns_append (place : XmlPlace) (first second : List Char) :
    place.turns (first ++ second) = place.turns first ++ (place.after first).turns second := by
  induction first generalizing place with
  | nil => rfl
  | cons c rest ih =>
      rw [List.cons_append, turns, turns, after, List.foldl_cons]
      split
      case isTrue stays => rw [ih, stays, after]
      case isFalse => rw [ih, List.cons_append, after]

/-- Text without delimiters keeps a reader in place. -/
theorem rests {text : List Char} (plain : ∀ c ∈ xmlDelimiters, c ∉ text) (place : XmlPlace) :
    place.turns text = [] ∧ place.after text = place := by
  induction text with
  | nil => exact ⟨rfl, rfl⟩
  | cons c rest ih =>
      have stays : place.next c = place :=
        next_of_not_mem (fun delimits => plain c delimits List.mem_cons_self) place
      have others := ih fun d delimits member => plain d delimits (List.mem_cons_of_mem c member)
      rw [turns, if_pos stays, after, List.foldl_cons, stays]
      exact others

/-- Escaped text keeps a reader in place, be it in content, in a tag or in a value. -/
theorem rests_escapeXml (text : String) (place : XmlPlace) :
    place.turns (escapeXml text).toList = [] ∧ place.after (escapeXml text).toList = place := by
  exact rests (fun c delimits => not_mem_escapeXml delimits text) place

end XmlPlace

/-! ## Texts with the same markup -/

/-- A reader of two texts goes through the same tags and quoted values, wherever he starts. -/
structure SameMarkup (first second : String) : Prop where
  turns : ∀ place : XmlPlace, place.turns first.toList = place.turns second.toList
  after : ∀ place : XmlPlace, place.after first.toList = place.after second.toList

namespace SameMarkup

theorem refl (text : String) : SameMarkup text text := ⟨fun _ => rfl, fun _ => rfl⟩

theorem append {first second more others : String} (one : SameMarkup first second)
    (two : SameMarkup more others) : SameMarkup (first ++ more) (second ++ others) where
  turns place := by
    rw [String.toList_append, String.toList_append, XmlPlace.turns_append, XmlPlace.turns_append,
      one.turns, one.after, two.turns]
  after place := by
    rw [String.toList_append, String.toList_append, XmlPlace.after_append, XmlPlace.after_append,
      one.after, two.after]

/-- Texts that are escaped have the same markup, namely none. -/
theorem escapeXml (first second : String) :
    SameMarkup (escapeXml first) (escapeXml second) where
  turns place := by
    rw [(place.rests_escapeXml first).1, (place.rests_escapeXml second).1]
  after place := by
    rw [(place.rests_escapeXml first).2, (place.rests_escapeXml second).2]

/-- What is written one after another has the same markup if each part has. -/
theorem intercalate_map {β : Type} (items : List β) {first second : β → String}
    (same : ∀ item, SameMarkup (first item) (second item)) :
    SameMarkup ("".intercalate (items.map first)) ("".intercalate (items.map second)) := by
  induction items with
  | nil => exact .refl _
  | cons item items ih =>
      cases items with
      | nil => exact same item
      | cons next items =>
          rw [List.map_cons, List.map_cons] at ih
          simp only [List.map_cons, String.intercalate_cons_cons, String.append_empty] at ih ⊢
          exact (same item).append ih

end SameMarkup

end FigureMarkup.Text
