import FigureMarkup.Markup.Declaration
import Mathlib.Data.List.Nodup

/-!
# Arguments of declarations

The arguments of a declaration are a finite map from keywords to values. Giving a keyword a value
and taking a keyword away change what is found under that keyword and nothing else, and they keep
every keyword single. The items of a unit give each keyword the value that it has last.
-/

namespace FigureMarkup.Markup

open Text

theorem lookup_filter_ne (arguments : List (String × String)) (removed key : String) :
    (arguments.filter (·.1 != removed)).lookup key =
      if key = removed then none else arguments.lookup key := by
  induction arguments with
  | nil => simp
  | cons argument arguments ih =>
      obtain ⟨first, value⟩ := argument
      by_cases gone : first = removed
      · subst gone
        rw [List.filter_cons_of_neg (by simp), ih, List.lookup_cons]
        by_cases here : key = first
        · simp [here]
        · simp [here, beq_eq_false_iff_ne.2 here]
      · rw [List.filter_cons_of_pos (by simpa using gone), List.lookup_cons, List.lookup_cons, ih]
        by_cases here : key = first
        · simp [here, gone]
        · simp [beq_eq_false_iff_ne.2 here]

namespace Declaration

/-- No keyword stands twice among the arguments. -/
def Single (declaration : Declaration) : Prop := (declaration.arguments.map (·.1)).Nodup

variable (declaration : Declaration)

theorem argument?_withoutArgument (removed key : String) :
    (declaration.withoutArgument removed).argument? key =
      if key = removed then none else declaration.argument? key :=
  lookup_filter_ne declaration.arguments removed key

theorem argument?_withArgument (key value wanted : String) :
    (declaration.withArgument key value).argument? wanted =
      if wanted = lower key then some value else declaration.argument? wanted := by
  simp only [argument?, withArgument, List.lookup_append, lookup_filter_ne]
  by_cases same : wanted = lower key
  · simp [same]
  · simp [same, List.lookup_cons, beq_eq_false_iff_ne.2 same]

variable {declaration}

theorem Single.withoutArgument (single : declaration.Single) (removed : String) :
    (declaration.withoutArgument removed).Single :=
  single.sublist (List.filter_sublist.map _)

theorem Single.withArgument (single : declaration.Single) (key value : String) :
    (declaration.withArgument key value).Single := by
  have others : (declaration.withoutArgument (lower key)).Single := single.withoutArgument _
  have absent : lower key ∉ (declaration.withoutArgument (lower key)).arguments.map (·.1) := by
    simp [Declaration.withoutArgument]
  have appended := List.Nodup.concat absent others
  simpa [Single, Declaration.withArgument, Declaration.withoutArgument] using appended

end Declaration

/-! ## Items -/

/-- The value that an item gives a keyword. -/
def Item.value? (key : String) : Item → Option String
  | .keyword spelled value => if lower spelled = key then some value else none
  | .bare _ => none

/-- The text of a bare item. -/
def Item.bare? : Item → Option String
  | .keyword _ _ => none
  | .bare text => some text

/-- The last value that items give a keyword. -/
def lastValue (key : String) (items : List Item) : Option String :=
  (items.filterMap (·.value? key)).getLast?

theorem lastValue_cons (key : String) (item : Item) (items : List Item) :
    lastValue key (item :: items) = (lastValue key items).or (item.value? key) := by
  unfold lastValue
  cases given : item.value? key with
  | none => rw [List.filterMap_cons_none given, Option.or_none]
  | some value =>
      rw [List.filterMap_cons_some given, List.getLast?_cons]
      cases (items.filterMap (·.value? key)).getLast? <;> rfl

namespace Declaration

theorem argument?_addKeyword (declaration : Declaration) (item : Item) (key : String) :
    (declaration.addKeyword item).argument? key =
      (item.value? key).or (declaration.argument? key) := by
  cases item with
  | bare text => rfl
  | keyword spelled value =>
      rw [addKeyword, argument?_withArgument, Item.value?]
      by_cases same : lower spelled = key
      · simp [same]
      · simp [same, Ne.symm same]

theorem argument?_addKeywords (declaration : Declaration) (items : List Item) (key : String) :
    (items.foldl addKeyword declaration).argument? key =
      (lastValue key items).or (declaration.argument? key) := by
  induction items generalizing declaration with
  | nil => rfl
  | cons item items ih =>
      rw [List.foldl_cons, ih, argument?_addKeyword, lastValue_cons, Option.or_assoc]

theorem Single.addKeywords {declaration : Declaration} (single : declaration.Single)
    (items : List Item) : (items.foldl addKeyword declaration).Single := by
  induction items generalizing declaration with
  | nil => exact single
  | cons item items ih =>
      cases item with
      | bare text => exact ih single
      | keyword key value => exact ih (single.withArgument key value)

/-- Keywords change nothing but the arguments. -/
theorem addKeywords_eq (declaration : Declaration) (items : List Item) :
    items.foldl addKeyword declaration =
      { declaration with arguments := (items.foldl addKeyword declaration).arguments } := by
  induction items generalizing declaration with
  | nil => rfl
  | cons item items ih =>
      rw [List.foldl_cons, ih]
      cases item <;> rfl

/-- Bare items give no keyword a value. -/
theorem addKeywords_bare (declaration : Declaration) (texts : List String) :
    (texts.map .bare).foldl addKeyword declaration = declaration := by
  induction texts with
  | nil => rfl
  | cons text texts ih => exact ih

theorem withArgument_of_new {declaration : Declaration} {key : String}
    (lowered : lower key = key) (new : key ∉ declaration.arguments.map (·.1)) (value : String) :
    declaration.withArgument key value =
      { declaration with arguments := declaration.arguments ++ [(key, value)] } := by
  have kept : declaration.arguments.filter (·.1 != key) = declaration.arguments := by
    rw [List.filter_eq_self]
    intro argument member
    have other : argument.1 ≠ key := by
      rintro rfl
      exact new (List.mem_map_of_mem member)
    simpa using other
  simp only [withArgument, lowered, kept]

/-- New keywords in lower case stand among the arguments as they are given. -/
theorem addKeywords_of_new {declaration : Declaration} {arguments : List (String × String)}
    (lowered : ∀ argument ∈ arguments, lower argument.1 = argument.1)
    (new : ((declaration.arguments ++ arguments).map (·.1)).Nodup) :
    (arguments.map fun argument => .keyword argument.1 argument.2).foldl addKeyword declaration =
      { declaration with arguments := declaration.arguments ++ arguments } := by
  induction arguments generalizing declaration with
  | nil => simp
  | cons argument arguments ih =>
      obtain ⟨key, value⟩ := argument
      have absent : key ∉ declaration.arguments.map (·.1) := by
        rw [List.map_append, List.map_cons, List.nodup_append'] at new
        intro present
        exact new.2.2 present (.head _)
      have one := withArgument_of_new (lowered (key, value) (.head _)) absent value
      rw [List.map_cons, List.foldl_cons, addKeyword, one, ih]
      · simp
      · intro later member
        exact lowered later (.tail _ member)
      · simpa using new

end Declaration

/-- What a declaration with a kind and some items says. -/
structure Declares (kind : String) (items : List Item) (declaration : Declaration) : Prop where
  kind : declaration.kind = lower kind
  /-- The name as a keyword counts more than the one in the first place. -/
  name : declaration.name = (lastValue "name" items).or (items.head?.bind (·.bare?))
  arguments : ∀ key, declaration.argument? key = if key = "name" then none else lastValue key items
  single : declaration.Single
  /-- The flags are the bare items but for one in the first place. -/
  flags : declaration.flags = items.tail.filterMap (·.bare?)

theorem declares_ofItems (kind : String) (items : List Item) (line : Nat) (span : Span) :
    Declares kind items (Declaration.ofItems kind items line span) where
  kind := by
    rw [Declaration.ofItems, Declaration.addKeywords_eq]
    rfl
  name := by
    simp only [Declaration.ofItems, Declaration.argument?_addKeywords]
    cases items with
    | nil => rfl
    | cons item items =>
        cases item with
        | bare text => simp [Declaration.empty, Declaration.argument?, positionalName, Item.bare?]
        | keyword key value =>
            simp [Declaration.empty, Declaration.argument?, positionalName, Item.bare?]
  arguments key := by
    have kept : (Declaration.ofItems kind items line span).argument? key = _ :=
      Declaration.argument?_withoutArgument
        (items.foldl Declaration.addKeyword (.empty kind line span)) "name" key
    rw [kept, Declaration.argument?_addKeywords]
    simp [Declaration.empty, Declaration.argument?]
  single := by
    have start : (Declaration.empty kind line span).Single := List.nodup_nil
    exact (start.addKeywords items).withoutArgument "name"
  flags := by
    simp only [Declaration.ofItems, laterFlags]
    congr 1
    funext item
    cases item <;> rfl

end FigureMarkup.Markup
