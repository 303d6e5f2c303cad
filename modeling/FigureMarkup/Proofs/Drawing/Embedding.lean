import FigureMarkup.Drawing.Page
import FigureMarkup.Proofs.Scene.Decoding

/-!
# The scene inside a page

A page holds its scene as JSON in a script element, which ends at the next `</`. A backslash is put
into every `</` of the JSON text, and none is left then. The scanner takes `<` only inside a string
and never right after a backslash, so it does not matter whether the slash behind it is escaped:
the scanner is in the same state after both, and the page loses nothing of the scene.
-/

namespace FigureMarkup

open Text

namespace Json

/-! ## The character before a slash -/

/-- JSON text has `<` inside of strings only, and not after a backslash. -/
theorem Scan.next?_less (state : Scan) :
    state.next? '<' = none ∨ ∃ text, state = .string text none ∧
      state.next? '<' = some ([], .string (text ++ ['<']) none) := by
  cases state with
  | between => exact .inl rfl
  | word text => exact .inl rfl
  | string text half =>
      cases half with
      | none => exact .inr ⟨text, rfl, rfl⟩
      | some half => exact .inl rfl
  | escape text half =>
      cases half with
      | none => exact .inl rfl
      | some half => exact .inl rfl
  | code text half left value => exact .inl rfl

/-- After `<` the slash may be escaped. -/
theorem scan?_less_slash (state : Scan) (rest : List Char) :
    scan? state ('<' :: '\\' :: '/' :: rest) = scan? state ('<' :: '/' :: rest) := by
  rcases state.next?_less with refused | ⟨text, rfl, step⟩
  · rw [scan?_refused refused, scan?_refused refused]
  · have slash : (Scan.string (text ++ ['<']) none).next? '/' =
        some ([], .string (text ++ ['<'] ++ ['/']) none) := rfl
    rw [scan?_silent step, scan?_silent step, scan?_escape _ rfl (by decide), scan?_silent slash]

theorem scan?_congr {state : Scan} {c : Char} {first second : List Char}
    (same : ∀ next, scan? next first = scan? next second) :
    scan? state (c :: first) = scan? state (c :: second) := by
  rw [scan?, scan?]
  cases state.next? c with
  | none => rfl
  | some both =>
      obtain ⟨tokens, next⟩ := both
      exact congrArg (Option.map _) (same next)

end Json

namespace Drawing

/-! ## The embedded text -/

/-- Text with a backslash in every `</`. -/
def withoutClosing (text : List Char) : List Char := replacePair '<' '/' ['<', '\\', '/'] text

theorem scan?_withoutClosing (text : List Char) (state : Json.Scan) :
    Json.scan? state (withoutClosing text) = Json.scan? state text := by
  unfold withoutClosing
  fun_induction replacePair '<' '/' ['<', '\\', '/'] text generalizing state with
  | case1 c d rest both ih =>
      obtain ⟨rfl, rfl⟩ : c = '<' ∧ d = '/' := by simpa using both
      calc
        _ = Json.scan? state ('<' :: '/' :: replacePair '<' '/' ['<', '\\', '/'] rest) :=
          Json.scan?_less_slash state _
        _ = _ := Json.scan?_congr fun _ => Json.scan?_congr fun _ => ih _
  | case2 c d rest other ih => exact Json.scan?_congr fun _ => ih _
  | case3 text short => rfl

theorem head?_withoutClosing (text : List Char) : (withoutClosing text).head? = text.head? := by
  unfold withoutClosing
  fun_cases replacePair '<' '/' ['<', '\\', '/'] text with
  | case1 c d rest both =>
      obtain ⟨rfl, rfl⟩ : c = '<' ∧ d = '/' := by simpa using both
      rfl
  | case2 c d rest other => rfl
  | case3 text short => rfl

theorem not_infix_withoutClosing (text : List Char) : ¬ ['<', '/'] <:+: withoutClosing text := by
  unfold withoutClosing
  fun_induction replacePair '<' '/' ['<', '\\', '/'] text with
  | case1 c d rest both ih => simpa [List.infix_cons_iff] using ih
  | case2 c d rest other ih =>
      intro inside
      rcases List.infix_cons_iff.1 inside with start | later
      · obtain ⟨rfl, more, whole⟩ := List.cons_prefix_cons.1 start
        have slash : (withoutClosing (d :: rest)).head? = some '/' := by
          rw [withoutClosing, ← whole]
          rfl
        rw [head?_withoutClosing] at slash
        cases slash
        exact other rfl
      · exact ih later
  | case3 text short =>
      intro inside
      match text, short with
      | [], _ => exact absurd inside.length_le (by decide)
      | [c], _ => exact absurd inside.length_le (Nat.not_succ_le_self 1)
      | c :: d :: rest, short => exact short c d rest rfl

theorem toList_embed (json : String) : (embed json).toList = withoutClosing json.toList :=
  String.toList_ofList

theorem not_infix_embed (json : String) : ¬ "</".toList <:+: (embed json).toList := by
  rw [toList_embed]
  exact not_infix_withoutClosing json.toList

/-- Embedded text is read like the text itself. -/
theorem read?_embed (json : String) : Json.read? (embed json) = Json.read? json := by
  rw [Json.read?, Json.Reading.through, toList_embed, scan?_withoutClosing]
  rfl

example : embed "[\"\\\\</script>\",0]" = "[\"\\\\<\\/script>\",0]" := by decide

/-! ## The page -/

theorem page_eq (title : String) (settings : Settings Float) (scene : Scene Float) :
    ∃ before, page title settings scene =
      before ++ "<script type=\"application/json\" id=\"scene\">" ++ embed scene.compact ++
        "</script>\n" ++ (around "script" pageScript "script" ++ "</body>\n</html>\n") := by
  have parts : ∃ before, page title settings scene =
      before ++ around "script type=\"application/json\" id=\"scene\"" (embed scene.compact)
        "script" ++ around "script" pageScript "script" ++ "</body>\n</html>\n" := ⟨_, rfl⟩
  obtain ⟨before, parts⟩ := parts
  have opening : "<" ++ "script type=\"application/json\" id=\"scene\"" ++ ">" =
      "<script type=\"application/json\" id=\"scene\">" := by decide
  have closing : "</" ++ ("script" ++ ">\n") = "</script>\n" := by decide
  refine ⟨before, ?_⟩
  rw [parts, around, opening]
  simp only [String.append_assoc, closing]

/-- The script element of a page is not ended by the scene in it, and holds all of it: what can be
read there are its entities, animations and text. -/
theorem page_holds_scene (title : String) (settings : Settings Float) (scene : Scene Float) :
    (∃ before, page title settings scene =
      before ++ "<script type=\"application/json\" id=\"scene\">" ++ embed scene.compact ++
        "</script>\n" ++ (around "script" pageScript "script" ++ "</body>\n</html>\n")) ∧
      ¬ "</".toList <:+: (embed scene.compact).toList ∧
      Json.read? (embed scene.compact) = Json.read? scene.compact ∧
      Json.read? scene.compact = some scene.json.readBack ∧
      (Json.read? (embed scene.compact)).bind Scene.ofJson? = some scene.kept := by
  have compact : Json.read? scene.compact = some scene.json.readBack :=
    Json.read?_compact scene.json
  refine ⟨page_eq title settings scene, not_infix_embed scene.compact, read?_embed scene.compact,
    compact, ?_⟩
  rw [read?_embed, compact, Option.bind_some, Scene.ofJson?_readBack]

end Drawing

end FigureMarkup
