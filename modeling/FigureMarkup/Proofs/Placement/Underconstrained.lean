import FigureMarkup.Proofs.Placement.Resolution

/-!
# Why a figure is underconstrained

The points that placement leaves over are not left without a cause. Each of them was asked to lie
on a shape that it is no part of, and each of the weaker rules had a reason not to apply. Where
nothing was asked of any point, no point is left over.
-/

namespace FigureMarkup.Placement

open Figure Plane Markup Construction

variable {σ α : Type}

/-! ## What rules that refuse a point say about it -/

section Refused

variable [Scalar α] [Random.Source σ α] {settings : Settings α} {registry : Registry α}
  {id : PointId} {point : Point α} {source : σ}

omit [Scalar α] in
theorem constraintsOf_eq (stored : registry.point? id = some point) :
    constraintsOf registry id = point.constraints := by
  simp [constraintsOf, stored]

omit [Scalar α] in
theorem liesOnOf_eq (stored : registry.point? id = some point) :
    liesOnOf registry id = point.liesOn := by
  simp [liesOnOf, stored]

theorem byRequest_refused [Random.Lawful σ] (stored : registry.point? id = some point)
    (refused : byRequest settings registry id source = .ok none) :
    registry.shapes point.liesOn = [] ∨
      2 ≤ (registry.shapes point.liesOn).length ∧
        intersectAll (registry.shapes point.liesOn) settings.tolerance = [] := by
  unfold byRequest at refused
  rw [liesOnOf_eq stored] at refused
  cases known : registry.shapes point.liesOn with
  | nil => exact .inl rfl
  | cons first rest =>
      cases rest with
      | nil =>
          rw [known] at refused
          cases refused
      | cons second rest =>
          refine .inr ⟨by simp, ?_⟩
          rw [known] at refused
          simp only [whereAllMeet] at refused
          rcases chosen : Random.choose
              (intersectAll (first :: second :: rest) settings.tolerance) source with
            ⟨_ | position, later⟩
          · exact Random.choose_eq_none_iff.1 (congrArg Prod.fst chosen)
          · simp [chosen] at refused

theorem byCircle_refused (stored : registry.point? id = some point)
    (refused : byCircle settings registry id source = .ok none) :
    (registry.shapes (point.constraints.filter ShapeRef.isCircle)).length ≠ 1 := by
  unfold byCircle at refused
  rw [constraintsOf_eq stored] at refused
  intro single
  obtain ⟨circle, known⟩ := List.length_eq_one_iff.1 single
  rw [known] at refused
  cases refused

theorem byDefinition_refused (stored : registry.point? id = some point)
    (refused : byDefinition settings registry id source = .ok none) :
    ∃ shape ∈ point.constraints, registry.defines id shape = false := by
  unfold byDefinition at refused
  rw [constraintsOf_eq stored] at refused
  split at refused
  case isTrue => exact absurd refused (anywhere_ne_none settings source)
  case isFalse outside => simpa using outside

theorem byLines_refused (stored : registry.point? id = some point)
    (refused : byLines settings registry id source = .ok none) :
    ∃ shape ∈ point.constraints, shape.isLine = false := by
  unfold byLines at refused
  rw [constraintsOf_eq stored] at refused
  split at refused
  case isTrue => exact absurd refused (anywhere_ne_none settings source)
  case isFalse curved => simpa using curved

end Refused

/-! ## Documents that ask nothing -/

/-- No point was asked to lie on a shape. -/
def Unasked (registry : Registry α) : Prop :=
  ∀ id point, registry.point? id = some point → point.liesOn = []

variable [Scalar α]

/-- Points are asked to lie on shapes only by declarations that say so. -/
theorem construct_unasked (palette : Palette) {declarations : List Declaration}
    (nothing : ∀ declaration ∈ declarations, declaration.argument? "lieson" = none) :
    Unasked (construct palette declarations : Registry α) := by
  refine (construct_induction ?_ declarations
    fun declaration member before after _ change kept => ?_).2
  · intro id point stored
    simp [Registry.point?, Registry.empty] at stored
  · intro id point stored
    rcases change.point_cases stored with ⟨-, name, color, rfl⟩ | ⟨old, stored, changed⟩
    · rfl
    · have before := kept id old stored
      cases changed with
      | keep color => exact before
      | record position shape random asked =>
          rw [recordPoint_liesOn]
          cases shape with
          | none => exact before
          | some wanted =>
              have said := (asked wanted rfl).2
              simp [nothing declaration member] at said
      | constrain => exact before

variable [Random.Source σ α]

/-- A point is left without a place only for a cause. -/
theorem cause_of_left [Random.Lawful σ] {settings : Settings α} {run : Run σ α}
    {left : List PointId} (formed : WellFormed run.registry) (stuck : Stuck settings run left)
    {id : PointId} {point : Point α} (member : id ∈ left)
    (stored : run.registry.point? id = some point) :
    (∃ shape ∈ point.liesOn, run.registry.defines id shape = false) ∧
      (run.registry.shapes point.liesOn = [] ∨
        2 ≤ (run.registry.shapes point.liesOn).length ∧
          intersectAll (run.registry.shapes point.liesOn) settings.tolerance = []) ∧
      (run.registry.shapes (point.constraints.filter ShapeRef.isCircle)).length ≠ 1 ∧
      ∃ shape ∈ point.constraints, shape.isLine = false := by
  have refused (rule : Rule σ α) (weaker : rule ∈ weakerRules) :
      rule settings run.registry id run.source = .ok none :=
    stuck.refused rule weaker id member
  obtain ⟨shape, constrains, foreign⟩ :=
    byDefinition_refused stored (refused byDefinition (by simp [weakerRules]))
  have asked : shape ∈ point.liesOn := by
    rcases ((formed.points id point stored).reasons shape).1 constrains with own | asked
    · rw [foreign] at own
      cases own
    · exact asked
  exact ⟨⟨shape, asked, foreign⟩,
    byRequest_refused stored (refused byRequest (by simp [weakerRules])),
    byCircle_refused stored (refused byCircle (by simp [weakerRules])),
    byLines_refused stored (refused byLines (by simp [weakerRules]))⟩

/-- A figure that declarations build is reported as underconstrained only for causes that can be
seen in the registry that is left, and never if nothing was asked of its points. -/
theorem underconstrained_cause [Random.Lawful σ] (palette : Palette)
    (declarations : List Declaration) (settings : Settings α) (source : σ) :
    let result := resolve settings ⟨construct palette declarations, source⟩
    let final := result.2.registry
    (∀ names, result.1 = .error (.underconstrained names) →
      ∀ id point, final.point? id = some point → point.name ∈ names →
        (∃ shape ∈ point.liesOn, final.defines id shape = false) ∧
        (final.shapes point.liesOn = [] ∨
          2 ≤ (final.shapes point.liesOn).length ∧
            intersectAll (final.shapes point.liesOn) settings.tolerance = []) ∧
        (final.shapes (point.constraints.filter ShapeRef.isCircle)).length ≠ 1 ∧
        ∃ shape ∈ point.constraints, shape.isLine = false) ∧
      ((∀ declaration ∈ declarations, declaration.argument? "lieson" = none) →
        (∀ names, result.1 ≠ .error (.underconstrained names)) ∧
        (Scalar.abs settings.bound ≤ 1e300 → result.1 = .ok ())) := by
  intro result final
  let start : Progress σ α := ⟨construct palette declarations, source⟩
  have formed : WellFormed (placeAll settings start).2.registry :=
    (placeAll_ends settings start).extends_run.wellFormed (construct_sound palette declarations).1
  have unreported (nothing : ∀ declaration ∈ declarations, declaration.argument? "lieson" = none)
      (names : List String) : result.1 ≠ .error (.underconstrained names) := by
    intro failed
    obtain ⟨-, stuck⟩ := stuck_of_underconstrained (placeAll_of_resolve_error failed)
    obtain ⟨id, member⟩ := List.exists_mem_of_ne_nil _ stuck.nonempty
    obtain ⟨point, stored⟩ := Registry.holds_point_iff.1 (holds_of_mem_left member)
    obtain ⟨⟨shape, asked, -⟩, -⟩ := cause_of_left formed stuck member stored
    obtain ⟨placed, -, -, went, -⟩ := (placeAll_ends settings start).extends_run
    rw [went] at stored
    obtain ⟨old, earlier, same⟩ := Registry.point?_placePoints _ _ stored
    have unasked : point.liesOn = [] := by
      rw [same]
      exact construct_unasked palette nothing id old earlier
    simp [unasked] at asked
  refine ⟨fun names failed => ?_, fun nothing => ⟨unreported nothing, fun bounded => ?_⟩⟩
  · have left := placeAll_of_resolve_error failed
    have same : final = (placeAll settings start).2.registry := by
      simp only [final, result, start, resolve_of_error left]
    obtain ⟨named, stuck⟩ := stuck_of_underconstrained left
    rw [same]
    intro id point stored mentioned
    have member : id ∈ leftIds settings start :=
      mem_of_name_mem formed.indexed (fun _ => holds_of_mem_left) stored (named ▸ mentioned)
    exact cause_of_left formed stuck member stored
  · cases ended : result.1 with
    | ok => rfl
    | error error =>
        rcases (placeAll_ends settings start).failed error (placeAll_of_resolve_error ended)
          with fails | ⟨rfl, -⟩
        · exact absurd fails (not_failsAnywhere bounded error)
        · exact absurd ended (unreported nothing _)

/-- A point on a circle without a place is left over, and the circle alone is no hindrance. -/
theorem underconstrained_cause_bare_circle :
    let circle : Declaration := ⟨"circle", some "c1", 1, ⟨0, 11⟩, [], []⟩
    let asked : Declaration := ⟨"point", some "P", 1, ⟨12, 41⟩, [("lieson", "circle c1")], []⟩
    let settings : Settings Float := .standard
    let source := Random.Keystream.ofSeed 1
    let result := resolve settings ⟨construct .standard [circle, asked], source⟩
    result.1 = .error (.underconstrained ["P"]) ∧
      (∀ id point, result.2.registry.point? id = some point → point.name ∈ ["P"] →
        ∃ shape ∈ point.liesOn, result.2.registry.defines id shape = false) ∧
      (resolve settings ⟨construct .standard [circle], source⟩).1 = .ok () := by
  intro circle asked settings source result
  have failed : result.1 = .error (.underconstrained ["P"]) := by decide +kernel
  refine ⟨failed, fun id point stored named => ?_, ?_⟩
  · have cause := underconstrained_cause .standard [circle, asked] settings source
    exact (cause.1 ["P"] failed id point stored named).1
  · have alone := underconstrained_cause .standard [circle] settings source
    have nothing : ∀ declaration ∈ [circle], declaration.argument? "lieson" = none := by
      simp [circle, Declaration.argument?]
    have small : Scalar.abs settings.bound ≤ 1e300 := by decide +kernel
    exact (alone.2 nothing).2 small

end FigureMarkup.Placement
