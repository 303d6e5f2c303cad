import FigureMarkup.Proofs.Placement.Resolution
import FigureMarkup.Proofs.Strict.Placement

/-!
# Strict runs of placement

A run that puts points somewhere has to hold these points, and those whose names it reports; and
the points of an angle that is measured are looked up as well. A run goes on between well-formed
figures, and the points that it visits wait in them, so they are held throughout. Placing a
well-formed figure always has a result therefore, if all ranges that are drawn from are filled.
-/

namespace FigureMarkup.Strict

open Figure Plane Construction Placement FigureMarkup.Random

variable {σ α : Type}

/-! ## Runs -/

/-- Put a point somewhere, which the figure has to hold. -/
def place (run : Run σ α) (id : PointId) (position : Vec α) (source : σ) : Option (Run σ α) :=
  withHeld run.registry (.point id) (run.place id position source)

/-- Place the first of some points to which a rule applies, and say which point this is. -/
def placeFirst (settings : Settings α) (rule : Rule σ α) (run : Run σ α) :
    List PointId → Option (Attempt σ α (Option PointId))
  | [] => some (.ok none, run)
  | id :: ids => do
      match ← rule settings run.registry id run.source with
      | .error error => return (.error error, run)
      | .ok (some (position, source)) => return (.ok (some id), ← place run id position source)
      | .ok none => placeFirst settings rule run ids

/-- Try rules in turn, each on all points, until one places a point. -/
def placeByRules (settings : Settings α) (run : Run σ α) (stuck : List PointId) :
    List (Rule σ α) → Option (Attempt σ α (Option PointId))
  | [] => some (.ok none, run)
  | rule :: rules => do
      match ← placeFirst settings rule run stuck with
      | (.error error, run) => return (.error error, run)
      | (.ok (some id), run) => return (.ok (some id), run)
      | (.ok none, run) => placeByRules settings run stuck rules

def namesOf (registry : Registry α) (ids : List PointId) : Option (List String) :=
  ids.mapM fun id => registry.name (.point id)

variable [Scalar α] [Source σ α]

/-- Place the points that may lie anywhere, and collect the others that have no place. -/
def scatter (settings : Settings α) (run : Run σ α) :
    List PointId → Option (Attempt σ α (List PointId))
  | [] => some (.ok [], run)
  | id :: ids => do
      let point ← run.registry.point? id
      if point.isPlaced then
        scatter settings run ids
      else if point.random then
        match ← anywhere settings run.source with
        | .ok (some (position, source)) => scatter settings (← place run id position source) ids
        | .ok none => scatter settings run ids
        | .error error => return (.error error, run)
      else
        match ← scatter settings run ids with
        | (.ok rest, run) => return (.ok (id :: rest), run)
        | (.error error, run) => return (.error error, run)

/-- Visit points in turn, placing those whose constraints allow it, and say which are left. -/
def round (settings : Settings α) (run : Run σ α) :
    List PointId → Option (Attempt σ α (List PointId))
  | [] => some (.ok [], run)
  | id :: ids => do
      match ← byConstraints settings run.registry id run.source with
      | .error error => return (.error error, run)
      | .ok (some (position, source)) => round settings (← place run id position source) ids
      | .ok none =>
          match ← round settings run ids with
          | (.ok rest, run) => return (.ok (id :: rest), run)
          | (.error error, run) => return (.error error, run)

def pass (settings : Settings α) (run : Run σ α) (ids : List PointId) :
    Option (Attempt σ α (List PointId)) := do
  match ← round settings run ids with
  | (.error error, later) => return (.error error, later)
  | (.ok left, later) =>
      if left.length < ids.length then
        return (.ok left, later)
      else
        match ← placeByRules settings later left weakerRules with
        | (.error error, last) => return (.error error, last)
        | (.ok none, last) =>
            let names ← namesOf last.registry left
            return (.error (.underconstrained names), last)
        | (.ok (some placed), last) => return (.ok (left.filter (· != placed)), last)

/-- Place points in passes. A pass that leaves as many points as before has no result. -/
def settle (settings : Settings α) (run : Run σ α) (ids : List PointId) :
    Option (Attempt σ α Unit) :=
  if ids.isEmpty then
    some (.ok (), run)
  else
    match pass settings run.beginRound ids with
    | none => none
    | some (.error error, later) => some (.error error, later)
    | some (.ok left, later) =>
        if left.length < ids.length then settle settings later left else none
termination_by ids.length

def placeAll (settings : Settings α) (progress : Progress σ α) : Option (Attempt σ α Unit) := do
  match ← scatter settings (.start progress) progress.registry.pointIds with
  | (.error error, run) => return (.error error, run)
  | (.ok ids, run) => settle settings run ids

/-- Measure an angle if its points are placed, or else leave it as it is. -/
def measured (registry : Registry α) (angle : Angle α) : Option (Angle α) := do
  let a ← optionalPosition registry angle.p1
  let vertex ← optionalPosition registry angle.vertex
  let c ← optionalPosition registry angle.p3
  return match a, vertex, c with
    | some a, some vertex, some c => angle.measureAt a vertex c
    | _, _, _ => angle

def measureAngles (registry : Registry α) : Option (Registry α) := do
  let angles ← registry.angles.toList.mapM (measured registry)
  return { registry with angles := angles.toArray }

def resolve (settings : Settings α) (progress : Progress σ α) :
    Option (Except PlacementError Unit × Progress σ α) := do
  match ← placeAll settings progress with
  | (.error error, run) => return (.error error, run.toProgress)
  | (.ok (), run) =>
      let registry ← measureAngles run.registry
      return (.ok (), { run with registry })

/-! ## Points that wait -/

section Waiting

omit [Scalar α] [Source σ α]

theorem place_eq {run : Run σ α} {id : PointId} (held : run.registry.Holds (.point id))
    (position : Vec α) (source : σ) :
    place run id position source = some (run.place id position source) :=
  withHeld_eq held _

theorem holds_place {run : Run σ α} {id : PointId} {position : Vec α} {source : σ}
    {entity : EntityRef} :
    (run.place id position source).registry.Holds entity ↔ run.registry.Holds entity :=
  (run.registry.sameNames_placePoints [(id, position)]).holds_iff

theorem namesOf_eq {registry : Registry α} {ids : List PointId}
    (held : ∀ id ∈ ids, registry.Holds (.point id)) :
    namesOf registry ids = some (Placement.namesOf registry ids) := by
  refine mapM_eq fun id member => ?_
  obtain ⟨name, named⟩ := Registry.holds_iff_name.1 (held id member)
  rw [named]
  rfl

/-- A figure is well formed, and some different points wait in it. -/
structure Ready (registry : Registry α) (ids : List PointId) : Prop where
  formed : WellFormed registry
  distinct : ids.Nodup
  waiting : ∀ id ∈ ids, registry.awaits id = true

namespace Ready

variable {registry : Registry α} {run : Run σ α} {id : PointId} {ids : List PointId}

theorem held (ready : Ready registry ids) : ∀ id ∈ ids, registry.Holds (.point id) :=
  fun id member => (Registry.awaits_iff.1 (ready.waiting id member)).1

theorem tail (ready : Ready registry (id :: ids)) : Ready registry ids where
  formed := ready.formed
  distinct := (List.nodup_cons.1 ready.distinct).2
  waiting := (List.forall_mem_cons.1 ready.waiting).2

theorem place (ready : Ready run.registry (id :: ids)) (position : Vec α) (source : σ) :
    Ready (run.place id position source).registry ids := by
  obtain ⟨fresh, distinct⟩ := List.nodup_cons.1 ready.distinct
  obtain ⟨first, others⟩ := List.forall_mem_cons.1 ready.waiting
  exact ⟨(frame_placePoint first position).wellFormed ready.formed, distinct,
    waiting_place fresh others position source⟩

/-- The points that still wait are ready later if a run has gone on from the earlier ones. -/
theorem of_left {later : Run σ α} {left : List PointId} (ready : Ready run.registry ids)
    (went : Extends ids run later) (remaining : left = ids.filter later.registry.awaits) :
    Ready later.registry left where
  formed := went.wellFormed ready.formed
  distinct := remaining ▸ ready.distinct.filter _
  waiting := awaits_of_left remaining

end Ready

/-! ### Rules for points that wait -/

variable {settings : Settings α}

theorem placeFirst_eq {strict : Rule σ α} {rule : Placement.Rule σ α}
    (agrees : Agrees settings strict rule) {run : Run σ α} {ids : List PointId}
    (ready : Ready run.registry ids) :
    placeFirst settings strict run ids = some (Placement.placeFirst settings rule run ids) := by
  induction ids with
  | nil => rfl
  | cons id ids ih =>
      have held := ready.held id List.mem_cons_self
      rw [placeFirst, Placement.placeFirst, agrees run.source ready.formed held]
      rcases rule settings run.registry id run.source with error | _ | ⟨position, source⟩
      · rfl
      · exact ih ready.tail
      · simp [place_eq held]

theorem placeByRules_eq {strict : List (Rule σ α)} {rules : List (Placement.Rule σ α)}
    (agree : List.Forall₂ (Agrees settings) strict rules) {run : Run σ α} {stuck : List PointId}
    (ready : Ready run.registry stuck) :
    placeByRules settings run stuck strict =
      some (Placement.placeByRules settings run stuck rules) := by
  induction agree with
  | nil => rfl
  | cons agrees _ ih =>
      rw [placeByRules, Placement.placeByRules, placeFirst_eq agrees ready]
      rcases tried : Placement.placeFirst settings _ run stuck with ⟨error | _ | id, later⟩
      · rfl
      · obtain ⟨rfl, -⟩ := placeFirst_stuck settings tried
        exact ih
      · rfl

end Waiting

/-! ## Angles of well-formed figures -/

section Angles

omit [Source σ α]

theorem measured_eq {registry : Registry α} {angle : Angle α} (sound : AngleSound registry angle) :
    measured registry angle = some ((registry.measure? angle).getD angle) := by
  obtain ⟨p1, vertex, p3, first, middle, last, -, held⟩ := sound
  rw [measured, Registry.measure?, first, middle, last, optionalPosition, optionalPosition,
    optionalPosition, position_eq (held p1 (by simp)), position_eq (held vertex (by simp)),
    position_eq (held p3 (by simp))]
  dsimp only [Option.bind_eq_bind, Option.bind_some]
  cases registry.position p1 <;> cases registry.position vertex <;>
    cases registry.position p3 <;> rfl

theorem measureAngles_eq {registry : Registry α} (formed : WellFormed registry) :
    measureAngles registry = some (Placement.measureAngles registry) := by
  have each : registry.angles.toList.mapM (measured registry) =
      some (registry.angles.toList.map fun angle => (registry.measure? angle).getD angle) := by
    refine mapM_eq fun angle member => ?_
    obtain ⟨index, stored⟩ := List.mem_iff_getElem?.1 member
    exact measured_eq (formed.angles ⟨index⟩ angle (by simpa [Registry.angle?] using stored))
  rw [measureAngles, each, Placement.measureAngles]
  simp [← Array.toList_map]

end Angles

/-! ## Placing always has a result -/

section Results

variable {settings : Settings α} (filled : Filled σ settings)

include filled

theorem scatter_eq (run : Run σ α) {ids : List PointId}
    (held : ∀ id ∈ ids, run.registry.Holds (.point id)) :
    scatter settings run ids = some (Placement.scatter settings run ids) := by
  induction ids generalizing run with
  | nil => rfl
  | cons id ids ih =>
      obtain ⟨here, others⟩ := List.forall_mem_cons.1 held
      obtain ⟨point, stored⟩ := Registry.holds_point_iff.1 here
      rw [scatter, Placement.scatter, stored]
      dsimp only [Option.bind_eq_bind, Option.bind_some]
      split
      · exact ih run others
      · split
        · rw [anywhere_eq filled]
          rcases Placement.anywhere settings run.source with error | _ | ⟨position, source⟩
          · rfl
          · exact ih run others
          · dsimp only [Option.bind_some]
            rw [place_eq here]
            exact ih _ fun other member => holds_place.2 (others other member)
        · rw [ih run others]
          rcases Placement.scatter settings run ids with ⟨_ | _, _⟩ <;> rfl

theorem round_eq {run : Run σ α} {ids : List PointId} (ready : Ready run.registry ids) :
    round settings run ids = some (Placement.round settings run ids) := by
  induction ids generalizing run with
  | nil => rfl
  | cons id ids ih =>
      have held := ready.held id List.mem_cons_self
      rw [round, Placement.round, agrees_byConstraints filled run.source ready.formed held]
      rcases Placement.byConstraints settings run.registry id run.source with
        error | _ | ⟨position, source⟩
      · rfl
      · dsimp only [Option.bind_eq_bind, Option.bind_some]
        rw [ih ready.tail]
        rcases Placement.round settings run ids with ⟨_ | _, _⟩ <;> rfl
      · dsimp only [Option.bind_eq_bind, Option.bind_some]
        rw [place_eq held]
        exact ih (ready.place position source)

theorem pass_eq {run : Run σ α} {ids : List PointId} (ready : Ready run.registry ids) :
    pass settings run ids = some (Placement.pass settings run ids) := by
  rw [pass, Placement.pass, round_eq filled ready]
  rcases visited : Placement.round settings run ids with ⟨error | left, later⟩
  · rfl
  · dsimp only [Option.bind_eq_bind, Option.bind_some]
    by_cases shorter : left.length < ids.length
    · rw [if_pos shorter, if_pos shorter]
      rfl
    · obtain ⟨rfl, rfl⟩ := round_stuck settings visited shorter
      rw [if_neg shorter, if_neg shorter, placeByRules_eq (agrees_weakerRules filled) ready]
      rcases ruled : Placement.placeByRules settings later left Placement.weakerRules with
        ⟨error | _ | placed, last⟩
      · rfl
      · obtain ⟨rfl, -⟩ := placeByRules_stuck settings ruled
        dsimp only [Option.bind_some]
        rw [namesOf_eq ready.held]
        rfl
      · rfl

/-- Every pass is between figures in which the points to visit are ready, and it leaves fewer of
them. -/
theorem settle_eq {run : Run σ α} {ids : List PointId} (ready : Ready run.registry ids) :
    settle settings run ids = some (Placement.settle settings run ids) := by
  induction length : ids.length using Nat.strongRecOn generalizing run ids with
  | ind n ih =>
      by_cases empty : ids = []
      · subst empty
        rw [settle, settle_nil]
        rfl
      · have begun : Ready run.beginRound.registry ids := ready
        rw [settle, if_neg (by simpa using empty), Placement.settle_eq run empty,
          pass_eq filled begun]
        rcases passed : Placement.pass settings run.beginRound ids with ⟨error | left, later⟩
        · rfl
        · have shorter : left.length < ids.length :=
            length_pass_lt settings run.beginRound ids (congrArg Prod.fst passed)
          have went := extends_pass settings run.beginRound begun.distinct begun.waiting
          rw [passed] at went
          have remaining := pass_left begun.distinct begun.waiting passed
          dsimp only
          rw [if_pos shorter]
          exact ih left.length (by omega) (begun.of_left went remaining) rfl

theorem placeAll_eq {progress : Progress σ α} (formed : WellFormed progress.registry) :
    placeAll settings progress = some (Placement.placeAll settings progress) := by
  have held : ∀ id ∈ progress.registry.pointIds, progress.registry.Holds (.point id) :=
    fun id member => mem_pointIds.1 member
  have went := extends_scatter settings (.start progress) progress.registry.pointIds
  rw [placeAll, Placement.placeAll, scatter_eq filled (.start progress) held]
  rcases scattered : Placement.scatter settings (.start progress) progress.registry.pointIds with
    ⟨error | ids, run⟩
  · rfl
  · rw [scattered] at went
    have distinct := nodup_pointIds progress.registry
    have remaining := (scatter_left settings distinct scattered).1
    exact settle_eq filled ⟨went.wellFormed formed, remaining ▸ distinct.filter _,
      awaits_of_left remaining⟩

/-- Placing the points of a well-formed figure and measuring its angles always has a result, and it
is the usual one. -/
theorem resolve_eq {progress : Progress σ α} (formed : WellFormed progress.registry) :
    resolve settings progress = some (Placement.resolve settings progress) := by
  have placing : Frame progress.registry (Placement.placeAll settings progress).2.registry :=
    (placeAll_ends settings progress).extends_run.frame
  rw [resolve, Placement.resolve, placeAll_eq filled formed]
  rcases placed : Placement.placeAll settings progress with ⟨error | _, run⟩
  · rfl
  · rw [placed] at placing
    dsimp only [Option.bind_eq_bind, Option.bind_some]
    rw [measureAngles_eq (placing.wellFormed formed)]
    rfl

end Results

end FigureMarkup.Strict
