import FigureMarkup.Placement.Position

/-!
# Placing figures

The points of a figure are placed one after another. Points that are still without a place are
visited in rounds, and each visit places a point if its constraints say where. A round that places
no point is followed by one use of the weaker rules. Every round leaves fewer points, so there are
no more rounds than points. At the end all angles are measured. A run keeps a record of the points
that it has placed, in order, and of the number of its rounds.
-/

namespace FigureMarkup.Placement

open Figure Plane

variable {σ α : Type}

/-- A figure that is being placed, and the source of random numbers. -/
structure Progress (σ α : Type) where
  registry : Registry α
  source : σ

/-- A run that places a figure, with the record of what it has done. -/
structure Run (σ α : Type) extends Progress σ α where
  /-- The points that the run has put somewhere, in order, each with its place. -/
  placed : List (PointId × Vec α)
  /-- The number of rounds that the run has begun. -/
  rounds : Nat

namespace Run

def start (progress : Progress σ α) : Run σ α := ⟨progress, [], 0⟩

/-- Put a point somewhere, and go on with a source. -/
def place (run : Run σ α) (id : PointId) (position : Vec α) (source : σ) : Run σ α :=
  { run with
    registry := run.registry.placePoint id position
    source
    placed := run.placed ++ [(id, position)] }

def beginRound (run : Run σ α) : Run σ α := { run with rounds := run.rounds + 1 }

end Run

/-- The result of an attempt, and how far it came. -/
abbrev Attempt (σ α β : Type) := Except PlacementError β × Run σ α

variable [Scalar α] [Random.Source σ α]

/-- Place the points that may lie anywhere, and collect the others that have no place. -/
def scatter (settings : Settings α) (run : Run σ α) :
    List PointId → Attempt σ α (List PointId)
  | [] => (.ok [], run)
  | id :: ids =>
      match run.registry.point? id with
      | none => scatter settings run ids
      | some point =>
          if point.isPlaced then
            scatter settings run ids
          else if point.random then
            match anywhere settings run.source with
            | .ok (some (position, source)) =>
                scatter settings (run.place id position source) ids
            | .ok none => scatter settings run ids
            | .error error => (.error error, run)
          else
            match scatter settings run ids with
            | (.ok rest, run) => (.ok (id :: rest), run)
            | (.error error, run) => (.error error, run)

/-- Visit points in turn, placing those whose constraints allow it, and say which are left. -/
def round (settings : Settings α) (run : Run σ α) :
    List PointId → Attempt σ α (List PointId)
  | [] => (.ok [], run)
  | id :: ids =>
      match byConstraints settings run.registry id run.source with
      | .error error => (.error error, run)
      | .ok (some (position, source)) =>
          round settings (run.place id position source) ids
      | .ok none =>
          match round settings run ids with
          | (.ok rest, run) => (.ok (id :: rest), run)
          | (.error error, run) => (.error error, run)

/-- Place the first of some points to which a rule applies, and say which point this is. -/
def placeFirst (settings : Settings α) (rule : Rule σ α) (run : Run σ α) :
    List PointId → Attempt σ α (Option PointId)
  | [] => (.ok none, run)
  | id :: ids =>
      match rule settings run.registry id run.source with
      | .error error => (.error error, run)
      | .ok (some (position, source)) => (.ok (some id), run.place id position source)
      | .ok none => placeFirst settings rule run ids

/-- Try rules in turn, each on all points, until one places a point. -/
def placeByRules (settings : Settings α) (run : Run σ α) (stuck : List PointId) :
    List (Rule σ α) → Attempt σ α (Option PointId)
  | [] => (.ok none, run)
  | rule :: rules =>
      match placeFirst settings rule run stuck with
      | (.error error, run) => (.error error, run)
      | (.ok (some id), run) => (.ok (some id), run)
      | (.ok none, run) => placeByRules settings run stuck rules

theorem length_round_le (settings : Settings α) (run : Run σ α)
    (ids : List PointId) {left : List PointId}
    (done : (round settings run ids).1 = .ok left) : left.length ≤ ids.length := by
  induction ids generalizing run left with
  | nil => simp_all [round]
  | cons id ids ih =>
      rw [round] at done
      match placed : byConstraints settings run.registry id run.source with
      | .error error => simp [placed] at done
      | .ok (some (position, source)) =>
          simp only [placed] at done
          exact Nat.le_succ_of_le (ih _ done)
      | .ok none =>
          rcases visited : round settings run ids with ⟨error | rest, later⟩
          · simp [placed, visited] at done
          · obtain rfl : id :: rest = left := by simpa [placed, visited] using done
            exact Nat.succ_le_succ (ih run (congrArg Prod.fst visited))

omit [Scalar α] [Random.Source σ α] in
/-- The point that a rule places is one of those to which it may apply. -/
theorem placeFirst_mem (settings : Settings α) (rule : Rule σ α) (run : Run σ α)
    (ids : List PointId) {placed : PointId}
    (done : (placeFirst settings rule run ids).1 = .ok (some placed)) : placed ∈ ids := by
  induction ids with
  | nil => simp [placeFirst] at done
  | cons id ids ih =>
      rw [placeFirst] at done
      split at done
      · simp at done
      · simp_all
      · exact List.mem_cons_of_mem _ (ih done)

omit [Scalar α] [Random.Source σ α] in
/-- The point that some rules place is one of those to which they may apply. -/
theorem placeByRules_mem (settings : Settings α) (run : Run σ α)
    (stuck : List PointId) (rules : List (Rule σ α)) {placed : PointId}
    (done : (placeByRules settings run stuck rules).1 = .ok (some placed)) :
    placed ∈ stuck := by
  induction rules generalizing run with
  | nil => simp [placeByRules] at done
  | cons rule rules ih =>
      rw [placeByRules] at done
      match first : placeFirst settings rule run stuck with
      | (.error error, later) => simp [first] at done
      | (.ok (some id), later) =>
          obtain rfl : id = placed := by simpa [first] using done
          exact placeFirst_mem settings rule run stuck (congrArg Prod.fst first)
      | (.ok none, later) =>
          simp only [first] at done
          exact ih later done

theorem length_filter_ne_lt {ids : List PointId} {id : PointId} (member : id ∈ ids) :
    (ids.filter (· != id)).length < ids.length :=
  List.length_filter_lt_length_iff_exists.2 ⟨id, member, by simp⟩

def namesOf (registry : Registry α) (ids : List PointId) : List String :=
  ids.map fun id => (registry.name (.point id)).getD ""

/-- Go once through the points that are left. A round that places none of them is followed by one
use of the weaker rules, and it is an error if these place none either. -/
def pass (settings : Settings α) (run : Run σ α) (ids : List PointId) :
    Attempt σ α (List PointId) :=
  match round settings run ids with
  | (.error error, later) => (.error error, later)
  | (.ok left, later) =>
      if left.length < ids.length then
        (.ok left, later)
      else
        match placeByRules settings later left weakerRules with
        | (.error error, last) => (.error error, last)
        | (.ok none, last) => (.error (.underconstrained (namesOf last.registry left)), last)
        | (.ok (some placed), last) => (.ok (left.filter (· != placed)), last)

theorem length_pass_lt (settings : Settings α) (run : Run σ α) (ids : List PointId)
    {left : List PointId} (done : (pass settings run ids).1 = .ok left) :
    left.length < ids.length := by
  rw [pass] at done
  rcases visited : round settings run ids with ⟨error | kept, later⟩
  · simp [visited] at done
  · have bounded : kept.length ≤ ids.length :=
      length_round_le settings run ids (congrArg Prod.fst visited)
    by_cases fewer : kept.length < ids.length
    · obtain rfl : kept = left := by simpa [visited, fewer] using done
      exact fewer
    · match ruled : placeByRules settings later kept weakerRules with
      | (.error error, last) | (.ok none, last) => simp [visited, fewer, ruled] at done
      | (.ok (some placed), last) =>
          have shorter := length_filter_ne_lt
            (placeByRules_mem settings later kept weakerRules (congrArg Prod.fst ruled))
          obtain rfl : kept.filter (· != placed) = left := by
            simpa [visited, fewer, ruled] using done
          omega

def settle (settings : Settings α) (run : Run σ α) (ids : List PointId) : Attempt σ α Unit :=
  if ids.isEmpty then
    (.ok (), run)
  else
    match _passed : pass settings run.beginRound ids with
    | (.error error, later) => (.error error, later)
    | (.ok left, later) => settle settings later left
termination_by ids.length
decreasing_by exact length_pass_lt settings run.beginRound ids (by rw [_passed])

/-- Place all points of a figure that have no place. Points that have a place keep it. -/
def placeAll (settings : Settings α) (progress : Progress σ α) : Attempt σ α Unit :=
  match scatter settings (.start progress) progress.registry.pointIds with
  | (.error error, run) => (.error error, run)
  | (.ok ids, run) => settle settings run ids

def measureAngles (registry : Registry α) : Registry α :=
  { registry with
    angles := registry.angles.map fun angle => (registry.measure? angle).getD angle }

/-- Place all points of a figure that have no place, and then measure its angles. -/
def resolve (settings : Settings α) (progress : Progress σ α) :
    Except PlacementError Unit × Progress σ α :=
  match placeAll settings progress with
  | (.error error, run) => (.error error, run.toProgress)
  | (.ok (), run) => (.ok (), { run with registry := measureAngles run.registry })

end FigureMarkup.Placement
