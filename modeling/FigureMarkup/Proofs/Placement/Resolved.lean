import FigureMarkup.Proofs.Placement.Resolution

/-!
# Resolved figures

What resolving leaves alone is enough to keep a registry well formed and all its entities under
their names. If resolving succeeds, then every point has a place besides, and every angle has been
measured.
-/

namespace FigureMarkup.Placement

open Figure Plane Markup Construction

variable {σ α : Type}

/-! ## After success -/

/-- A registry comes from another one by placing all its points and measuring all its angles. -/
structure Resolved (start registry : Registry α) : Prop where
  frame : Frame start registry
  formed : WellFormed registry
  placed : registry.FullyPlaced
  measured : registry.FullyMeasured

variable [Scalar α] [Random.Source σ α]

/-- If a figure that declarations build can be resolved, all its points are placed and all its
angles measured. -/
theorem resolved_of_ok {palette : Palette} {declarations : List Declaration}
    {settings : Settings α} {source : σ}
    (done : (resolve settings ⟨construct palette declarations, source⟩).1 = .ok ()) :
    Resolved (construct palette declarations)
      (resolve settings ⟨construct palette declarations, source⟩).2.registry := by
  obtain ⟨formed, unmeasured⟩ := construct_sound (α := α) palette declarations
  have finished := placeAll_of_resolve_ok done
  have extended := (placeAll_ends settings ⟨construct palette declarations, source⟩).extends_run
  have everywhere (id : PointId)
      (held : (placeAll settings ⟨construct palette declarations, source⟩).2.registry.Holds
        (.point id)) := position_ne_none_of_ok finished held
  rw [resolve_of_ok finished]
  -- Measuring angles moves no points, so what is said of places holds before and after.
  generalize placeAll settings ⟨construct palette declarations, source⟩ = attempt
    at extended everywhere
  have frame := extended.frame.trans (frame_measureAngles attempt.2.registry)
  refine ⟨frame, frame.wellFormed formed, fun id held => ?_, fun id angle stored => ?_⟩
  · exact Option.ne_none_iff_exists'.1 (everywhere id held)
  · rw [angle?_measureAngles, Option.map_eq_some_iff] at stored
    obtain ⟨old, stored, rfl⟩ := stored
    have sound := (extended.frame.wellFormed formed).angles id old stored
    refine measure?_degrees sound (unmeasured id old ?_) everywhere
    obtain ⟨placed, -, -, went, -⟩ := extended
    rwa [went, Registry.angle?_placePoints] at stored

end FigureMarkup.Placement
