/-!
# Animations

An animation shows a figure in steps. Each step shows what has been touched since everything
vanished last, in the order in which it was touched first.
-/

namespace FigureMarkup.Construction

/-- The steps of an animation, the last of which is still open. -/
structure Animation where
  steps : List (List String)
  /-- What the open step shows so far. -/
  shown : List String
  /-- The set of what the open step shows, in which things are looked up. -/
  seen : List String
deriving DecidableEq, Repr

namespace Animation

def empty : Animation := ⟨[], [], []⟩

/-- Show one thing more, unless it has been seen already. -/
def touchOne (animation : Animation) (id : String) : Animation :=
  if animation.seen.contains id then animation
  else { animation with shown := animation.shown ++ [id], seen := id :: animation.seen }

def touch (animation : Animation) (ids : List String) : Animation := ids.foldl touchOne animation

/-- End the open step, and go on with what it shows. -/
def step (animation : Animation) : Animation :=
  { animation with steps := animation.steps ++ [animation.shown] }

def clear (animation : Animation) : Animation := { animation with shown := [], seen := [] }

/-- All steps, with the open one last. -/
def all (animation : Animation) : List (List String) := animation.steps ++ [animation.shown]

end Animation

end FigureMarkup.Construction
