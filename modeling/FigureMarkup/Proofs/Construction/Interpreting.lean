import FigureMarkup.Proofs.Construction.Touched

/-!
# What interpreting a document records

Next to the registry, an interpreter records which entities the document shows in which step, and
which entity each declaration is mainly about. Both are recorded by identifiers while the document
is still being read. The identifiers stay those of the entities, since entities keep their names.
-/

namespace FigureMarkup.Construction

open Figure Plane Markup

/-! ## Animations -/

namespace Animation

/-- The set of what has been seen has the members of the open step. -/
def Agrees (animation : Animation) : Prop := ∀ id, id ∈ animation.seen ↔ id ∈ animation.shown

theorem agrees_empty : Agrees empty := fun _ => Iff.rfl

theorem Agrees.touchOne {animation : Animation} (agrees : animation.Agrees) (id : String) :
    (animation.touchOne id).Agrees := by
  unfold Animation.touchOne
  split
  case isTrue known => exact agrees
  case isFalse fresh =>
    intro other
    rw [List.mem_cons, List.mem_append, List.mem_singleton, agrees other, or_comm]

theorem Agrees.touch {animation : Animation} (agrees : animation.Agrees) (ids : List String) :
    (animation.touch ids).Agrees := by
  induction ids generalizing animation with
  | nil => exact agrees
  | cons id ids ih => exact ih (agrees.touchOne id)

theorem Agrees.step {animation : Animation} (agrees : animation.Agrees) : animation.step.Agrees :=
  agrees

theorem agrees_clear (animation : Animation) : animation.clear.Agrees := fun _ => Iff.rfl

/-- Where both agree, what the open step shows decides whether something is new. -/
theorem Agrees.shown_touchOne {animation : Animation} (agrees : animation.Agrees) (id : String) :
    (animation.touchOne id).shown =
      if id ∈ animation.shown then animation.shown else animation.shown ++ [id] := by
  unfold Animation.touchOne
  by_cases known : id ∈ animation.shown
  · rw [if_pos (List.contains_iff_mem.2 ((agrees id).2 known)), if_pos known]
  · rw [if_neg fun seen => known ((agrees id).1 (List.contains_iff_mem.1 seen)), if_neg known]

theorem steps_touchOne (animation : Animation) (id : String) :
    (animation.touchOne id).steps = animation.steps := by
  unfold Animation.touchOne
  split <;> rfl

/-- No step of an animation shows anything twice, or anything that is not allowed. -/
def Shows (allowed : String → Prop) (animation : Animation) : Prop :=
  ∀ group ∈ animation.all, group.Nodup ∧ ∀ id ∈ group, allowed id

variable {allowed : String → Prop} {animation : Animation}

theorem shows_empty : Shows allowed empty := by
  intro group member
  obtain rfl : group = [] := by simpa [all, empty] using member
  exact ⟨List.nodup_nil, fun id member => absurd member List.not_mem_nil⟩

theorem Shows.mono {wider : String → Prop} (shows : Shows allowed animation)
    (implies : ∀ id, allowed id → wider id) : Shows wider animation := by
  intro group member
  obtain ⟨distinct, fine⟩ := shows group member
  exact ⟨distinct, fun id member => implies id (fine id member)⟩

/-- The steps that have ended stay as they are when the open one changes. -/
theorem Shows.reopen (shows : Shows allowed animation) {later : Animation}
    (ended : later.steps = animation.steps) (distinct : later.shown.Nodup)
    (fine : ∀ id ∈ later.shown, allowed id) : Shows allowed later := by
  intro group member
  rw [all, ended] at member
  rcases List.mem_append.1 member with before | opened
  · exact shows group (List.mem_append_left _ before)
  · obtain rfl := List.mem_singleton.1 opened
    exact ⟨distinct, fine⟩

theorem Shows.shown (shows : Shows allowed animation) :
    animation.shown.Nodup ∧ ∀ id ∈ animation.shown, allowed id :=
  shows animation.shown (List.mem_append_right _ (List.mem_singleton_self _))

theorem Shows.touchOne (shows : Shows allowed animation) (agrees : animation.Agrees) {id : String}
    (fine : allowed id) : Shows allowed (animation.touchOne id) := by
  obtain ⟨distinct, before⟩ := shows.shown
  have shown := agrees.shown_touchOne id
  by_cases known : id ∈ animation.shown
  · rw [if_pos known] at shown
    exact shows.reopen (steps_touchOne animation id) (shown ▸ distinct) (shown ▸ before)
  · rw [if_neg known] at shown
    have apart : (animation.shown ++ [id]).Nodup := by
      rw [List.nodup_append]
      refine ⟨distinct, by simp, fun other member _ last equal => ?_⟩
      rw [List.mem_singleton.1 last] at equal
      exact known (equal ▸ member)
    have fineAll : ∀ other ∈ animation.shown ++ [id], allowed other :=
      List.forall_mem_append.2 ⟨before, List.forall_mem_singleton.2 fine⟩
    exact shows.reopen (steps_touchOne animation id) (shown ▸ apart) (shown ▸ fineAll)

theorem Shows.touch (shows : Shows allowed animation) (agrees : animation.Agrees)
    {ids : List String} (fine : ∀ id ∈ ids, allowed id) : Shows allowed (animation.touch ids) := by
  induction ids generalizing animation with
  | nil => exact shows
  | cons id ids ih =>
      exact ih (shows.touchOne agrees (fine id List.mem_cons_self)) (agrees.touchOne id)
        fun other member => fine other (List.mem_cons_of_mem _ member)

theorem Shows.step (shows : Shows allowed animation) : Shows allowed animation.step := by
  intro group member
  have known : group ∈ animation.all := by
    simpa [Animation.step, all] using member
  exact shows group known

theorem Shows.clear (shows : Shows allowed animation) : Shows allowed animation.clear :=
  shows.reopen rfl List.nodup_nil fun _ member => absurd member List.not_mem_nil

end Animation

/-! ## Records -/

variable {α : Type}

/-- An identifier is that of an entity of a registry. -/
def Names (registry : Registry α) (id : String) : Prop :=
  ∃ entity, registry.Holds entity ∧ registry.sceneId entity = id

theorem Names.mono {before after : Registry α} (keeps : before.KeepsIds after) {id : String}
    (names : Names before id) : Names after id := by
  obtain ⟨entity, held, same⟩ := names
  obtain ⟨still, kept⟩ := keeps entity held
  exact ⟨entity, still, kept.trans same⟩

theorem targets_record (interpreter : Interpreter α) (declaration : Declaration)
    (outcome : Outcome) :
    (interpreter.record declaration outcome).targets =
      interpreter.targets.push (outcome.main?.map interpreter.registry.sceneId) := by
  cases outcome with
  | entities about =>
      simp only [Interpreter.record, Outcome.main?, List.head?_map]
      split <;> rfl
  | step => rfl
  | clear => rfl

theorem agrees_record {interpreter : Interpreter α} {declaration : Declaration} {outcome : Outcome}
    (agrees : interpreter.animation.Agrees) :
    (interpreter.record declaration outcome).animation.Agrees := by
  cases outcome with
  | entities about =>
      simp only [Interpreter.record]
      split
      case isTrue moves => exact agrees
      case isFalse touches => exact agrees.touch _
  | step => exact agrees.step
  | clear => exact interpreter.animation.agrees_clear

theorem shows_record {interpreter : Interpreter α} {allowed : String → Prop}
    (shows : interpreter.animation.Shows allowed) (agrees : interpreter.animation.Agrees)
    (declaration : Declaration) {outcome : Outcome}
    (fine : ∀ about, outcome = .entities about →
      ∀ entity ∈ about, allowed (interpreter.registry.sceneId entity)) :
    (interpreter.record declaration outcome).animation.Shows allowed := by
  cases outcome with
  | entities about =>
      simp only [Interpreter.record]
      split
      case isTrue moves => exact shows
      case isFalse touches =>
        refine shows.touch agrees fun id member => ?_
        obtain ⟨entity, among, rfl⟩ := List.mem_map.1 member
        exact fine about rfl entity among
  | step => exact shows.step
  | clear => exact shows.clear

variable [Scalar α]

/-- Applying a declaration keeps all entities and their identifiers. -/
theorem keepsIds_apply {registry : Registry α} (indexed : Indexed registry)
    (declaration : Declaration) : registry.KeepsIds (apply registry declaration).2 :=
  Registry.keepsIds_of_name (apply_changes indexed declaration).name

/-- What is recorded about a declaration that was applied to an earlier registry: the identifier of
the entity that it turned out to be mainly about, if it was about any. -/
def Recorded (registry earlier : Registry α) (declaration : Declaration)
    (target : Option String) : Prop :=
  ∃ outcome, (apply earlier declaration).1 = .ok outcome ∧
    (∀ main, outcome.main? = some main → registry.Holds main) ∧
    target = outcome.main?.map registry.sceneId

theorem Recorded.mono {before after earlier : Registry α} (keeps : before.KeepsIds after)
    {declaration : Declaration} {target : Option String}
    (recorded : Recorded before earlier declaration target) :
    Recorded after earlier declaration target := by
  obtain ⟨outcome, applied, held, rfl⟩ := recorded
  refine ⟨outcome, applied, fun main about => (keeps main (held main about)).1, ?_⟩
  cases about : outcome.main? with
  | none => rfl
  | some main =>
      rw [Option.map_some, Option.map_some, (keeps main (held main about)).2]

/-- The state of an interpreter that has applied some declarations, none of which has failed. -/
structure Records (palette : Palette) (interpreter : Interpreter α)
    (declarations : List Declaration) : Prop where
  registry : interpreter.registry = construct palette declarations
  formed : WellFormed interpreter.registry
  size : interpreter.targets.size = declarations.length
  targets : ∀ i declaration, declarations[i]? = some declaration →
    ∃ target, interpreter.targets[i]? = some target ∧
      Recorded interpreter.registry (construct palette (declarations.take i)) declaration target
  agrees : interpreter.animation.Agrees
  animation : interpreter.animation.Shows (Names interpreter.registry)

theorem records_start (palette : Palette) :
    Records palette (Interpreter.start palette : Interpreter α) [] where
  registry := rfl
  formed := wellFormed_empty palette
  size := rfl
  targets i declaration stored := by simp at stored
  agrees := Animation.agrees_empty
  animation := Animation.shows_empty

/-- An outcome is about entities that the registry has after the declaration was applied. -/
theorem holds_of_main? {registry : Registry α} (formed : WellFormed registry)
    {declaration : Declaration} {outcome : Outcome} {main : EntityRef}
    (applied : (apply registry declaration).1 = .ok outcome) (about : outcome.main? = some main) :
    (apply registry declaration).2.Holds main := by
  cases outcome with
  | entities touched => exact apply_about formed applied main (List.mem_of_head? about)
  | step => cases about
  | clear => cases about

theorem Records.interpret {palette : Palette} {interpreter later : Interpreter α}
    {declarations : List Declaration} (records : Records palette interpreter declarations)
    {declaration : Declaration} {outcome : Outcome}
    (interpreted : interpreter.interpret declaration = (.ok outcome, later)) :
    Records palette later (declarations ++ [declaration]) := by
  have formed := records.formed
  have keeps := keepsIds_apply formed.indexed declaration
  obtain ⟨here, rfl⟩ := apply_of_interpret_ok interpreted
  refine ⟨?_, ?_, ?_, fun i other stored => ?_, ?_, ?_⟩
  · rw [registry_record, construct_append, ← records.registry]
  · rw [registry_record]
    exact (apply_changes formed.indexed declaration).wellFormed formed
  · simp [targets_record, records.size]
  · rw [targets_record, registry_record, Array.getElem?_push, records.size]
    rcases Nat.lt_or_ge i declarations.length with earlier | last
    · -- Identifiers that were recorded before are still those of the same entities.
      rw [List.getElem?_append_left earlier] at stored
      rw [if_neg (Nat.ne_of_lt earlier), List.take_append_of_le_length (Nat.le_of_lt earlier)]
      obtain ⟨target, known, recorded⟩ := records.targets i other stored
      exact ⟨target, known, recorded.mono keeps⟩
    · obtain rfl : i = declarations.length := by
        have inside := (List.getElem?_eq_some_iff.1 stored).choose
        simp only [List.length_append, List.length_singleton] at inside
        omega
      obtain rfl : declaration = other := by simpa using stored
      rw [if_pos rfl, List.take_left, ← records.registry]
      exact ⟨_, rfl, outcome, here, fun main about => holds_of_main? formed here about, rfl⟩
  · exact agrees_record records.agrees
  · rw [registry_record]
    generalize applied : (apply interpreter.registry declaration).2 = registry at keeps
    have shows : ({ interpreter with registry } : Interpreter α).animation.Shows
        (Names registry) :=
      records.animation.mono fun id => Names.mono keeps
    refine shows_record shows records.agrees declaration ?_
    rintro about rfl entity member
    exact ⟨entity, applied ▸ apply_about formed here entity member, rfl⟩

theorem Records.interpretAll {palette : Palette} {interpreter : Interpreter α}
    {declarations rest : List Declaration} (records : Records palette interpreter declarations)
    (interprets : (interpreter.interpretAll rest).1 = .ok ()) :
    Records palette (interpreter.interpretAll rest).2 (declarations ++ rest) :=
  interpretAll_induction (fun records interpreted => records.interpret interpreted) records
    interprets

/-! ## Failures -/

/-- An error of a declaration has its place. -/
theorem place_of_apply_error {registry : Registry α} {declaration : Declaration} {error : Error}
    (failed : (apply registry declaration).1 = .error error) :
    error.span = declaration.span ∧ error.line = declaration.line := by
  have step := applying registry declaration
  generalize apply registry declaration = result at step failed
  cases step with
  | unknown | refused | unreadable =>
      cases failed
      exact ⟨rfl, rfl⟩
  | mark | plain | painted => cases failed

/-- Interpreting fails with the first declaration that does. -/
theorem interpretAll_error {interpreter : Interpreter α} {declarations : List Declaration}
    {error : Error} (failed : (interpreter.interpretAll declarations).1 = .error error) :
    ∃ earlier declaration later, declarations = earlier ++ declaration :: later ∧
      (interpreter.interpretAll earlier).1 = .ok () ∧
      (apply (interpreter.interpretAll earlier).2.registry declaration).1 = .error error := by
  induction declarations generalizing interpreter with
  | nil => cases failed
  | cons declaration rest ih =>
      cases applied : (apply interpreter.registry declaration).1 with
      | error fault =>
          refine ⟨[], declaration, rest, rfl, rfl, ?_⟩
          rw [Interpreter.interpretAll, interpret_of_error applied] at failed
          cases failed
          exact applied
      | ok outcome =>
          rw [Interpreter.interpretAll, interpret_of_ok applied] at failed
          obtain ⟨earlier, last, later, rfl, interprets, fails⟩ := ih failed
          refine ⟨declaration :: earlier, last, later, rfl, ?_⟩
          rw [Interpreter.interpretAll, interpret_of_ok applied]
          exact ⟨interprets, fails⟩

/-- The declaration with which a document fails, before which all others succeed. -/
theorem first_failure {palette : Palette} {declarations : List Declaration} {error : Error}
    (failed : ((Interpreter.start palette : Interpreter α).interpretAll declarations).1 =
      .error error) :
    ∃ i declaration, declarations[i]? = some declaration ∧
      (apply (construct palette (declarations.take i) : Registry α) declaration).1 =
        .error error ∧
      ∀ j earlier, j < i → declarations[j]? = some earlier → ∃ outcome,
        (apply (construct palette (declarations.take j) : Registry α) earlier).1 =
          .ok outcome := by
  obtain ⟨before, declaration, later, rfl, interprets, fails⟩ := interpretAll_error failed
  have records := (records_start (α := α) palette).interpretAll interprets
  rw [List.nil_append] at records
  rw [records.registry] at fails
  refine ⟨before.length, declaration, by simp, by rwa [List.take_left], ?_⟩
  intro j earlier inside stored
  rw [List.getElem?_append_left inside] at stored
  obtain ⟨target, -, outcome, applied, -⟩ := records.targets j earlier stored
  rw [List.take_append_of_le_length (Nat.le_of_lt inside)]
  exact ⟨outcome, applied⟩

end FigureMarkup.Construction
