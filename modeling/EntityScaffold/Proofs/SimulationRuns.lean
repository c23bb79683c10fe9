import EntityScaffold.Generation

/-!
# Runs in memory

What a computation comes to on a world, as an equation for each way of composing computations.
`Attempt.runIn` runs an attempt on a world, `Generation.runIn` a part of a generation on the
progress so far and a world, or a state of whatever other host. An attempt that leaves the working
directory alone and takes every tree to one that is related to it (`Attempt.Keeps`) is composed of
attempts that do so; so is one of which that is known from a certain working directory only
(`Attempt.KeepsFrom`).
-/

namespace EntityScaffold

variable {α β : Type}

namespace Attempt

/-- What an attempt comes to on a world, and the world it leaves. -/
def runIn (x : Attempt Simulation α) (w : World) : Except Failure α × World :=
  x.run w

theorem runIn_pure (a : α) (w : World) : (pure a : Attempt Simulation α).runIn w = (.ok a, w) :=
  rfl

/-- The second part runs where the first one succeeds, on the world that this one leaves. -/
theorem runIn_bind (x : Attempt Simulation α) (f : α → Attempt Simulation β) (w : World) :
    (x >>= f).runIn w =
      match x.runIn w with
      | (.ok a, v) => (f a).runIn v
      | (.error failure, v) => (.error failure, v) := by
  show (x.run >>= ExceptT.bindCont f) w = _
  show (match x.run w with | (a, v) => ExceptT.bindCont f a v) = _
  unfold runIn
  rcases x.run w with ⟨a | a, v⟩ <;> rfl

/-- Where a composed attempt succeeds, both parts do. -/
theorem runIn_bind_eq_ok {x : Attempt Simulation α} {f : α → Attempt Simulation β} {w v : World}
    {b : β} (h : (x >>= f).runIn w = (.ok b, v)) :
    ∃ a u, x.runIn w = (.ok a, u) ∧ (f a).runIn u = (.ok b, v) := by
  rw [runIn_bind] at h
  rcases hx : x.runIn w with ⟨failure | a, u⟩
  · rw [hx] at h
    cases h
  · rw [hx] at h
    exact ⟨a, u, rfl, h⟩

theorem runIn_bind_pure (x : Attempt Simulation α) (f : α → β) (w : World) :
    (x >>= fun a => pure (f a)).runIn w = ((x.runIn w).1.map f, (x.runIn w).2) := by
  rw [runIn_bind]
  rcases x.runIn w with ⟨failure | a, v⟩ <;> rfl

theorem runIn_lift (operation : Simulation α) (w : World) :
    runIn (ExceptT.lift operation) w = (.ok (operation w).1, (operation w).2) :=
  rfl

theorem runIn_log (line : Log.Line) (w : World) :
    (log line : Attempt Simulation Unit).runIn w = (.ok (), { w with log := w.log ++ [line] }) :=
  rfl

theorem runIn_logAll (lines : List Log.Line) (w : World) :
    (logAll lines : Attempt Simulation Unit).runIn w =
      (.ok (), { w with log := w.log ++ lines }) := by
  induction lines generalizing w with
  | nil => rw [List.append_nil]; rfl
  | cons line lines ih =>
    show ((log line : Attempt Simulation Unit) >>= fun _ => logAll lines).runIn w = _
    rw [runIn_bind, runIn_log]
    simp only
    rw [ih]
    simp

theorem runIn_file (path : Path) (operation : Simulation (Except FileCause α)) (w : World) :
    (file path operation).runIn w =
      ((operation w).1.mapError (.file path), (operation w).2) := by
  have hfile : file path operation =
      ExceptT.mk (operation >>= fun result => pure (result.mapError (.file path))) := by
    refine congrArg (fun rest => ExceptT.mk (operation >>= rest)) (funext fun result => ?_)
    cases result <;> rfl
  rw [hfile]
  rfl

end Attempt

namespace Generation

variable {σ : Type}

/-- What a part of a generation comes to on a host with states, the progress after it, and the
state that it leaves. -/
def runIn (x : Generation (StateM σ) α) (progress : Progress) (w : σ) :
    (Except Failure α × Progress) × σ :=
  x.run progress w

theorem runIn_pure (a : α) (progress : Progress) (w : σ) :
    (pure a : Generation (StateM σ) α).runIn progress w = ((.ok a, progress), w) :=
  rfl

/-- The second part runs where the first one succeeds, on the progress and the state that this one
leaves. -/
theorem runIn_bind (x : Generation (StateM σ) α) (f : α → Generation (StateM σ) β)
    (progress : Progress) (w : σ) :
    (x >>= f).runIn progress w =
      match x.runIn progress w with
      | ((.ok a, after), v) => (f a).runIn after v
      | ((.error failure, after), v) => ((.error failure, after), v) := by
  show (x.run >>= ExceptT.bindCont f) progress w = _
  show (match x.run progress w with | ((a, after), v) => ExceptT.bindCont f a after v) = _
  unfold runIn
  rcases x.run progress w with ⟨⟨a | a, after⟩, v⟩ <;> rfl

theorem runIn_attempt (x : Attempt Simulation α) (progress : Progress) (w : World) :
    (Generator.attempt x : Generation Simulation α).runIn progress w =
      (((x.runIn w).1, progress), (x.runIn w).2) := by
  show (match x.run w with | (a, v) => ((a, progress), v)) = _
  rfl

theorem runIn_modify (f : Progress → Progress) (progress : Progress) (w : σ) :
    (modify f : Generation (StateM σ) Unit).runIn progress w = ((.ok (), f progress), w) :=
  rfl

theorem runIn_get (progress : Progress) (w : σ) :
    (get : Generation (StateM σ) Progress).runIn progress w = ((.ok progress, progress), w) :=
  rfl

end Generation

/-! ## Relations that every step keeps -/

/-- The worlds have one working directory, and their trees are related. -/
def World.Related (R : FileTree → FileTree → Prop) (v w : World) : Prop :=
  w.workingDirectory = v.workingDirectory ∧ R v.tree w.tree

theorem World.workingPath_congr {v w : World} (h : v.workingDirectory = w.workingDirectory) :
    v.workingPath = w.workingPath := by
  unfold workingPath
  rw [h]

namespace Attempt

/-- Whatever becomes of the attempt, it leaves a world that is related to the one before. -/
def Keeps (R : FileTree → FileTree → Prop) (x : Attempt Simulation α) : Prop :=
  ∀ w, World.Related R w (x.runIn w).2

variable {R : FileTree → FileTree → Prop}

theorem Keeps.related {x : Attempt Simulation α} (h : Keeps R x) {w v : World}
    {outcome : Except Failure α} (hrun : x.runIn w = (outcome, v)) : World.Related R w v := by
  have hrelated := h w
  rw [hrun] at hrelated
  exact hrelated

theorem keeps_of_world_eq [Std.Refl R] {x : Attempt Simulation α}
    (h : ∀ w, (x.runIn w).2.workingDirectory = w.workingDirectory ∧
      (x.runIn w).2.tree = w.tree) : Keeps R x := by
  intro w
  refine ⟨(h w).1, ?_⟩
  rw [(h w).2]
  exact Std.Refl.refl w.tree

theorem Keeps.pure [Std.Refl R] (a : α) : Keeps R (Pure.pure a : Attempt Simulation α) :=
  keeps_of_world_eq fun _ => ⟨rfl, rfl⟩

/-- As `Keeps`, where the attempt starts from the given working directory. -/
def KeepsFrom (workingDirectory : Location) (R : FileTree → FileTree → Prop)
    (x : Attempt Simulation α) : Prop :=
  ∀ w : World, w.workingDirectory = workingDirectory → World.Related R w (x.runIn w).2

theorem Keeps.keepsFrom {x : Attempt Simulation α} (h : Keeps R x) (workingDirectory : Location) :
    KeepsFrom workingDirectory R x :=
  fun w _ => h w

theorem KeepsFrom.related {workingDirectory : Location} {x : Attempt Simulation α}
    (h : KeepsFrom workingDirectory R x) {w v : World} (hw : w.workingDirectory = workingDirectory)
    {outcome : Except Failure α} (hrun : x.runIn w = (outcome, v)) : World.Related R w v := by
  have hrelated := h w hw
  rw [hrun] at hrelated
  exact hrelated

/-- The second part starts from the working directory that the first one left alone. -/
theorem KeepsFrom.bind [Trans R R R] {workingDirectory : Location} {x : Attempt Simulation α}
    {f : α → Attempt Simulation β} (hx : KeepsFrom workingDirectory R x)
    (hf : ∀ a, KeepsFrom workingDirectory R (f a)) :
    KeepsFrom workingDirectory R (x >>= f) := by
  intro w hw
  have hfirst := hx w hw
  rw [runIn_bind]
  rcases hrun : x.runIn w with ⟨failure | a, v⟩
  · rw [hrun] at hfirst
    exact hfirst
  · rw [hrun] at hfirst
    have hsecond := hf a v (hfirst.1.trans hw)
    exact ⟨hsecond.1.trans hfirst.1, Trans.trans hfirst.2 hsecond.2⟩

/-- Attempts that keep a relation are composed to one that does. -/
theorem Keeps.bind [Trans R R R] {x : Attempt Simulation α} {f : α → Attempt Simulation β}
    (hx : Keeps R x) (hf : ∀ a, Keeps R (f a)) : Keeps R (x >>= f) := by
  intro w
  have hfrom := (hx.keepsFrom w.workingDirectory).bind fun a => (hf a).keepsFrom w.workingDirectory
  exact hfrom w rfl

theorem Keeps.mapM [Std.Refl R] [Trans R R R] {f : α → Attempt Simulation β}
    (hf : ∀ a, Keeps R (f a)) (as : List α) : Keeps R (as.mapM f) := by
  induction as with
  | nil => exact Keeps.pure []
  | cons a as ih =>
    rw [List.mapM_cons]
    refine (hf a).bind fun b => ?_
    exact ih.bind fun bs => Keeps.pure (b :: bs)

end Attempt

end EntityScaffold
