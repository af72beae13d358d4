import FlowBuilder.Compilation

/-!
# Stages of a build

A small logic for what a stage of a build does, wherever it starts. `Build.Meets` relates the result
of a stage to the exchanges and the lines that it adds, and says besides that the exchanges are just
what the services answered on the way from the world before the stage to the world after it
(`Collaborators.Answers`).

* `Build.Meets.bind`: two stages, one after another.
* `Build.meets_say_bind`, `Build.meets_generate_bind`, `Build.meets_create_bind`: a single step and
  what follows it.
-/

namespace FlowBuilder

variable {σ α β : Type} {services : Collaborators σ}

/-- The exchanges are what the services answer, call by call, on the way from one world to
another. -/
inductive Collaborators.Answers (services : Collaborators σ) : σ → List Exchange → σ → Prop
  | nil (w : σ) : services.Answers w [] w
  | generated {w w' : σ} {prompt : String} {rest : List Exchange}
      (later : services.Answers (services.generate prompt w).2 rest w') :
      services.Answers w (.generated prompt (services.generate prompt w).1 :: rest) w'
  | created {w w' : σ} {call : StoreCall} {rest : List Exchange}
      (later : services.Answers (services.create call w).2 rest w') :
      services.Answers w (.created call (services.create call w).1 :: rest) w'

/-- Exchanges follow one another where the world is the same in between. -/
theorem Collaborators.Answers.append {w₁ w₂ w₃ : σ} {first second : List Exchange}
    (h₁ : services.Answers w₁ first w₂) (h₂ : services.Answers w₂ second w₃) :
    services.Answers w₁ (first ++ second) w₃ := by
  induction h₁ with
  | nil => exact h₂
  | generated _ ih => exact .generated (ih h₂)
  | created _ ih => exact .created (ih h₂)

namespace Build

/-- Wherever a stage starts, its result and the exchanges and lines that it adds are as `post`
says, and the exchanges are what the services answered. -/
def Meets (services : Collaborators σ) (stage : Build σ α)
    (post : Except (Failure BuildError) α → List Exchange → List String → Prop) : Prop :=
  ∀ p : Progress σ, ∃ exchanges lines,
    (stage.run.run p).2.exchanges = p.exchanges ++ exchanges ∧
    (stage.run.run p).2.lines = p.lines ++ lines ∧
    services.Answers p.world exchanges (stage.run.run p).2.world ∧
    post (stage.run.run p).1 exchanges lines

variable {stage : Build σ α} {next : α → Build σ β}
  {post weaker : Except (Failure BuildError) α → List Exchange → List String → Prop}
  {goal : Except (Failure BuildError) β → List Exchange → List String → Prop}

/-- The second of two stages runs just if the first gives a value. -/
theorem run_bind (stage : Build σ α) (next : α → Build σ β) (p : Progress σ) :
    (stage >>= next).run.run p =
      match stage.run.run p with
      | (.ok a, q) => (next a).run.run q
      | (.error e, q) => (.error e, q) := by
  -- below the failures, a build is a stateful computation
  show ((stage.run >>= ExceptT.bindCont next) : StateM (Progress σ) _).run p = _
  rw [StateT.run_bind]
  rcases stage.run.run p with ⟨_ | _, q⟩ <;> rfl

/-- A stage that meets a condition meets a weaker one. -/
theorem Meets.imp (h : Meets services stage post)
    (himp : ∀ r exchanges lines, post r exchanges lines → weaker r exchanges lines) :
    Meets services stage weaker := by
  intro p
  obtain ⟨exchanges, lines, hexchanges, hlines, hanswers, hpost⟩ := h p
  exact ⟨exchanges, lines, hexchanges, hlines, hanswers, himp _ _ _ hpost⟩

/-- What two stages add is what the first adds, followed by what the second adds if it runs. -/
theorem Meets.bind (h : Meets services stage post)
    (hok : ∀ a exchanges lines, post (.ok a) exchanges lines →
      Meets services (next a) fun r more further => goal r (exchanges ++ more) (lines ++ further))
    (herror : ∀ e exchanges lines, post (.error e) exchanges lines →
      goal (.error e) exchanges lines) :
    Meets services (stage >>= next) goal := by
  intro p
  obtain ⟨exchanges, lines, hexchanges, hlines, hanswers, hpost⟩ := h p
  rw [run_bind]
  rcases hrun : stage.run.run p with ⟨e | a, q⟩ <;> rw [hrun] at hexchanges hlines hanswers hpost
  · exact ⟨exchanges, lines, hexchanges, hlines, hanswers, herror e _ _ hpost⟩
  · -- the second stage starts where the first has left off
    obtain ⟨more, further, hmore, hfurther, hlater, hgoal⟩ := hok a _ _ hpost q
    refine ⟨exchanges ++ more, lines ++ further, ?_, ?_, hanswers.append hlater, hgoal⟩
    · rw [hmore, hexchanges, List.append_assoc]
    · rw [hfurther, hlines, List.append_assoc]

/-- A stage that does nothing adds nothing. -/
theorem meets_pure {a : α} (h : post (.ok a) [] []) :
    Meets services (pure a : Build σ α) post :=
  fun p => ⟨[], [], (List.append_nil _).symm, (List.append_nil _).symm, .nil p.world, h⟩

/-! ### What the single steps add

Each rule is about a step and what follows it, so that a proof about a stage reads like the stage.
-/

/-- Telling adds its lines. -/
theorem meets_say {lines : List String}
    {told : Except (Failure BuildError) Unit → List Exchange → List String → Prop}
    (h : told (.ok ()) [] lines) : Meets services (say lines) told :=
  fun p => ⟨[], lines, (List.append_nil _).symm, rfl, .nil p.world, h⟩

/-- What is said stands in front of the lines of what follows. -/
theorem meets_say_bind {rest : Build σ β} {lines : List String}
    (h : Meets services rest fun r exchanges further => goal r exchanges (lines ++ further)) :
    Meets services (say lines >>= fun _ => rest) goal := by
  have hsay : Meets services (say lines : Build σ Unit)
      fun r exchanges added => r = .ok () ∧ exchanges = [] ∧ added = lines :=
    meets_say ⟨rfl, rfl, rfl⟩
  refine hsay.bind ?_ nofun
  rintro _ _ _ ⟨-, rfl, rfl⟩
  exact h

/-- A call adds the exchange of its answer, and stops the build if it fails. -/
theorem Meets.bind_call (exchange : Except (Failure String) α → Exchange) {call : Build σ α}
    {wrap : Failure String → Failure BuildError}
    (h : Meets services call fun r exchanges lines => ∃ answer,
      answer.mapError wrap = r ∧ exchanges = [exchange answer] ∧ lines = [])
    (hok : ∀ a, Meets services (next a) fun r exchanges lines =>
      goal r (exchange (.ok a) :: exchanges) lines)
    (herror : ∀ e, goal (.error (wrap e)) [exchange (.error e)] []) :
    Meets services (call >>= next) goal := by
  refine h.bind ?_ ?_
  · rintro a _ _ ⟨answer | answer, hr, rfl, rfl⟩
    · cases hr
    · cases hr
      exact hok a
  · rintro f _ _ ⟨e | a, hr, rfl, rfl⟩
    · cases hr
      exact herror e
    · cases hr

/-- Asking the model adds one exchange, and stops the build if the model fails. -/
theorem meets_generate_bind {prompt : String} {next : Option String → Build σ β}
    (hok : ∀ reply, Meets services (next reply) fun r exchanges lines =>
      goal r (.generated prompt (.ok reply) :: exchanges) lines)
    (herror : ∀ e,
      goal (.error (callFailure .textCompletion e)) [.generated prompt (.error e)] []) :
    Meets services (generate services prompt >>= next) goal := by
  refine Meets.bind_call (.generated prompt) (fun p => ?_) hok herror
  exact ⟨[.generated prompt (services.generate prompt p.world).1], [], rfl,
    (List.append_nil _).symm, .generated (.nil _), _, rfl, rfl, rfl⟩

/-- Keeping something adds one exchange, and stops the build if the store fails. -/
theorem meets_create_bind {call : StoreCall} {next : String → Build σ β}
    (hok : ∀ id, Meets services (next id) fun r exchanges lines =>
      goal r (.created call (.ok id) :: exchanges) lines)
    (herror : ∀ e, goal (.error (callFailure .store e)) [.created call (.error e)] []) :
    Meets services (create services call >>= next) goal := by
  refine Meets.bind_call (.created call) (fun p => ?_) hok herror
  exact ⟨[.created call (services.create call p.world).1], [], rfl,
    (List.append_nil _).symm, .created (.nil _), _, rfl, rfl, rfl⟩

end Build

end FlowBuilder
