import SpotSettlement.Store.Basic

namespace SpotSettlement

/-! # Success of a computation

A computation that may fail succeeds in one way only: each of its parts succeeds.  The lemmas here
take the success of a computation apart, one part at a time, first where it only may fail and then
where it also reads and writes the store.  Of two computations that are alike, the one may give
something related wherever the other gives something, and does so if each of its parts does.
-/

section Outcomes

variable {ε α β : Type} {b : β}

theorem bind_ok_iff {x : Except ε α} {f : α → Except ε β} :
    x >>= f = .ok b ↔ ∃ a, x = .ok a ∧ f a = .ok b := by
  cases x <;> simp [bind, Except.bind]

theorem pure_ok_iff {a : β} : (pure a : Except ε β) = .ok b ↔ a = b := by
  simp [pure, Except.pure]

theorem map_ok_iff {x : Except ε α} {f : α → β} : x.map f = .ok b ↔ ∃ a, x = .ok a ∧ f a = b := by
  cases x <;> simp [Except.map]

theorem throw_ok_iff {cause : ε} : (throw cause : Except ε β) = .ok b ↔ False := by
  simp [throw, throwThe, MonadExceptOf.throw]

theorem lift_ok_iff [Cause ε] {x : Except ε β} :
    (liftM x : Except Failure β) = .ok b ↔ x = .ok b := by
  cases x <;> simp [liftM, monadLift]

theorem refuse_ok_iff [Cause ε] {cause : ε} : (refuse cause : Except Failure β) = .ok b ↔ False := by
  simp [refuse]

/-- What is said of the value of a success can be decided if it can be for every value. -/
instance decidableSucceeds (outcome : Except ε β) (holds : β → Prop) [DecidablePred holds] :
    Decidable (∃ value, outcome = .ok value ∧ holds value) :=
  match outcome with
  | .ok value => decidable_of_iff (holds value) (by simp)
  | .error _ => isFalse (by simp)

instance decidableRefuses (outcome : Except Failure β) :
    Decidable (∃ cause, outcome = .error (.refused cause)) :=
  match outcome with
  | .error (.refused cause) => isTrue ⟨cause, rfl⟩
  | .error (.overflow _) | .ok _ => isFalse (by simp)

end Outcomes

/-- Whatever the one computation gives, the other gives something that is related to it. -/
def Mirrors {ε α β : Type} (related : α → β → Prop) (outcome : Except ε α)
    (mirrored : Except ε β) : Prop :=
  ∀ value, outcome = .ok value → ∃ image, mirrored = .ok image ∧ related value image

namespace Mirrors

variable {ε ε' α β α' β' : Type} {related : α → β → Prop} {after : α' → β' → Prop}
  {outcome : Except ε α} {mirrored : Except ε β}

theorem refl (outcome : Except ε α) : Mirrors Eq outcome outcome :=
  fun value given => ⟨value, given, rfl⟩

theorem pure {value : α} {image : β} (holds : related value image) :
    Mirrors related (pure value : Except ε α) (pure image) := by
  rintro _ ⟨⟩
  exact ⟨image, rfl, holds⟩

theorem bind {rest : α → Except ε α'} {mirroredRest : β → Except ε β'}
    (first : Mirrors related outcome mirrored)
    (others : ∀ value image, related value image → Mirrors after (rest value) (mirroredRest image)) :
    Mirrors after (outcome >>= rest) (mirrored >>= mirroredRest) := by
  intro last given
  obtain ⟨value, one, other⟩ := bind_ok_iff.mp given
  obtain ⟨image, imaged, holds⟩ := first value one
  obtain ⟨lastImage, otherImaged, held⟩ := others value image holds last other
  exact ⟨lastImage, bind_ok_iff.mpr ⟨image, imaged, otherImaged⟩, held⟩

theorem lift [Cause ε] (given : Mirrors related outcome mirrored) :
    Mirrors related (liftM outcome : Except Failure α) (liftM mirrored) := by
  intro value done
  obtain ⟨image, imaged, holds⟩ := given value (lift_ok_iff.mp done)
  exact ⟨image, lift_ok_iff.mpr imaged, holds⟩

theorem refused_bind [Cause ε'] (cause : ε') (rest : α' → Except Failure α)
    (mirrored : Except Failure β) : Mirrors related (refuse cause >>= rest) mirrored := by
  intro value given
  simp only [bind_ok_iff, refuse_ok_iff, false_and, exists_false] at given

end Mirrors

namespace Work

variable {ε α β : Type} {store after : Store} {b : β}

theorem bind_ok {x : Work α} {f : α → Work β} :
    (x >>= f).run store = .ok (b, after) ↔
      ∃ a mid, x.run store = .ok (a, mid) ∧ (f a).run mid = .ok (b, after) := by
  simp only [StateT.run_bind, bind_ok_iff, Prod.exists]

theorem run_bind_of_ok {x : Work α} {f : α → Work β} {a : α} {middle : Store}
    (done : x.run store = .ok (a, middle)) : (x >>= f).run store = (f a).run middle := by
  rw [StateT.run_bind, done]
  rfl

theorem pure_ok {a : β} :
    (pure a : Work β).run store = .ok (b, after) ↔ a = b ∧ store = after := by
  simp only [StateT.run_pure, pure_ok_iff, Prod.mk.injEq]

theorem get_bind_ok {f : Store → Work β} :
    (get >>= f).run store = .ok (b, after) ↔ (f store).run store = .ok (b, after) := by
  simp only [StateT.run_bind, StateT.run_get, pure_bind]

theorem set_ok {written : Store} {u : PUnit} :
    (set written : Work PUnit).run store = .ok (u, after) ↔ written = after := by
  simp only [StateT.run_set, pure_ok_iff, Prod.mk.injEq, true_and]

theorem set_bind_ok {written : Store} {f : PUnit → Work β} :
    (set written >>= f).run store = .ok (b, after) ↔ (f ⟨⟩).run written = .ok (b, after) := by
  simp only [StateT.run_bind, StateT.run_set, pure_bind]

theorem modify_ok {change : Store → Store} {u : PUnit} :
    (modify change : Work PUnit).run store = .ok (u, after) ↔ change store = after := by
  simp only [StateT.run_modify, pure_ok_iff, Prod.mk.injEq, true_and]

theorem failing_ok {x : Except Failure β} :
    (liftM x : Work β).run store = .ok (b, after) ↔ x = .ok b ∧ store = after := by
  cases x <;> simp [liftM, monadLift, MonadLift.monadLift, StateT.lift, StateT.run, bind, Except.bind,
    pure, Except.pure]

theorem lift_ok [Cause ε] {x : Except ε β} :
    (liftM x : Work β).run store = .ok (b, after) ↔ x = .ok b ∧ store = after := by
  cases x <;> simp [liftM, monadLift, MonadLift.monadLift, StateT.lift, StateT.run, bind, Except.bind,
    pure, Except.pure]

/-- Work that is refused under a condition succeeds only if the condition fails. -/
theorem refuse_if_ok [Cause ε] {condition : Prop} [Decidable condition] {cause : ε}
    {never : α → Work β} {next : Work β} :
    (if condition then (liftM (refuse cause : Except Failure α) : Work α) >>= never else next).run
        store = .ok (b, after) ↔ ¬condition ∧ next.run store = .ok (b, after) := by
  by_cases holds : condition
  · simp only [holds, if_true, bind_ok, failing_ok, refuse_ok_iff, false_and, exists_false,
      not_true]
  · simp only [holds, if_false, not_false_eq_true, true_and]

theorem run_ite {condition : Prop} [Decidable condition] {x y : Work β} :
    (if condition then x else y).run store = if condition then x.run store else y.run store := by
  split <;> rfl

/-- A unit of work that begins was not kept from beginning, and changes nothing by it. -/
theorem start_ok {u : Unit} :
    start.run store = .ok (u, after) ↔ store.unitOutage = none ∧ store = after := by
  unfold start
  cases outage : store.unitOutage with
  | none => simp only [get_bind_ok, outage, pure_ok, true_and]
  | some problem =>
      simp only [get_bind_ok, outage, failing_ok, refuse_ok_iff, false_and, reduceCtorEq]

end Work

namespace Store

variable {α : Type} {store after : Store} {work : Work α} {value : α}

theorem perform_ok_iff :
    store.perform work = (.ok value, after) ↔ work.run store = .ok (value, after) := by
  unfold perform
  cases work.run store <;> simp [Prod.ext_iff]

/-- Work that succeeds leaves the store that its run ends in. -/
theorem perform_ok (succeeded : (store.perform work).1 = .ok value) :
    work.run store = .ok (value, (store.perform work).2) :=
  perform_ok_iff.mp (Prod.ext succeeded rfl)

theorem perform_error_iff {failure : Failure} :
    (store.perform work).1 = .error failure ↔ work.run store = .error failure := by
  unfold perform
  cases work.run store <;> simp

/-- Work that fails leaves the store that it found. -/
theorem perform_failed {failure : Failure} (failed : store.perform work = (.error failure, after)) :
    after = store := by
  have kept := perform_error (congrArg Prod.fst failed)
  rwa [failed] at kept

/-- What holds of a store is kept by a unit of work if it is kept by the work's success. -/
theorem perform_keeps (holds : Store → Prop) (start : holds store)
    (succeeds : ∀ value after, work.run store = .ok (value, after) → holds after) :
    holds (store.perform work).2 := by
  cases outcome : (store.perform work).1 with
  | error failure =>
      rw [perform_error outcome]
      exact start
  | ok value => exact succeeds value _ (perform_ok outcome)

theorem mint_ok {id : String} :
    mint.run store = .ok (id, after) ↔
      identifier (store.minted + 1) = id ∧ { store with minted := store.minted + 1 } = after := by
  unfold mint
  rw [Work.get_bind_ok, Work.set_bind_ok, Work.pure_ok]

end Store

end SpotSettlement
