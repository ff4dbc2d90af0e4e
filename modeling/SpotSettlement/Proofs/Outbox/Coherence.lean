import SpotSettlement.Proofs.Store.Outbox

namespace SpotSettlement

/-! # Rows whose fields agree

A row tells by its status how far its delivery has come, and other fields tell parts of the same.
What the relay does to a row keeps them in agreement, if the row is in the status for it.
-/

/-- The lease, the time of delivery and the count of attempts agree with the status. -/
structure OutboxRow.Coherent (maxAttempts : Nat) (row : OutboxRow) : Prop where
  leased : row.status = .processing ↔ row.processingStartedAt.isSome
  delivered : row.status = .published ↔ row.publishedAt.isSome
  fresh : row.status = .new → row.attempts = 0
  setAside : row.status = .dead ↔ row.attempts = maxAttempts
  counted : row.status ≠ .dead → row.attempts < maxAttempts

namespace OutboxRow

variable {maxAttempts : Nat} {row : OutboxRow} {now : Instant}

theorem Coherent.unpublished (coherent : row.Coherent maxAttempts)
    (waits : row.status ≠ .published) : row.publishedAt.isSome = false := by
  simpa using mt coherent.delivered.mpr waits

/-- A row that is waiting or leased, and was not delivered, has attempts left. -/
theorem Coherent.of_open (unsettled : row.status ≠ .published ∧ row.status ≠ .dead)
    (leased : row.status = .processing ↔ row.processingStartedAt.isSome)
    (unpublished : row.publishedAt.isSome = false) (fresh : row.status = .new → row.attempts = 0)
    (remaining : row.attempts < maxAttempts) : row.Coherent maxAttempts where
  leased := leased
  delivered := by simp [unsettled.1, unpublished]
  fresh := fresh
  setAside := by
    have fewer := Nat.ne_of_lt remaining
    simp [unsettled.2, fewer]
  counted _ := remaining

theorem coherent_of_asMade (positive : 0 < maxAttempts) (made : row.asMade = row) :
    row.Coherent maxAttempts := by
  rw [← made]
  exact .of_open ⟨nofun, nofun⟩ ⟨nofun, nofun⟩ rfl (fun _ => rfl) positive

theorem Coherent.markProcessing (coherent : row.Coherent maxAttempts)
    (claimable : Store.claimable now row = true) :
    (row.markProcessing now).Coherent maxAttempts := by
  have waits : row.status ≠ .published ∧ row.status ≠ .dead := by
    obtain new | failed := claimable_status claimable
    · simp [new]
    · simp [failed]
  exact .of_open ⟨nofun, nofun⟩ ⟨fun _ => rfl, fun _ => rfl⟩ (coherent.unpublished waits.1) nofun
    (coherent.counted waits.2)

theorem Coherent.reclaim (coherent : row.Coherent maxAttempts) (leased : row.status = .processing) :
    (row.reclaim now).Coherent maxAttempts :=
  .of_open ⟨nofun, nofun⟩ ⟨nofun, nofun⟩ (coherent.unpublished (by simp [leased])) nofun
    (coherent.counted (by simp [leased]))

theorem Coherent.requeue (coherent : row.Coherent maxAttempts) (positive : 0 < maxAttempts)
    (dead : row.status = .dead) : (row.requeue now).Coherent maxAttempts :=
  .of_open ⟨nofun, nofun⟩ ⟨nofun, nofun⟩ (coherent.unpublished (by simp [dead])) (fun _ => rfl)
    positive

theorem Coherent.markPublished (coherent : row.Coherent maxAttempts)
    (leased : row.status = .processing) : (row.markPublished now).Coherent maxAttempts where
  leased := ⟨nofun, nofun⟩
  delivered := ⟨fun _ => rfl, fun _ => rfl⟩
  fresh := nofun
  setAside := by
    have remaining := coherent.counted (by simp [leased])
    exact ⟨nofun, fun spent => absurd spent (Nat.ne_of_lt remaining)⟩
  counted _ := coherent.counted (by simp [leased])

theorem Coherent.markFailed (coherent : row.Coherent maxAttempts)
    (leased : row.status = .processing) {attempts : Nat} (remaining : attempts < maxAttempts)
    (nextAttemptAt : Instant) (error : String) :
    (row.markFailed attempts nextAttemptAt error).Coherent maxAttempts :=
  .of_open ⟨nofun, nofun⟩ ⟨nofun, nofun⟩ (coherent.unpublished (by simp [leased])) nofun remaining

theorem Coherent.markDead (coherent : row.Coherent maxAttempts) (leased : row.status = .processing)
    (error : String) : (row.markDead maxAttempts error).Coherent maxAttempts where
  leased := ⟨nofun, nofun⟩
  delivered := by
    have unpublished := coherent.unpublished (by simp [leased])
    exact ⟨nofun, fun published => Bool.noConfusion (published.symm.trans unpublished)⟩
  fresh := nofun
  setAside := ⟨fun _ => rfl, fun _ => rfl⟩
  counted alive := absurd rfl alive

theorem Coherent.settled {dispatcher : DispatcherSetup} {result : Except BrokerError Unit}
    (coherent : row.Coherent dispatcher.schedule.maxAttempts) (leased : row.status = .processing) :
    (row.settled dispatcher row result now).Coherent dispatcher.schedule.maxAttempts := by
  cases result with
  | ok => exact coherent.markPublished leased
  | error error =>
      have remaining : row.attempts < dispatcher.schedule.maxAttempts :=
        coherent.counted (by simp [leased])
      simp only [OutboxRow.settled, nextFailure, RetrySchedule.onFailure]
      split
      · next spent =>
          -- One more attempt than there were before cannot be more than there may be.
          have all : min (row.attempts + 1) attemptLimit = dispatcher.schedule.maxAttempts := by
            omega
          rw [all]
          exact coherent.markDead leased error.message
      · next left => exact coherent.markFailed leased (Nat.lt_of_not_le left) _ _

end OutboxRow

end SpotSettlement
