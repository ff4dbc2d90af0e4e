import SpotSettlement.Proofs.Settlement.CoveredFills

namespace SpotSettlement

/-! # What cannot fail because of the wallets

Of the parts of applying a report only the settling of movements and the giving back of funds ask
the wallets.  All other parts may fail, but for other causes.
-/

section Outcomes

variable {ε α β : Type}

/-- The outcome is no failure that the wallets have caused. -/
def SparesWallets (outcome : Except Failure α) : Prop :=
  ∀ cause : WalletError, outcome ≠ .error (.refused (.wallet cause))

/-- The errors of this area are not those of the wallets. -/
class SparingCause (ε : Type) [Cause ε] : Prop where
  spares : ∀ (problem : ε) (cause : WalletError), Cause.toFailure problem ≠ .refused (.wallet cause)

instance : SparingCause OrderError := ⟨fun _ _ => by rintro ⟨⟩⟩
instance : SparingCause LedgerError := ⟨fun _ _ => by rintro ⟨⟩⟩
instance : SparingCause OutboxError := ⟨fun _ _ => by rintro ⟨⟩⟩
instance : SparingCause StoreError := ⟨fun _ _ => by rintro ⟨⟩⟩
instance : SparingCause Decimal.Overflow := ⟨fun _ _ => by rintro ⟨⟩⟩

theorem sparesWallets_ok (value : α) : SparesWallets (.ok value) := nofun

theorem sparesWallets_refuse [Cause ε] [SparingCause ε] (cause : ε) :
    SparesWallets (refuse cause : Except Failure α) := by
  intro other same
  exact SparingCause.spares cause other (Except.error.inj same)

theorem sparesWallets_lift [Cause ε] [SparingCause ε] (outcome : Except ε α) :
    SparesWallets (liftM outcome : Except Failure α) := by
  cases outcome with
  | ok value => exact sparesWallets_ok value
  | error cause => exact sparesWallets_refuse cause

theorem SparesWallets.bind {x : Except Failure α} {f : α → Except Failure β}
    (first : SparesWallets x) (rest : ∀ a, x = .ok a → SparesWallets (f a)) :
    SparesWallets (x >>= f) := by
  cases x with
  | ok a => exact rest a rfl
  | error failure =>
      intro cause same
      exact first cause (congrArg Except.error (Except.error.inj same))

end Outcomes

namespace Work

variable {ε α β : Type} {store : Store}

theorem spares_bind {x : Work α} {f : α → Work β} (first : SparesWallets (x.run store))
    (rest : ∀ a middle, x.run store = .ok (a, middle) → SparesWallets ((f a).run middle)) :
    SparesWallets ((x >>= f).run store) := by
  rw [StateT.run_bind]
  exact first.bind fun result given => rest result.1 result.2 given

theorem spares_pure (value : α) : SparesWallets ((pure value : Work α).run store) :=
  sparesWallets_ok _

theorem spares_failing {outcome : Except Failure α} (spares : SparesWallets outcome) :
    SparesWallets ((liftM outcome : Work α).run store) := by
  cases outcome with
  | ok value => exact sparesWallets_ok _
  | error failure => exact fun cause same => spares cause (congrArg _ (Except.error.inj same))

theorem spares_lift [Cause ε] [SparingCause ε] (outcome : Except ε α) :
    SparesWallets ((liftM outcome : Work α).run store) := by
  cases outcome with
  | ok value => exact sparesWallets_ok _
  | error cause => exact fun other same => SparingCause.spares cause other (Except.error.inj same)

theorem spares_modify (change : Store → Store) :
    SparesWallets ((modify change : Work PUnit).run store) :=
  sparesWallets_ok _

theorem spares_of_ok {x : Work α} {result : α × Store} (done : x.run store = .ok result) :
    SparesWallets (x.run store) := by
  rw [done]
  exact sparesWallets_ok result

end Work

open Work

namespace EventSchema

variable {schema : EventSchema} {field problem text : String} {amount : Decimal} {holds : Bool}

theorem require_spares : SparesWallets (schema.require holds problem) := by
  unfold require
  split
  · exact sparesWallets_ok ()
  · exact sparesWallets_refuse _

theorem requireText_spares : SparesWallets (schema.requireText field text) := require_spares

theorem requireNonNegative_spares : SparesWallets (schema.requireNonNegative field amount) :=
  require_spares

end EventSchema

open EventSchema

theorem OrderProgress.validate_spares (body : OrderProgress) : SparesWallets body.validate :=
  requireText_spares.bind fun _ _ => requireNonNegative_spares

theorem OrderChange.validate_spares (body : OrderChange) : SparesWallets body.validate :=
  requireText_spares.bind fun _ _ => requireNonNegative_spares.bind fun _ _ =>
    requireNonNegative_spares.bind fun _ _ => (sparesWallets_lift _).bind fun _ _ => require_spares

theorem ExecutionRecorded.validate_spares (body : ExecutionRecorded) :
    SparesWallets body.validate :=
  requireText_spares.bind fun _ _ => requireText_spares.bind fun _ _ =>
    require_spares.bind fun _ _ => requireNonNegative_spares

theorem BalanceUpdated.validate_spares (body : BalanceUpdated) : SparesWallets body.validate :=
  requireText_spares.bind fun _ _ => requireText_spares.bind fun _ _ =>
    requireNonNegative_spares.bind fun _ _ => requireNonNegative_spares

namespace Terms

variable {terms : Terms} {order : Order} {now : Instant} {store : Store}

theorem announce_spares {P : Type} [EventPayload P] {payload : P}
    (valid : SparesWallets (EventPayload.validate payload)) :
    SparesWallets ((terms.announce payload now).run store) :=
  spares_bind (sparesWallets_ok _) fun _ _ _ =>
    spares_bind (spares_failing (valid.bind fun _ _ => sparesWallets_ok _)) fun _ _ _ =>
      spares_modify _

theorem announceOrder_spares {previousStatus : OrderStatus} {reason : Option String} :
    SparesWallets ((terms.announceOrder order previousStatus reason now).run store) :=
  spares_bind (announce_spares (OrderProgress.validate_spares _)) fun _ _ _ =>
    spares_bind (spares_lift _) fun _ _ _ => announce_spares (OrderChange.validate_spares _)

theorem announceBalances_spares {balances : List WalletBalance} {reason orderId : String} :
    SparesWallets ((terms.announceBalances balances reason orderId now).run store) := by
  rw [announceBalances, List.forM_eq_forM]
  induction balances generalizing store with
  | nil => exact sparesWallets_ok _
  | cons balance rest ih =>
      rw [List.forM_cons]
      exact spares_bind (announce_spares (BalanceUpdated.validate_spares _)) fun _ _ _ => ih

end Terms

theorem LedgerTransaction.ofExecution_spares {id : String} {execution : Execution}
    {economics : FillEconomics} {now : Instant} :
    SparesWallets (ofExecution id execution economics now) := by
  have balanced : ∀ transaction : LedgerTransaction, SparesWallets transaction.verifyBalanced := by
    intro transaction
    cases empty : transaction.entries.isEmpty with
    | true =>
        simp only [verifyBalanced, empty, if_true]
        exact (sparesWallets_refuse _).bind fun _ never => absurd never nofun
    | false =>
        simp only [verifyBalanced, empty, Bool.false_eq_true, if_false]
        split
        · exact sparesWallets_refuse _
        · refine (sparesWallets_lift _).bind fun net _ => ?_
          split
          · exact sparesWallets_refuse _
          · exact sparesWallets_ok ()
  exact (balanced _).bind fun _ _ => sparesWallets_ok _

theorem Order.applyFill_spares {order : Order} {quantity : Decimal} {reported : Option OrderStatus}
    {now : Instant} : SparesWallets (order.applyFill quantity reported now) :=
  (sparesWallets_lift _).bind fun _ _ => (sparesWallets_lift _).bind fun _ _ =>
    (sparesWallets_lift _).bind fun _ _ => sparesWallets_ok _

theorem Store.updateOrder_spares {order : Order} {store : Store} :
    SparesWallets ((updateOrder order).run store) := by
  unfold updateOrder
  refine spares_bind (sparesWallets_ok _) fun found _ _ => ?_
  rw [run_ite]
  split
  · exact spares_bind (spares_failing (sparesWallets_refuse _)) fun _ _ _ => sparesWallets_ok _
  · exact sparesWallets_ok _

end SpotSettlement
