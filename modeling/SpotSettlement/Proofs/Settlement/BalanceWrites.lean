import SpotSettlement.Proofs.Ledger.NetMovements
import SpotSettlement.Proofs.Settlement.Reservations

namespace SpotSettlement

/-! # The balances that an operation writes

Every operation on funds gives back the balances that it wrote, as they stand when it is done, and
changes no others.  A fill that completes its order writes one balance twice, and the later of the
two takes the place of the earlier.
-/

namespace Store

variable {store middle after : Store} {balance : WalletBalance}
  {balances earlier later : List WalletBalance}

/-- The balances stand in the store as they are here, and no others have changed. -/
structure Writes (store after : Store) (balances : List WalletBalance) : Prop where
  written : ∀ balance ∈ balances, after.balance? balance.account balance.asset = some balance
  kept : ∀ account asset, (∀ balance ∈ balances, balance.account = account →
    balance.asset ≠ asset) → after.balance? account asset = store.balance? account asset

theorem Writes.none (same : after.balances = store.balances) : store.Writes after [] where
  written := List.forall_mem_nil _
  kept account asset _ := by rw [balance?, same, balance?]

theorem withBalance_writes (store : Store) (balance : WalletBalance) :
    store.Writes (store.withBalance balance) [balance] where
  written other member := by
    rw [List.mem_singleton.mp member, balance?_withBalance, if_pos ⟨rfl, rfl⟩]
  kept account asset untouched := by
    rw [balance?_withBalance, if_neg]
    rintro ⟨same, sameAsset⟩
    exact untouched balance (List.mem_singleton_self balance) same sameAsset

/-- What is written last stands, and what was written before stands where nothing came over it. -/
theorem Writes.trans (first : store.Writes middle earlier) (second : middle.Writes after later)
    (standing : ∀ balance ∈ balances, balance ∈ later ∨ balance ∈ earlier ∧
      ∀ other ∈ later, other.account = balance.account → other.asset ≠ balance.asset)
    (all : ∀ balance, balance ∈ earlier ∨ balance ∈ later → ∃ other ∈ balances,
      other.account = balance.account ∧ other.asset = balance.asset) :
    store.Writes after balances where
  written balance member := by
    obtain last | ⟨before, untouched⟩ := standing balance member
    · exact second.written balance last
    · rw [second.kept _ _ untouched]
      exact first.written balance before
  kept account asset untouched := by
    have spared : ∀ balance, balance ∈ earlier ∨ balance ∈ later → balance.account = account →
        balance.asset ≠ asset := by
      intro balance member here
      obtain ⟨other, listed, sameAccount, sameAsset⟩ := all balance member
      exact sameAsset ▸ untouched other listed (sameAccount.trans here)
    rw [second.kept account asset fun balance member => spared balance (.inr member),
      first.kept account asset fun balance member => spared balance (.inl member)]

end Store

namespace Funds

variable {store after : Store} {order : Order} {pair : AssetPair} {now : Instant}
  {outcome : Option WalletBalance} {balance updated : WalletBalance} {orderId account : String}
  {balances : List WalletBalance} {status : ReservationStatus} {deltas : AssetTotals}
  {progress next : Progress}

theorem reserveFor_writes (done : (reserveFor order pair now).run store = .ok (outcome, after)) :
    store.Writes after outcome.toList := by
  obtain ⟨-, rfl, rfl⟩ | ⟨asset, amount, balance, -, -, rfl, rfl⟩ := reserveFor_cases done
  · exact .none rfl
  · have written := store.withBalance_writes balance
    exact ⟨written.written, written.kept⟩

theorem releaseFor_writes
    (done : (releaseFor orderId status now).run store = .ok (outcome, after)) :
    store.Writes after outcome.toList := by
  obtain ⟨-, rfl, rfl⟩ | ⟨held, balance, -, rfl, -, rfl⟩ := releaseFor_cases done
  · exact .none rfl
  · have written := store.withBalance_writes balance
    exact ⟨written.written, written.kept⟩

/-- What is released is of the account that the reservation is of. -/
theorem releaseFor_account
    (done : (releaseFor orderId status now).run store = .ok (some balance, after)) :
    ∃ held, store.activeReservation? orderId = some held ∧ balance.account = held.account := by
  obtain ⟨-, absent, -⟩ | ⟨held, given, active, same, released, -⟩ := releaseFor_cases done
  · contradiction
  · cases same
    have key := store.balanceOf_key held.account held.asset now
    obtain ⟨-, rfl⟩ | ⟨-, release⟩ := released
    · exact ⟨held, active, key.1⟩
    · obtain ⟨-, -, _, -, _, -, rfl⟩ := WalletBalance.release_ok.mp release
      exact ⟨held, active, key.1⟩

/-- Settling movements of different assets writes one balance for each. -/
theorem settleAll_writes (distinct : (deltas.map (·.1)).Nodup)
    (done : (deltas.foldlM (settleDelta account now) progress).run store = .ok (next, after)) :
    ∃ balances, next.balances = progress.balances ++ balances ∧ store.Writes after balances ∧
      balances.map (·.asset) = deltas.map (·.1) ∧ ∀ balance ∈ balances, balance.account = account := by
  induction deltas generalizing store progress with
  | nil =>
      obtain ⟨rfl, rfl⟩ := Work.pure_ok.mp done
      exact ⟨[], (List.append_nil _).symm, .none rfl, rfl, List.forall_mem_nil _⟩
  | cons delta rest ih =>
      rw [List.foldlM_cons, Work.bind_ok] at done
      obtain ⟨midway, middle, first, others⟩ := done
      obtain ⟨settled, moved, rfl, -, -, grown⟩ := settleDelta_cases first
      have settles := WalletBalance.applyDelta_settles moved
      have key := store.balanceOf_key account delta.1 now
      have owner := settles.account.trans key.1
      have asset := settles.asset.trans key.2
      obtain ⟨fresh, distinct⟩ := List.nodup_cons.mp distinct
      obtain ⟨balances, further, writes, assets, owners⟩ := ih distinct others
      refine ⟨settled.balance :: balances, ?_, ?_, ?_, ?_⟩
      · rw [further, grown, List.append_assoc]
        rfl
      · refine (store.withBalance_writes settled.balance).trans writes ?_ ?_
        · intro balance member
          obtain rfl | later := List.mem_cons.mp member
          · refine .inr ⟨List.mem_singleton_self _, fun other listed _ same => fresh ?_⟩
            have again := List.mem_map_of_mem listed (f := (·.asset))
            rwa [assets, same, asset] at again
          · exact .inl later
        · intro balance member
          refine ⟨balance, ?_, rfl, rfl⟩
          exact List.mem_cons.mpr (member.imp_left List.mem_singleton.mp)
      · rw [List.map_cons, List.map_cons, assets, asset]
      · exact List.forall_mem_cons.mpr ⟨owner, owners⟩

theorem settleFill_writes (distinct : (deltas.map (·.1)).Nodup)
    (done : (settleFill account orderId deltas now).run store = .ok (balances, after)) :
    store.Writes after balances ∧ (balances.map (·.asset)).Nodup ∧
      ∀ balance ∈ balances, balance.account = account := by
  obtain ⟨next, middle, settling, rfl, saved⟩ := settleFill_cases done
  obtain ⟨balances, grown, writes, assets, owners⟩ := settleAll_writes distinct settling
  rw [grown]
  refine ⟨?_, assets ▸ distinct, owners⟩
  obtain ⟨-, rfl⟩ | ⟨drawn, -, rfl⟩ := saved
  · exact writes
  · exact ⟨writes.written, writes.kept⟩

theorem mem_mergeBalance (distinct : (balances.map (·.asset)).Nodup) :
    balance ∈ mergeBalance updated balances ↔
      balance = updated ∨ balance ∈ balances ∧ balance.asset ≠ updated.asset := by
  induction balances with
  | nil => simp [mergeBalance]
  | cons other rest ih =>
      obtain ⟨fresh, distinct⟩ := List.nodup_cons.mp distinct
      have others : other.asset = updated.asset → ∀ balance ∈ rest, balance.asset ≠ updated.asset :=
        fun same balance member again =>
          fresh (List.mem_map.mpr ⟨balance, member, again.trans same.symm⟩)
      unfold mergeBalance
      split
      · next same => grind
      · next different => grind

/-- A balance that is written once more takes the place of the one before. -/
theorem merge_writes {middle : Store} (first : store.Writes middle balances)
    (second : middle.Writes after [updated]) (distinct : (balances.map (·.asset)).Nodup)
    (owners : ∀ balance ∈ balances, balance.account = updated.account) :
    store.Writes after (mergeBalance updated balances) := by
  refine first.trans second ?_ ?_
  · intro balance member
    obtain rfl | ⟨earlier, different⟩ := (mem_mergeBalance distinct).mp member
    · exact .inl (List.mem_singleton_self _)
    · refine .inr ⟨earlier, fun other listed _ => ?_⟩
      rw [List.mem_singleton.mp listed]
      exact different.symm
  · intro balance member
    by_cases same : balance.asset = updated.asset
    · refine ⟨updated, (mem_mergeBalance distinct).mpr (.inl rfl), ?_, same.symm⟩
      obtain earlier | last := member
      · exact (owners balance earlier).symm
      · rw [List.mem_singleton.mp last]
    · obtain earlier | last := member
      · exact ⟨balance, (mem_mergeBalance distinct).mpr (.inr ⟨earlier, same⟩), rfl, rfl⟩
      · exact absurd (List.mem_singleton.mp last ▸ rfl) same

end Funds

namespace Terms

variable {terms : Terms} {store after : Store} {order : Order} {now : Instant}
  {released : Option WalletBalance}

theorem releaseIfClosed_writes
    (done : (releaseIfClosed order now).run store = .ok (released, after)) :
    store.Writes after released.toList := by
  obtain ⟨-, rfl, rfl⟩ | ⟨status, -, release⟩ := releaseIfClosed_cases done
  · exact .none rfl
  · exact Funds.releaseFor_writes release

/-- What a fill writes: the balances that its movements settle, and over one of them the balance
that gets back the rest of the reservation. -/
theorem settled_writes {settled : Store} {moved : Order} {deltas : AssetTotals}
    {balances : List WalletBalance} {transaction : LedgerTransaction}
    (settle : (Funds.settleFill order.account order.id deltas now).run store =
      .ok (balances, settled))
    (distinct : (deltas.map (·.1)).Nodup) (unique : (store.reservations.map (·.id)).Nodup)
    (backed : order.BackedBy (store.reservationsOf order.id)) (same : moved.id = order.id)
    (close : (releaseIfClosed moved now).run
      ((settled.withTransaction transaction).withOrder moved) = .ok (released, after)) :
    store.Writes after (released.elim balances (Funds.mergeBalance · balances)) := by
  obtain ⟨writes, assets, owners⟩ := Funds.settleFill_writes distinct settle
  have closing := releaseIfClosed_writes close
  have further : settled.Writes after released.toList := ⟨closing.written, closing.kept⟩
  cases released with
  | none =>
      refine writes.trans further ?_ ?_
      · exact fun balance member => .inr ⟨member, List.forall_mem_nil _⟩
      · rintro balance (member | absent)
        · exact ⟨balance, member, rfl, rfl⟩
        · contradiction
  | some updated =>
      have drawn := Funds.settleFill_backs settle unique backed
      obtain ⟨-, absent, -⟩ | ⟨status, -, release⟩ := releaseIfClosed_cases close
      · contradiction
      · obtain ⟨held, active, owner⟩ := Funds.releaseFor_account release
        rw [same] at active
        obtain ⟨-, -, account, -⟩ := drawn.backed.of_active active
        refine Funds.merge_writes writes further assets ?_
        intro balance member
        rw [owners balance member, owner, account]

end Terms

end SpotSettlement
