import Mathlib.Data.List.Nodup
import Mathlib.Data.List.Perm.Subperm
import SpotSettlement.Proofs.Work
import SpotSettlement.Store.Orders

namespace SpotSettlement.Store

/-! # Identifiers that were handed out

Identifiers are handed out by number, and the number never goes back.  So the next identifier is
none of those that were handed out before.
-/

theorem identifier_injective : Function.Injective identifier := by
  intro left right same
  unfold identifier at same
  rw [String.append_right_inj] at same
  have numbers := congrArg (fun text => Nat.ofDigitChars 10 text.toList 0) same
  simpa [Text.padded, Nat.ofDigitChars_append] using numbers

/-- An identifier that was handed out. -/
def Minted (store : Store) (id : String) : Prop := ∃ number ≤ store.minted, id = identifier number

variable {store after : Store} {id : String}

theorem Minted.mono (minted : store.Minted id) (later : store.minted ≤ after.minted) :
    after.Minted id := by
  obtain ⟨number, bound, rfl⟩ := minted
  exact ⟨number, Nat.le_trans bound later, rfl⟩

theorem Minted.ne_identifier {number : Nat} (minted : store.Minted id)
    (fresh : store.minted < number) : id ≠ identifier number := by
  obtain ⟨earlier, bound, rfl⟩ := minted
  intro same
  have := identifier_injective same
  omega

/-- The identifiers were handed out, and none of them twice. -/
def Issued (store : Store) (ids : List String) : Prop := ids.Nodup ∧ ∀ id ∈ ids, store.Minted id

theorem Issued.mono {ids : List String} (issued : store.Issued ids)
    (later : store.minted ≤ after.minted) : after.Issued ids :=
  ⟨issued.1, fun id member => (issued.2 id member).mono later⟩

theorem Issued.append {ids : List String} {number : Nat} (issued : store.Issued ids)
    (fresh : store.minted < number) (bound : number ≤ after.minted) :
    after.Issued (ids ++ [identifier number]) := by
  constructor
  · rw [List.nodup_append]
    refine ⟨issued.1, List.nodup_singleton _, ?_⟩
    intro earlier member other new
    rw [List.mem_singleton.mp new]
    exact (issued.2 earlier member).ne_identifier fresh
  · intro id member
    obtain earlier | new := List.mem_append.mp member
    · exact (issued.2 id earlier).mono (by omega)
    · exact ⟨number, bound, List.mem_singleton.mp new⟩

theorem minted_lt_freshOrderNumber (store : Store) : store.minted < store.freshOrderNumber := by
  unfold freshOrderNumber
  cases found : (List.range' (store.minted + 1) (store.orders.length + 1)).find? fun number =>
      (store.order? (identifier number)).isNone with
  | none => exact Nat.lt_succ_self _
  | some number =>
      have member := List.mem_of_find?_eq_some found
      rw [List.mem_range'_1] at member
      exact member.1

/-- One number more than there are orders leaves one whose identifier no order has. -/
theorem order?_freshOrderNumber (store : Store) :
    store.order? (identifier store.freshOrderNumber) = none := by
  unfold freshOrderNumber
  cases found : (List.range' (store.minted + 1) (store.orders.length + 1)).find? fun number =>
      (store.order? (identifier number)).isNone with
  | some number => simpa using List.find?_some found
  | none =>
      have taken : (List.range' (store.minted + 1) (store.orders.length + 1)).map identifier ⊆
          store.orders.map (·.id) := by
        intro id member
        obtain ⟨number, listed, rfl⟩ := List.mem_map.mp member
        have used := List.find?_eq_none.mp found number listed
        rw [Option.isNone_iff_eq_none, ← ne_eq, Option.ne_none_iff_exists'] at used
        obtain ⟨order, lookup⟩ := used
        have same : order.id = identifier number := by simpa using List.find?_some lookup
        exact same ▸ List.mem_map_of_mem (List.mem_of_find?_eq_some lookup)
      have unique : ((List.range' (store.minted + 1) (store.orders.length + 1)).map identifier).Nodup :=
        List.Nodup.map identifier_injective List.nodup_range'
      have crowded := (unique.subperm taken).length_le
      rw [List.length_map, List.length_map, List.length_range'] at crowded
      omega

theorem mintOrder_ok : mintOrder.run store = .ok (id, after) ↔
    identifier store.freshOrderNumber = id ∧
      { store with minted := store.freshOrderNumber } = after := by
  unfold mintOrder
  rw [Work.get_bind_ok, Work.set_bind_ok, Work.pure_ok]

end SpotSettlement.Store
