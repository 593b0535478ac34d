import CityGuide.Proofs.Store.Actions
import CityGuide.Store.Listing

namespace CityGuide.Store

open CityGuide.Store.Action

variable {α : Type} {source : Listing.Source} {base : Sql.Select} {read : Row → Option α}
  {r : Listing.Request} {compiled : Listing.Compiled} {t : List Step}

def readItems (read : Row → Option α) (reply : Reply) : Except Failure (List α) :=
  reply.bind fun answer => decode (answer.rows.mapM read)

def readCount (reply : Reply) : Except Failure Int :=
  reply.bind fun answer => (firstRow (fun row => row.first Row.int8) answer).bind atLeastOne

inductive Paged (read : Row → Option α) (compiled : Listing.Compiled) :
    List Step → Except ListFailure (Listing.Page α) → Prop
  | failed {reply : Reply} {f : Failure} (h : readItems read reply = .error f) :
      Paged read compiled [.asked (.run (.select compiled.fetch)) reply] (.error (.store f))
  | counted {reply : Reply} {items : List α} (h : readItems read reply = .ok items)
      (count : Reply) :
      Paged read compiled
        [.asked (.run (.select compiled.fetch)) reply, .asked (.run (.select compiled.count)) count]
        (((readCount count).mapError .store).map fun n => ⟨items, n⟩)

theorem runs_counted {items : List α} {o? : Option (Except ListFailure (Listing.Page α))} :
    Action.Runs (do
      let n ← Action.mapError ListFailure.store
        (one (.select compiled.count) fun row => row.first Row.int8)
      pure (⟨items, n⟩ : Listing.Page α)) t o? ↔
      ∃ count, t = [.asked (.run (.select compiled.count)) count] ∧
        o? = some (((readCount count).mapError .store).map fun n => ⟨items, n⟩) := by
  refine runs_bind_ofExcept.trans ?_
  simp only [runs_mapError, one_eq_ask, runs_ask]
  constructor
  · rintro ⟨_, ⟨_, ⟨count, rfl, rfl⟩, rfl⟩, rfl⟩
    exact ⟨count, rfl, rfl⟩
  · rintro ⟨count, rfl, rfl⟩
    exact ⟨_, ⟨_, ⟨count, rfl, rfl⟩, rfl⟩, rfl⟩

theorem runs_items {o? : Option (Except ListFailure (List α))} :
    Action.Runs (Action.mapError ListFailure.store (all (.select compiled.fetch) read)) t o? ↔
      ∃ reply, t = [.asked (.run (.select compiled.fetch)) reply] ∧
        o? = some ((readItems read reply).mapError .store) := by
  simp only [runs_mapError, all_eq_ask, runs_ask]
  constructor
  · rintro ⟨_, ⟨reply, rfl, rfl⟩, rfl⟩
    exact ⟨reply, rfl, rfl⟩
  · rintro ⟨reply, rfl, rfl⟩
    exact ⟨_, ⟨reply, rfl, rfl⟩, rfl⟩

theorem runs_fetchPage {o? : Option (Except ListFailure (Listing.Page α))}
    (h : source.compile base r = .ok compiled) :
    (fetchPage source base read r).Runs t o? ↔ ∃ o, o? = some o ∧ Paged read compiled t o := by
  rw [fetchPage, h]
  change Action.Runs (Action.ofExcept (.ok compiled) >>= _) t o? ↔ _
  rw [ofExcept_ok_bind, runs_bind]
  simp only [runs_counted, runs_items]
  constructor
  · rintro (⟨_, _, items, rfl, ⟨reply, rfl, hitems⟩, count, rfl, rfl⟩ |
      ⟨e, ⟨reply, rfl, he⟩, rfl⟩ | ⟨⟨_, -, hn⟩, -⟩)
    · cases hread : readItems read reply with
      | error f =>
        rw [hread] at hitems
        cases hitems
      | ok shown =>
        rw [hread] at hitems
        obtain rfl : items = shown := Except.ok.inj (Option.some.inj hitems)
        exact ⟨_, rfl, .counted hread count⟩
    · cases hread : readItems read reply with
      | error f =>
        rw [hread] at he
        obtain rfl : e = .store f := Except.error.inj (Option.some.inj he)
        exact ⟨_, rfl, .failed hread⟩
      | ok shown =>
        rw [hread] at he
        cases he
    · simp at hn
  · rintro ⟨_, rfl, h⟩
    cases h with
    | failed hread => exact .inr (.inl ⟨_, ⟨_, rfl, by rw [hread]; rfl⟩, rfl⟩)
    | counted hread count => exact .inl ⟨_, _, _, rfl, ⟨_, rfl, by rw [hread]; rfl⟩, _, rfl, rfl⟩

end CityGuide.Store
