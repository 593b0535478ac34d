import CityGuide.Api.Notifications
import CityGuide.Api.Reports

namespace CityGuide.Api

theorem Incoming.caller_eq_ok {i : Incoming} {c : Caller} :
    i.caller = .ok c ↔ i.caller? = some c := by
  cases h : i.caller? <;> simp [caller, h]

def unreadableStatuses : List Nat := [400, 413, 415, 422]

theorem Incoming.id_error {i : Incoming} {stop : Stop} (h : i.id = .error stop) :
    ∃ status ∈ unreadableStatuses, stop = .unreadable status := by
  rw [id] at h
  split at h
  · simp at h
  · exact ⟨400, by decide, (Except.error.inj h).symm⟩

theorem Incoming.decoded_error {α : Type} {dec : Json.Decoder α} {text : String} {stop : Stop}
    (h : decoded dec text = .error stop) :
    ∃ status ∈ unreadableStatuses, stop = .unreadable status := by
  rw [decoded] at h
  split at h
  · cases h
  · exact ⟨400, by decide, (Except.error.inj h).symm⟩
  · exact ⟨422, by decide, (Except.error.inj h).symm⟩

theorem Incoming.body_error {α : Type} {i : Incoming} {dec : Json.Decoder α} {stop : Stop}
    (h : i.body dec = .error stop) : ∃ status ∈ unreadableStatuses, stop = .unreadable status := by
  rw [body] at h
  split at h
  · split at h
    · exact ⟨413, by decide, (Except.error.inj h).symm⟩
    · exact decoded_error h
  · exact ⟨415, by decide, (Except.error.inj h).symm⟩

namespace Caller

variable {c : Caller}

theorem admin_of_require (h : c.require .administerUsers = .ok ()) : c.userType = .admin := by
  cases ht : c.userType with
  | admin => rfl
  | business | user =>
    simp [require, requireNamed, UserType.holdsNamed, ht, UserType.isAdmin, UserType.permissions,
      Permission.ofBusinesses, Permission.ofMembers, Permission.name] at h

theorem requireOwner_eq_ok {owner : Uuid} :
    c.requireOwner owner = .ok () ↔ c.userType = .admin ∨ c.userId = owner := by
  by_cases ht : c.userType = .admin <;>
    simp [requireOwner, UserType.mayModify, UserType.isAdmin, ht]

theorem requireOwner_self (c : Caller) : c.requireOwner c.userId = .ok () :=
  requireOwner_eq_ok.mpr (.inr rfl)

theorem requireOwner_other {owner : Uuid} (hn : c.userType ≠ .admin) (h : c.userId ≠ owner) :
    c.requireOwner owner = .error (.forbidden "not the owner of this resource") := by
  simp [requireOwner, UserType.mayModify, UserType.isAdmin, hn, h]

theorem scope_eq (h : c.userType ≠ .admin) (requested : Option String) :
    c.scope requested = some c.userId.text := by
  rw [scope, isAdmin, UserType.isAdmin, decide_eq_false h]
  rfl

end Caller

theorem Reports.scope_eq {c : Caller} (h : c.userType ≠ .admin) (requested : Option String) :
    scope c requested = some c.userId.text := by
  cases ht : c.userType with
  | admin => exact absurd ht h
  | business | user =>
    simp [scope, ht, UserType.holds, UserType.holdsNamed, UserType.isAdmin, UserType.permissions,
      Permission.ofBusinesses, Permission.ofMembers, Permission.name]

end CityGuide.Api
