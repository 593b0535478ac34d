import CityGuide.Proofs.Api.PasswordChange
import CityGuide.Proofs.Api.Veiling
import CityGuide.Proofs.Sql.Bound

namespace CityGuide

open Store Store.Action

variable {P : String → Prop} {ε ε' α β : Type} {t u : List Step}

/-- How a password is kept: as an Argon2 hash, under a salt that was drawn in the run. It is the
text of the password only where that is a hash itself, and under the very salt. -/
structure Kept (t : List Step) (password : String) (salt : Password.Salt) (text : String) :
    Prop where
  drawn : .drewSalt salt ∈ t
  reads : Password.Hash.ofText? text =
    some ⟨Password.defaults .id .v19, salt.toList, Password.tag salt password⟩
  conceals : (Password.Hash.ofText? password).map (·.salt) ≠ some salt.toList → text ≠ password

theorem kept_hash {salt : Password.Salt} {password : String} (h : .drewSalt salt ∈ t) :
    Kept t password salt (Password.hash salt password) where
  drawn := h
  reads := Password.ofText?_hash salt password
  conceals hsalt heq := hsalt <| by rw [← heq, Password.ofText?_hash]; rfl

theorem Kept.mono {password text : String} {salt : Password.Salt} (h : Kept t password salt text)
    (hsub : t ⊆ u) : Kept u password salt text := ⟨hsub h.drawn, h.reads, h.conceals⟩

def Concealed (P : String → Prop) (t : List Step) : Prop :=
  ∀ st reply, .asked (.run st) reply ∈ t → st.boundAt "password_hash" = [] ∨
    ∃ password salt text, P password ∧ Kept t password salt text ∧
      st.boundAt "password_hash" = [.text text]

namespace Concealed

theorem of_hashless (h : ∀ st reply, (.run st, reply) ∈ exchanges t →
    st.boundAt "password_hash" = []) : Concealed P t :=
  fun st reply hx => .inl (h st reply (mem_exchanges.mpr hx))

theorem append (ht : Concealed P t) (hu : Concealed P u) : Concealed P (t ++ u) := by
  have widen {v : List Step} (hv : Concealed P v) (hsub : v ⊆ t ++ u) (st : Sql.Statement)
      (reply : Reply) (hx : .asked (.run st) reply ∈ v) : st.boundAt "password_hash" = [] ∨
        ∃ password salt text, P password ∧ Kept (t ++ u) password salt text ∧
          st.boundAt "password_hash" = [.text text] := by
    rcases hv st reply hx with hnone | ⟨password, salt, text, hp, hkept, hbound⟩
    · exact .inl hnone
    · exact .inr ⟨password, salt, text, hp, hkept.mono hsub, hbound⟩
  intro st reply hx
  rcases List.mem_append.mp hx with hx | hx
  · exact widen ht (List.subset_append_left t u) st reply hx
  · exact widen hu (List.subset_append_right t u) st reply hx

end Concealed

namespace Store.Action

def Conceals (P : String → Prop) (a : Action ε α) : Prop := ∀ t o?, a.Runs t o? → Concealed P t

namespace Conceals

theorem of_sends {a : Action ε α}
    (h : Sends (fun c => ∀ st, c = .run st → st.boundAt "password_hash" = []) a) :
    Conceals P a :=
  fun t o? ht => .of_hashless fun st _ hx => h t o? ht _ hx st rfl

theorem bind {a : Action ε α} {k : α → Action ε β} (ha : Conceals P a)
    (hk : ∀ x, Conceals P (k x)) : Conceals P (a >>= k) := by
  intro t o? ht
  rcases runs_bind.mp ht with ⟨u, w, y, rfl, hu, hw⟩ | ⟨e, he, -⟩ | ⟨hn, -⟩
  · exact (ha u _ hu).append (hk y w _ hw)
  · exact ha t _ he
  · exact ha t _ hn

theorem gate {r : Except ε α} {k : α → Action ε β} (h : ∀ a, r = .ok a → Conceals P (k a)) :
    Conceals P (Action.ofExcept r >>= k) := by
  cases r with
  | error e => exact of_sends (.ofExcept _)
  | ok a => exact h a rfl

theorem mapError {f : ε → ε'} {a : Action ε α} (h : Conceals P a) : Conceals P (a.mapError f) := by
  intro t o? ht
  obtain ⟨v?, hv, -⟩ := runs_mapError.mp ht
  exact h t v? hv

end Conceals

end Store.Action

namespace User

theorem Change.statement_hash (change : Change) (hash? : Option String) (id : Uuid) :
    (change.statement hash? id).boundAt "password_hash" = (hash?.map .text).toList := by
  rw [statement, Sql.Statement.boundAt_update, List.filter_append, List.map_append, assignments,
    Sql.filter_present]
  cases hash? <;> rfl

theorem update_conceals {id : Uuid} {change : Change}
    (h : ∀ password, change.password = some password → P password) :
    Conceals P (update id change) := by
  intro t o? ht
  obtain ⟨u, hash?, reply, hhash, rfl, -⟩ := runs_update.mp ht
  rintro st _ hx
  have hst : st = change.statement hash? id := by
    rcases List.mem_append.mp hx with hx | hx
    · simpa [hhash.exchanges_eq] using mem_exchanges.mpr hx
    · exact (by simpa using hx : st = change.statement hash? id ∧ _ = reply).1
  rw [hst, Change.statement_hash]
  generalize hp : change.password = password? at hhash
  cases hhash with
  | none => exact .inl rfl
  | some salt password => exact .inr ⟨password, salt, _, h password hp, kept_hash (by simp), rfl⟩

end User

namespace Api

open Handling

inductive Gives (r : Http.Request) : String → Prop
  | registered {b : Auth.Registration}
      (h : Incoming.body ⟨r, none, none⟩ Auth.Registration.decode = .ok b) : Gives r b.password
  | drafted {d : User.Draft} (h : Incoming.body ⟨r, none, none⟩ User.Draft.decode = .ok d) :
      Gives r d.password
  | changed {change : User.Change} {password : String}
      (h : Incoming.body ⟨r, none, none⟩ User.Change.decode = .ok change)
      (hp : change.password = some password) : Gives r password

variable {i : Incoming}

namespace Users

theorem applyChange_conceals {change : User.Change}
    (hb : i.body User.Change.decode = .ok change) (c : Caller) (id : Uuid) :
    Conceals (Gives i.request) (applyChange c id change) := by
  have hrevoked : Sends (fun c => ∀ st, c = .run st → st.boundAt "password_hash" = [])
      (Session.deleteForUser id) := by
    refine .affected ?_
    rintro _ ⟨⟩
    exact Sql.Statement.boundAt_eq_nil (by simp [Sql.Statement.placed])
  rw [applyChange_eq]
  refine .gate fun _ _ => .bind (.bind (.mapError (User.update_conceals ?_)) fun _ =>
    .of_sends (.ofExcept _)) fun user => ?_
  · exact fun password hp => .changed hb hp
  · split
    · exact .of_sends (.bind (.mapError hrevoked) fun _ => .pure _)
    · exact .of_sends (.pure _)

theorem update_conceals : Conceals (Gives i.request) (update i) :=
  .gate fun c _ => .gate fun id _ => .gate fun _ hb => applyChange_conceals hb c id

end Users

namespace Server

variable {s : Server} {r : Http.Request} {body : Http.Content} {t t' : List Step}
  {v? v?' : Option Http.Response}

end Server

end Api

end CityGuide
