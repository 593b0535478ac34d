import CityGuide.Proofs.Operator.AdminAccounts

namespace CityGuide.Operator

open Store Store.Action

variable {env : Config.Environment} {args : List String} {t : List Step} {v? : Option Outcome}

inductive Issues : Command → Prop
  | connect : Issues .connect
  | script (sql : String) : Issues (.script sql)
  | purge : Issues (.run .purgeSessions)
  | account (r : AdminRequest) (id : Uuid) (salt : Password.Salt) :
      Issues (.run (.insert User.table ((account r).row id (Password.hash salt r.password))
        .returning))

theorem Founds.issues {r : AdminRequest} {c : Command} (h : Founds r c) : Issues c := by
  cases h with
  | connect => exact .connect
  | script sql => exact .script sql
  | account id salt => exact .account r id salt

theorem perform_sends (c : Config) (task : Task) : Sends Issues (perform c task) := by
  cases task with
  | serve =>
    refine .bind (.mapError (prepareStore_sends .connect .script)) fun _ =>
      .bind (.mapError (.affected .purge)) fun _ => ?_
    split
    · exact .pure _
    · exact .crash
  | migrate =>
    exact .mapError (.bind (openPool_sends .connect) fun _ =>
      .bind (Schema.migrate_sends .script) fun _ => .pure _)
  | createAdmin r => exact fun t o? ht x hx => (createAccount_sends t o? ht x hx).issues

theorem issued (ht : (call env args).Runs t v?) {x : Exchange} (hx : x ∈ exchanges t) :
    Issues x.1 := by
  have hidle : ∀ {outcome : Outcome}, call env args = pure outcome → exchanges t = [] := by
    intro outcome hcall
    rw [hcall] at ht
    rw [(Program.runs_done.mp ht).1, exchanges_nil]
  cases hread : read env args with
  | error m => simp [hidle (by rw [call, hread])] at hx
  | ok w =>
    cases w with
    | help | version => simp [hidle (by rw [call, hread])] at hx
    | task task =>
      obtain ⟨o?, ho, -⟩ := (runs_call hread).mp ht
      have hsends : Sends Issues (performed env task) := .gate_mapError fun c _ => perform_sends c task
      exact hsends t o? ho x hx

end CityGuide.Operator
