import CityGuide.Operator.Task
import CityGuide.Proofs.Store.Entities

namespace CityGuide

open Store Store.Action

namespace Store

variable {S : Command → Prop}

theorem openPool_sends (hconnect : S .connect) : Sends S openPool :=
  .bind (.mapError (.send hconnect)) fun _ => .pure _

theorem Schema.migrate_sends (hscript : ∀ sql, S (.script sql)) : Sends S migrate := by
  have hscripts : ∀ scripts, Sends S (sendAll scripts) := by
    intro scripts
    induction scripts with
    | nil => exact .pure _
    | cons tables more ih => exact .bind (.send (hscript _)) fun _ => ih
  exact .mapError (hscripts _)

theorem prepareStore_sends (hconnect : S .connect) (hscript : ∀ sql, S (.script sql)) :
    Sends S prepareStore :=
  .bind (.mapError (openPool_sends hconnect)) fun _ => .mapError (Schema.migrate_sends hscript)

end Store

namespace Operator

variable {env : Config.Environment} {args : List String} {r : AdminRequest} {t : List Step}

def concluded : Except Fault Outcome → Outcome
  | .ok outcome => outcome
  | .error f => .failed f

theorem runs_call {task : Task} {v? : Option Outcome} (hread : read env args = .ok (.task task)) :
    (call env args).Runs t v? ↔ ∃ o?, (performed env task).Runs t o? ∧ v? = o?.map concluded := by
  have hcall : call env args =
      (ExceptT.run (performed env task)).bind fun o => .done (concluded o) := by
    rw [call, hread]
    refine congrArg (Program.bind (ExceptT.run (performed env task))) (funext fun o => ?_)
    cases o <;> rfl
  rw [hcall, Program.runs_map]
  rfl

inductive Founds (r : AdminRequest) : Command → Prop
  | connect : Founds r .connect
  | script (sql : String) : Founds r (.script sql)
  | account (id : Uuid) (salt : Password.Salt) (hv : (account r).validate = .ok ()) :
      Founds r (.run (.insert User.table ((account r).row id (Password.hash salt r.password))
        .returning))

theorem createAccount_sends : Sends (Founds r) (createAccount r) := by
  refine .bind (.mapError (prepareStore_sends .connect .script)) fun _ => ?_
  refine .gate_mapError fun _ hv => ?_
  exact .bind (.mapError (User.create_sends fun id salt => .account id salt hv)) fun _ => .pure _

theorem performed_sends : Sends (Founds r) (performed env (.createAdmin r)) :=
  .gate_mapError fun _ _ => createAccount_sends

theorem call_sends {v? : Option Outcome} (hread : read env args = .ok (.task (.createAdmin r)))
    (ht : (call env args).Runs t v?) {x : Exchange} (hx : x ∈ exchanges t) : Founds r x.1 := by
  obtain ⟨o?, ho, -⟩ := (runs_call hread).mp ht
  exact performed_sends t o? ho x hx

end Operator

end CityGuide
