import CityGuide.Api.Server
import CityGuide.Operator.Arguments
import CityGuide.Store.Schema

namespace CityGuide.Operator

open Store

inductive Fault where
  | config (f : Config.Fault)
  | account (why : Invalid)
  | store (t : Trouble)

def Fault.message : Fault → String
  | config _ => "failed to load configuration"
  | account why => "invalid admin account: " ++ why.message
  | store t => t.outermost

inductive Outcome where
  | told (w : Wish)
  | misused (m : Misuse)
  | failed (f : Fault)
  | finished
  | listening (port : Nat) (s : Api.Server)

def Outcome.exitCode : Outcome → Nat
  | told _ | finished | listening _ _ => 0
  | failed _ => 1
  | misused _ => 2

def doing {α : Type} (what : String) (a : Action Failure α) : Action Fault α :=
  Action.mapError (fun f => .store ⟨[what], f⟩) a

def account (r : AdminRequest) : User.Draft :=
  ⟨r.fullName, r.userName, r.email, r.password, some .admin⟩

def migrate : Action Fault Outcome := Action.mapError .store do
  openPool
  Schema.migrate
  pure .finished

def createAccount (r : AdminRequest) : Action Fault Outcome := do
  Action.mapError .store prepareStore
  Action.ofExcept ((account r).validate.mapError .account)
  let _ ← doing "failed to create user" (User.create (account r))
  pure .finished

def serve (c : Config) : Action Fault Outcome := do
  Action.mapError (fun t => .store (t.within "failed to initialize application state")) prepareStore
  let _ ← doing "failed to purge expired sessions" Session.purgeExpired
  match Api.Server.ofConfig c with
  | some server => pure (.listening c.port server)
  | none => Action.crash

def perform (c : Config) : Task → Action Fault Outcome
  | .serve => serve c
  | .migrate => migrate
  | .createAdmin r => createAccount r

def performed (env : Config.Environment) (t : Task) : Action Fault Outcome := do
  let c ← Action.ofExcept ((Config.ofEnvironment env).mapError .config)
  perform c t

def call (env : Config.Environment) (args : List String) : Program Outcome :=
  match read env args with
  | .error m => pure (.misused m)
  | .ok (.task t) => do
      match ← ExceptT.run (performed env t) with
      | .ok outcome => pure outcome
      | .error f => pure (.failed f)
  | .ok w => pure (.told w)

end CityGuide.Operator
