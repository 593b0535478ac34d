import CityGuide.Proofs.Api.Ownership
import CityGuide.Proofs.Api.SignedRequests
import CityGuide.Proofs.Store.Effects
import CityGuide.Proofs.Store.Entities

namespace CityGuide

open Store Store.Action

variable {t : List Step} {id : Uuid} {change : User.Change}

namespace User

inductive Hashing : Option String → List Step → Option String → Prop
  | none : Hashing none [] none
  | some (salt : Password.Salt) (password : String) :
      Hashing (some password) [.drewSalt salt] (some (Password.hash salt password))

theorem Hashing.exchanges_eq {password? passwordHash? : Option String}
    (h : Hashing password? t passwordHash?) : exchanges t = [] := by
  cases h <;> rfl

theorem runs_hashedIfGiven {ε : Type} {password? : Option String}
    {o? : Option (Except ε (Option String))} :
    (hashedIfGiven password?).Runs t o? ↔
      ∃ passwordHash?, o? = some (.ok passwordHash?) ∧ Hashing password? t passwordHash? := by
  cases password? with
  | none =>
    rw [hashedIfGiven, runs_pure]
    constructor
    · rintro ⟨rfl, rfl⟩
      exact ⟨none, rfl, .none⟩
    · rintro ⟨_, rfl, h⟩
      cases h
      exact ⟨rfl, rfl⟩
  | some password =>
    rw [hashedIfGiven, hashed_bind]
    change (Program.freshSalt _).Runs t o? ↔ _
    rw [Program.runs_freshSalt]
    constructor
    · rintro ⟨salt, _, rfl, h⟩
      obtain ⟨rfl, rfl⟩ := runs_pure.mp h
      exact ⟨_, rfl, .some salt password⟩
    · rintro ⟨_, rfl, h⟩
      cases h with
      | some salt => exact ⟨salt, [], rfl, runs_pure.mpr ⟨rfl, rfl⟩⟩

def Change.statement (change : Change) (passwordHash? : Option String) (id : Uuid) :
    Sql.Statement := .update table (change.assignments passwordHash?) id

theorem runs_update {o? : Option (Except Failure (Option User))} :
    (update id change).Runs t o? ↔ ∃ u passwordHash? reply,
      Hashing change.password u passwordHash? ∧
        t = u ++ [.asked (.run (change.statement passwordHash? id)) reply] ∧
        o? = some (reply.bind (firstRow ofRow)) := by
  rw [update, runs_bind]
  simp only [runs_hashedIfGiven, optional_eq_ask, runs_ask]
  constructor
  · rintro (⟨u, _, h?, rfl, ⟨_, hh, hu⟩, reply, rfl, rfl⟩ | ⟨f, ⟨_, hf, -⟩, -⟩ | ⟨⟨_, hn, -⟩, -⟩)
    · obtain rfl := Except.ok.inj (Option.some.inj hh)
      exact ⟨u, _, reply, hu, rfl, rfl⟩
    · simp at hf
    · simp at hn
  · rintro ⟨u, h?, reply, hu, rfl, rfl⟩
    exact .inl ⟨u, _, h?, rfl, ⟨h?, rfl, hu⟩, reply, rfl, rfl⟩

end User

def Session.revocation (id : Uuid) : Sql.Statement :=
  .delete .plain Session.table [("user_id", .uuid id)]

namespace Api

open Handling

theorem settle_error_status (e : Error) :
    (settle Stop.response (.error (.error e))).status ≠ 200 := by
  cases e <;> simp [settle, Stop.response, Http.Response.json, Error.status]

namespace Users

variable {c : Caller}

def admitted (c : Caller) (id : Uuid) (change : User.Change) : Except Stop Unit := do
  (c.requireOwner id).mapError .error
  if change.changesPrivileges then (c.require .administerUsers).mapError .error else pure ()
  change.validate.mapError fun i => .error (.badRequest i.message)

def concluded (user : User) : Reply → Except Stop Http.Response
  | .ok _ => .ok (.json 200 user.toJson)
  | .error f => .error (.error (.ofFailure f))

inductive Altering (id : Uuid) (change : User.Change) :
    List Step → Except Stop Http.Response → Prop
  | unmade {u : List Step} {passwordHash? : Option String} {reply : Reply} {stop : Stop}
      (hu : User.Hashing change.password u passwordHash?)
      (hread : existed (reply.bind (firstRow User.ofRow)) = .error stop) :
      Altering id change (u ++ [.asked (.run (change.statement passwordHash? id)) reply])
        (.error stop)
  | made {u : List Step} {passwordHash? : Option String} {reply : Reply} {user : User}
      (ended : Reply) (hu : User.Hashing change.password u passwordHash?)
      (hread : reply.bind (firstRow User.ofRow) = .ok (some user)) :
      Altering id change
        (u ++ [.asked (.run (change.statement passwordHash? id)) reply,
          .asked (.run (Session.revocation id)) ended])
        (concluded user ended)

def changed (id : Uuid) (change : User.Change) : Handling Http.Response := do
  let user ← existing (User.update id change)
  if change.revokesSessions then do
    let _ ← ofStore (Session.deleteForUser id)
    ok user.toJson
  else ok user.toJson

theorem applyChange_eq (c : Caller) (id : Uuid) (change : User.Change) :
    applyChange c id change =
      Action.ofExcept (admitted c id change) >>= fun _ => changed id change := by
  cases ho : c.requireOwner id with
  | error e => simp only [applyChange, admitted, ofResult, ho]; rfl
  | ok =>
    cases hp : change.changesPrivileges with
    | false =>
      cases hv : change.validate <;>
        simp only [applyChange, admitted, ofResult, ofValid, ho, hp, hv] <;> rfl
    | true =>
      cases ha : c.require .administerUsers with
      | error e => simp only [applyChange, admitted, ofResult, ho, hp, ha]; rfl
      | ok =>
        cases hv : change.validate <;>
          simp only [applyChange, admitted, ofResult, ofValid, ho, hp, ha, hv] <;> rfl

theorem runs_revoking {user : User} {o? : Option (Except Stop Http.Response)} :
    Runs (ofStore (Session.deleteForUser id) >>= fun _ => ok user.toJson) t o? ↔
      ∃ ended, t = [.asked (.run (Session.revocation id)) ended] ∧
        o? = some (concluded user ended) := by
  change Runs (ofStore (Session.deleteForUser id) >>= fun _ =>
    Action.ofExcept (.ok (.json 200 user.toJson))) t o? ↔ _
  rw [runs_bind_ofExcept]
  simp only [ofStore, runs_mapError, Session.deleteForUser, affected_eq_ask, runs_ask]
  constructor
  · rintro ⟨_, ⟨_, ⟨ended, rfl, rfl⟩, rfl⟩, rfl⟩
    exact ⟨ended, rfl, by cases ended <;> rfl⟩
  · rintro ⟨ended, rfl, rfl⟩
    exact ⟨_, ⟨_, ⟨ended, rfl, rfl⟩, rfl⟩, by cases ended <;> rfl⟩

theorem runs_changed (hr : change.revokesSessions = true)
    {o? : Option (Except Stop Http.Response)} :
    (changed id change).Runs t o? ↔ ∃ o, o? = some o ∧ Altering id change t o := by
  simp only [changed, if_pos hr]
  rw [runs_bind]
  simp only [runs_revoking, runs_existing, User.runs_update]
  constructor
  · rintro (⟨_, _, user, rfl, ⟨_, ⟨u, h?, reply, hu, rfl, rfl⟩, hread⟩, ended, rfl, rfl⟩ |
      ⟨stop, ⟨_, ⟨u, h?, reply, hu, rfl, rfl⟩, hread⟩, rfl⟩ | ⟨⟨_, ⟨_, _, _, _, _, rfl⟩, hn⟩, -⟩)
    · have hread := existed_eq_ok.mp (Option.some.inj hread).symm
      rw [List.append_assoc]
      exact ⟨_, rfl, .made ended hu hread⟩
    · exact ⟨_, rfl, .unmade hu (Option.some.inj hread).symm⟩
    · simp at hn
  · rintro ⟨o, rfl, h⟩
    cases h with
    | unmade hu hread =>
      exact .inr (.inl ⟨_, ⟨_, ⟨_, _, _, hu, rfl, rfl⟩, congrArg some hread.symm⟩, rfl⟩)
    | made ended hu hread =>
      have hexisted := congrArg some (existed_eq_ok.mpr hread).symm
      exact .inl ⟨_, _, _, by simp, ⟨_, ⟨_, _, _, hu, rfl, rfl⟩, hexisted⟩, ended, rfl, rfl⟩

theorem runs_applyChange (hr : change.revokesSessions = true)
    {o? : Option (Except Stop Http.Response)} :
    (applyChange c id change).Runs t o? ↔
      (∃ stop, admitted c id change = .error stop ∧ t = [] ∧ o? = some (.error stop)) ∨
        admitted c id change = .ok () ∧ ∃ o, o? = some o ∧ Altering id change t o := by
  rw [applyChange_eq]
  cases ha : admitted c id change with
  | error stop =>
    rw [ofExcept_error_bind, runs_ofExcept]
    simp
  | ok =>
    rw [ofExcept_ok_bind, runs_changed hr]
    simp

theorem applyChange_altering (hr : change.revokesSessions = true)
    {o? : Option (Except Stop Http.Response)} (ht : (applyChange c id change).Runs t o?) :
    t = [] ∨ ∃ id o, o? = some o ∧ Altering id change t o := by
  rcases (runs_applyChange hr).mp ht with ⟨_, -, rfl, -⟩ | ⟨-, o, ho, hfollows⟩
  · exact .inl rfl
  · exact .inr ⟨id, o, ho, hfollows⟩

theorem updateSelf_eq {i : Incoming} (hc : i.caller? = some c)
    (hb : i.body User.Change.decode = .ok change) :
    updateSelf i = applyChange c c.userId change := by
  simp only [updateSelf, read, Incoming.caller_eq_ok.mpr hc, hb, ofExcept_ok_bind]

theorem updateSelf_altering {i : Incoming} (hc : i.caller? = some c)
    (hb : i.body User.Change.decode = .ok change) (hr : change.revokesSessions = true)
    {o? : Option (Except Stop Http.Response)} (ht : (updateSelf i).Runs t o?) :
    t = [] ∨ ∃ id o, o? = some o ∧ Altering id change t o :=
  applyChange_altering hr (updateSelf_eq hc hb ▸ ht)

theorem update_altering {i : Incoming} (hc : i.caller? = some c)
    (hb : i.body User.Change.decode = .ok change) (hr : change.revokesSessions = true)
    {o? : Option (Except Stop Http.Response)} (ht : (update i).Runs t o?) :
    t = [] ∨ ∃ id o, o? = some o ∧ Altering id change t o := by
  cases hi : i.id with
  | error stop =>
    simp only [update, read, Incoming.caller_eq_ok.mpr hc, hi, ofExcept_ok_bind,
      ofExcept_error_bind, runs_ofExcept] at ht
    exact .inl ht.1
  | ok id =>
    have heq : update i = applyChange c id change := by
      simp only [update, read, Incoming.caller_eq_ok.mpr hc, hi, hb, ofExcept_ok_bind]
    exact applyChange_altering hr (heq ▸ ht)

theorem Altering.no_begin {o : Except Stop Http.Response} (h : Altering id change t o) :
    ∀ x ∈ exchanges t, x.1 ≠ .begin := by
  cases h with
  | unmade hu | made _ hu => simp [hu.exchanges_eq]

theorem concluded_status (user : User) (ended : Reply) :
    (settle Stop.response (concluded user ended)).status = 200 ↔ ∃ answer, ended = .ok answer := by
  cases ended with
  | error f => simpa [concluded] using settle_error_status (.ofFailure f)
  | ok answer => simp [concluded, settle, Http.Response.json]

theorem Altering.sessions_end {id' : Uuid} {o : Except Stop Http.Response}
    (h : Altering id' change t o) {assignments : List Sql.Assignment} {answer : Answer}
    (hmade : (.run (.update User.table assignments id), .ok answer) ∈ exchanges t)
    (hrow : answer.rows ≠ []) :
    ((∃ ended, (.run (Session.revocation id), .ok ended) ∈ exchanges t) ↔
      (∃ user, firstRow User.ofRow answer = .ok (some user)) ∧
        ∀ f, (.run (Session.revocation id), .error f) ∉ exchanges t) ∧
    ((settle Stop.response o).status = 200 ↔
      ∃ ended, (.run (Session.revocation id), .ok ended) ∈ exchanges t) := by
  cases h with
  | @unmade u passwordHash? reply stop hu hread =>
    rw [exchanges_append, hu.exchanges_eq] at hmade ⊢
    obtain ⟨-, rfl⟩ := Prod.mk.inj (List.mem_singleton.mp hmade)
    change existed (firstRow User.ofRow answer) = _ at hread
    -- With a row there, it can only be that it could not be read.
    rcases firstRow_of_row User.ofRow hrow with ⟨user, hread'⟩ | hread'
    · rw [hread'] at hread
      cases hread
    · rw [hread'] at hread
      obtain rfl := Except.error.inj hread
      simp [Session.revocation, User.Change.statement, hread', settle_error_status]
  | @made u passwordHash? reply user ended hu hread =>
    rw [exchanges_append, hu.exchanges_eq] at hmade ⊢
    obtain ⟨rfl, rfl⟩ : id = id' ∧ .ok answer = reply := by
      simp only [exchanges_asked, exchanges_nil, List.nil_append, List.mem_cons, Prod.mk.injEq,
        Command.run.injEq, User.Change.statement, Sql.Statement.update.injEq, Session.revocation,
        reduceCtorEq, false_and, List.not_mem_nil, or_false] at hmade
      exact ⟨hmade.1.2.2, hmade.2⟩
    have hrevoked : ∀ r : Reply, (Command.run (Session.revocation id), r) ∈ [] ++ exchanges
        [.asked (.run (change.statement passwordHash? id)) (.ok answer),
          .asked (.run (Session.revocation id)) ended] ↔ r = ended := by
      simp [Session.revocation, User.Change.statement]
    change firstRow User.ofRow answer = _ at hread
    simp only [hrevoked, concluded_status, hread]
    cases ended <;> simp

end Users

theorem updateSelf_mem (policy : TokenPolicy) :
    (Endpoint.fixed .put ["v1", "user"], Users.updateSelf) ∈ endpoints policy := by
  simp [endpoints, Route.endpoints, routes, path, named, Endpoint.fixed]

def accountChanges : List Endpoint := [.fixed .put ["v1", "user"], .named .put ["v1", "user"]]

namespace Server

open Users

variable {s : Server} {r : Http.Request} {e : Endpoint} {name? : Option (List Char)}
  {v? : Option Http.Response}

theorem change_course (he : e ∈ accountChanges) (hr : s.Reaches r e name?)
    (hb : (⟨r, none, none⟩ : Incoming).body User.Change.decode = .ok change)
    (hrevokes : change.revokesSessions = true) (ht : (s.handle r).Runs t v?) :
    (∀ x ∈ exchanges t, ∃ sessionId userId, x.1 = .run (.activeSession sessionId userId)) ∨
      ∃ lead rest c id o, t = lead ++ rest ∧ s.Introduces r lead (some c) ∧
        Altering id change rest o ∧ v? = some (s.outer r (settle Stop.response o)) := by
  have hclosed : e ∉ openEndpoints := by
    have hall : ∀ x ∈ accountChanges, x ∉ openEndpoints := by
      simp [accountChanges, openEndpoints, Endpoint.fixed, Endpoint.named]
    exact hall e he
  obtain ⟨h, hh, hcourse⟩ : ∃ h, (e, h) ∈ endpoints s.policy ∧
      ∀ c rest o?, (h ⟨r, some c, name?⟩).Runs rest o? →
        rest = [] ∨ ∃ id o, o? = some o ∧ Altering id change rest o := by
    simp only [accountChanges, List.mem_cons, List.not_mem_nil, or_false] at he
    rcases he with rfl | rfl
    · refine ⟨updateSelf, updateSelf_mem _, fun c rest o? ho => ?_⟩
      exact updateSelf_altering (i := ⟨r, some c, name?⟩) rfl hb hrevokes ho
    · refine ⟨update, ?_, fun c rest o? ho => ?_⟩
      · simp [endpoints, Route.endpoints, routes, path, named, Endpoint.named]
      · exact update_altering (i := ⟨r, some c, name?⟩) rfl hb hrevokes ho
  rcases hr.runs_cases hh ht with ⟨lead, rest, c?, o?, rfl, hlead, ho, rfl⟩ | ⟨_, -, hturned⟩
  · cases c? with
    | none =>
      rw [endpoints_needCaller hh hclosed _ rfl, refuse, runs_ofExcept] at ho
      obtain ⟨rfl, -⟩ := ho
      rw [List.append_nil]
      exact .inl hlead.sends
    | some c =>
      rcases hcourse c rest o? ho with rfl | ⟨id, o, rfl, hfollows⟩
      · rw [List.append_nil]
        exact .inl hlead.sends
      · exact .inr ⟨lead, rest, c, id, o, rfl, hlead, hfollows, rfl⟩
  · exact .inl hturned.sends

theorem Introduces.run_mem_append {lead rest : List Step} {c? : Option Caller}
    (h : s.Introduces r lead c?) {st : Sql.Statement} {reply : Reply}
    (hst : ∀ sessionId userId, st ≠ .activeSession sessionId userId) :
    (.run st, reply) ∈ exchanges (lead ++ rest) ↔ (.run st, reply) ∈ exchanges rest := by
  rw [exchanges_append, List.mem_append, or_iff_right]
  intro hx
  obtain ⟨sessionId, userId, hlook⟩ := h.sends _ hx
  exact hst sessionId userId (by simpa using hlook)

theorem Reaches.sent_by_handler {h : Handler} {st : Sql.Statement} {reply : Reply}
    (hr : s.Reaches r e name?) (hh : (e, h) ∈ endpoints s.policy) (ht : (s.handle r).Runs t v?)
    (hst : ∀ sessionId userId, st ≠ .activeSession sessionId userId)
    (hx : (.run st, reply) ∈ exchanges t) :
    ∃ lead rest c? o?, t = lead ++ rest ∧ s.Introduces r lead c? ∧
      (h ⟨r, c?, name?⟩).Runs rest o? ∧ (.run st, reply) ∈ exchanges rest := by
  rcases hr.runs_cases hh ht with ⟨lead, rest, c?, o?, rfl, hlead, ho, -⟩ | ⟨_, -, hturned⟩
  · exact ⟨lead, rest, c?, o?, rfl, hlead, ho, (hlead.run_mem_append hst).mp hx⟩
  · obtain ⟨sessionId, userId, hlook⟩ := hturned.sends _ hx
    exact absurd (Command.run.inj hlook) (hst sessionId userId)

theorem Introduces.no_begin {lead rest : List Step} {c? : Option Caller}
    (h : s.Introduces r lead c?) (hrest : ∀ x ∈ exchanges rest, x.1 ≠ .begin) :
    ∀ x ∈ exchanges (lead ++ rest), x.1 ≠ .begin := by
  intro x hx
  rcases List.mem_append.mp (exchanges_append lead rest ▸ hx) with hx | hx
  · obtain ⟨_, _, hlook⟩ := h.sends x hx
    simp [hlook]
  · exact hrest x hx

def EndsSessions (id : Uuid) (xs : List Exchange) : Prop :=
  ∃ answer, (Session.revocation id, answer) ∈ effects xs

theorem sessions_end_with_change (he : e ∈ accountChanges) (hr : s.Reaches r e name?)
    (hb : (⟨r, none, none⟩ : Incoming).body User.Change.decode = .ok change)
    (hrevokes : change.revokesSessions = true) (ht : (s.handle r).Runs t v?)
    {assignments : List Sql.Assignment} {answer : Answer}
    (hmade : (.update User.table assignments id, answer) ∈ effects (exchanges t))
    (hrow : answer.rows ≠ []) :
    ∃ response, v? = some response ∧
      (EndsSessions id (exchanges t) ↔ (∃ user, firstRow User.ofRow answer = .ok (some user)) ∧
        ∀ f, (.run (Session.revocation id), .error f) ∉ exchanges t) ∧
      (response.status = 200 ↔ EndsSessions id (exchanges t)) := by
  rcases change_course he hr hb hrevokes ht with
    hlooks | ⟨lead, rest, c, id', o, rfl, hlead, hfollows, rfl⟩
  · -- Nothing but the session is looked at, so nothing was changed.
    have hplain : ∀ x ∈ exchanges t, x.1 ≠ .begin := by
      intro x hx
      obtain ⟨_, _, h⟩ := hlooks x hx
      simp [h]
    obtain ⟨_, _, h⟩ := hlooks _ ((mem_effects hplain).mp hmade)
    simp at h
  · have hplain := hlead.no_begin hfollows.no_begin
    have hends : EndsSessions id (exchanges (lead ++ rest)) ↔
        ∃ ended, (.run (Session.revocation id), .ok ended) ∈ exchanges rest := by
      refine exists_congr fun ended => ?_
      rw [mem_effects hplain, hlead.run_mem_append (by simp [Session.revocation])]
    have hrefused : ∀ f, (.run (Session.revocation id), .error f) ∉ exchanges (lead ++ rest) ↔
        (.run (Session.revocation id), .error f) ∉ exchanges rest :=
      fun f => not_congr (hlead.run_mem_append (by simp [Session.revocation]))
    have hmade : (.run (.update User.table assignments id), .ok answer) ∈ exchanges rest :=
      (hlead.run_mem_append (by simp)).mp ((mem_effects hplain).mp hmade)
    refine ⟨_, rfl, ?_⟩
    simp only [hends, hrefused, outer_status]
    exact hfollows.sessions_end hmade hrow

def changing : Http.Request :=
  carrying [] visitorClaims
    ⟨.put, "/v1/user", [("content-type", "application/json")],
      "\x7b\"password\":\"new password\"\x7d"⟩

def newPassword : User.Change :=
  ⟨none, none, none, some "new password", none, none, none, none, none⟩

theorem changing_body :
    (⟨changing, none, none⟩ : Incoming).body User.Change.decode = .ok newPassword :=
  Token.eq_ok_of_toOption (by decide +kernel)

theorem changing_reaches (s : Server) :
    s.Reaches changing (.fixed .put ["v1", "user"]) none := by
  have hs : (Http.Target.ofString changing.target).segments? =
      some ["v1".toList, "user".toList] := by decide +kernel
  have hf : findRoute (routes s.policy) ["v1".toList, "user".toList] =
      some (path ["v1", "user"] [(.post, Users.create), (.put, Users.updateSelf)], none) := by
    simp [findRoute, routes, path, named, Route.matchSegments]
  exact reaches_of_segments hs hf rfl

def account : User where
  id := .nil
  fullName := "Ann Example"
  userName := "ann"
  email := "ann@example.com"
  passwordHash := "$argon2id$v=19$m=8,t=1,p=1$c2FsdHNhbHRzYWx0$aGFzaGhhc2hoYXNo"
  userType := .user
  status := User.active
  profilePicture := none
  gender := none
  bio := none
  createdAt := ⟨0, 0⟩
  updatedAt := ⟨0, 0⟩

def accountRow : Row :=
  [("id", .uuid account.id), ("full_name", .text account.fullName),
    ("user_name", .text account.userName), ("email", .text account.email),
    ("password_hash", .text account.passwordHash), ("user_type", .text account.userType.name),
    ("status", .text account.status), ("profile_picture", .null), ("gender", .null),
    ("bio", .null), ("created_at", .timestamp account.createdAt),
    ("updated_at", .timestamp account.updatedAt)]

theorem accountRow_reads :
    firstRow User.ofRow ⟨[accountRow], 1⟩ = .ok (some account) := rfl

def changingCourse (salt : Password.Salt) (ended : Reply) : List Step :=
  [.drewSalt salt] ++
    [.asked (.run (newPassword.statement (some (Password.hash salt "new password")) .nil))
        (.ok ⟨[accountRow], 1⟩),
      .asked (.run (Session.revocation .nil)) ended]

def changingRun (salt : Password.Salt) (ended : Reply) : List Step :=
  visitorLead .user ++ changingCourse salt ended

theorem changingCourse_altering (salt : Password.Salt) (ended : Reply) :
    Altering .nil newPassword (changingCourse salt ended) (concluded account ended) :=
  .made ended (.some salt "new password") accountRow_reads

theorem changing_altered (lifetime : UInt64) {body : Http.Content} {change : User.Change}
    (hb : Incoming.body ⟨{ changing with body }, none, none⟩ User.Change.decode = .ok change)
    (ha : admitted (visitor .user) .nil change = .ok ()) (hr : change.revokesSessions = true)
    {rest : List Step} {o : Except Stop Http.Response} (h : Altering .nil change rest o) :
    ((⟨⟨[], lifetime⟩, .anyone, 30⟩ : Server).handle { changing with body }).Runs
      (visitorLead .user ++ rest)
      (some (outer ⟨⟨[], lifetime⟩, .anyone, 30⟩ { changing with body } (settle Stop.response o))) := by
  have hreaches : Reaches ⟨⟨[], lifetime⟩, .anyone, 30⟩ { changing with body }
      (.fixed .put ["v1", "user"]) none := changing_reaches _
  have hlead : Introduces ⟨⟨[], lifetime⟩, .anyone, 30⟩ { changing with body } (visitorLead .user)
      (some (visitor .user)) :=
    introduces_visitor ⟨⟨[], lifetime⟩, .anyone, 30⟩
      ⟨.put, "/v1/user", [("content-type", "application/json")], body⟩ .user
  have hself := updateSelf_eq (i := ⟨{ changing with body }, some (visitor .user), none⟩) rfl hb
  have hruns := (runs_applyChange hr).mpr (.inr ⟨ha, _, rfl, h⟩)
  exact hreaches.runs_of_caller (updateSelf_mem _) hlead (hself ▸ hruns)

theorem changing_runs (salt : Password.Salt) (ended : Reply) :
    ∃ response, ((⟨⟨[], 0⟩, .anyone, 30⟩ : Server).handle changing).Runs (changingRun salt ended)
      (some response) :=
  ⟨_, changing_altered 0 changing_body rfl rfl (changingCourse_altering salt ended)⟩

theorem changing_made (salt : Password.Salt) (ended : Reply) :
    (.update User.table (newPassword.assignments (some (Password.hash salt "new password"))) .nil,
      ⟨[accountRow], 1⟩) ∈ effects (exchanges (changingRun salt ended)) :=
  .tail _ (.head _)

theorem changing_ends_sessions :
    ∃ response, ((⟨⟨[], 0⟩, .anyone, 30⟩ : Server).handle changing).Runs
        (changingRun (Vector.replicate 16 0) (.ok ⟨[], 3⟩)) (some response) ∧
      response.status = 200 ∧
      EndsSessions .nil (exchanges (changingRun (Vector.replicate 16 0) (.ok ⟨[], 3⟩))) := by
  have he : Endpoint.fixed .put ["v1", "user"] ∈ accountChanges := List.mem_cons_self ..
  have hr := changing_reaches ⟨⟨[], 0⟩, .anyone, 30⟩
  obtain ⟨response, hruns⟩ := changing_runs (Vector.replicate 16 0) (.ok ⟨[], 3⟩)
  obtain ⟨_, hresponse, hends, hstatus⟩ := sessions_end_with_change he hr changing_body rfl hruns
    (changing_made _ _) (List.cons_ne_nil _ _)
  obtain rfl := Option.some.inj hresponse
  have hended := hends.mpr ⟨⟨account, accountRow_reads⟩, by
    simp [changingRun, changingCourse, visitorLead, Session.revocation]⟩
  exact ⟨response, hruns, hstatus.mpr hended, hended⟩

theorem changed_password_keeps_sessions :
    (∃ response, ((⟨⟨[], 0⟩, .anyone, 30⟩ : Server).handle changing).Runs
        (changingRun (Vector.replicate 16 0) (.error (.refused "40001"))) (some response)) ∧
      (.update User.table (newPassword.assignments
          (some (Password.hash (Vector.replicate 16 0) "new password"))) .nil,
        ⟨[accountRow], 1⟩) ∈ effects (exchanges
          (changingRun (Vector.replicate 16 0) (.error (.refused "40001")))) ∧
      ¬EndsSessions .nil (exchanges
        (changingRun (Vector.replicate 16 0) (.error (.refused "40001")))) := by
  refine ⟨changing_runs _ _, changing_made _ _, ?_⟩
  rintro ⟨answer, hended⟩
  rw [mem_effects (by simp [changingRun, changingCourse, visitorLead])] at hended
  simp [changingRun, changingCourse, visitorLead, Session.revocation, User.Change.statement]
    at hended

end Server

end Api

end CityGuide
