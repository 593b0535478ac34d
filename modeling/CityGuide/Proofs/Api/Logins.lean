import CityGuide.Proofs.Api.Authentication
import CityGuide.Proofs.Store.Entities

namespace CityGuide

open Store Store.Action

namespace Session

theorem runs_create {t : List Step} {userId : Uuid} {agent : Option String}
    {expiresAt : Time.Instant} {o? : Option (Except Failure Session)} :
    (create userId agent expiresAt).Runs t o? ↔ ∃ id made,
      t = [.drewId id, .asked (.run (.insert table
        (row id userId agent expiresAt) .returning)) made] ∧
      o? = some (made.bind fun answer => (firstRow ofRow answer).bind atLeastOne) := by
  have hone (id : Uuid) (u : List Step) :
      (Action.one (.insert table (row id userId agent expiresAt) .returning) ofRow).Runs u o? ↔
        ∃ made, u = [.asked (.run (.insert table (row id userId agent expiresAt) .returning))
          made] ∧ o? = some (made.bind fun answer => (firstRow ofRow answer).bind atLeastOne) := by
    rw [one_eq_ask, runs_ask]
  refine Program.runs_freshId.trans ⟨?_, ?_⟩
  · rintro ⟨id, u, rfl, hu⟩
    obtain ⟨made, rfl, rfl⟩ := (hone id u).mp hu
    exact ⟨id, made, rfl, rfl⟩
  · rintro ⟨id, made, rfl, rfl⟩
    exact ⟨id, _, rfl, (hone id _).mpr ⟨made, rfl, rfl⟩⟩

end Session

namespace Api

open Handling

namespace Auth

structure Entry where
  credentials : Credentials
  found : Reply
  user : User
  now : Time.Instant
  id : Uuid
  expiresAt : Time.Instant
  made : Reply

namespace Entry

def look (e : Entry) : Step :=
  .asked (.run (.findByEmail (Text.trim e.credentials.email))) e.found

def row (r : Http.Request) (e : Entry) : List Sql.Assignment :=
  Session.row e.id e.user.id (userAgent r) e.expiresAt

def insertion (r : Http.Request) (e : Entry) : Step :=
  .asked (.run (.insert Session.table (e.row r) .returning)) e.made

def steps (r : Http.Request) (e : Entry) : List Step :=
  [e.look, .readClock e.now, .drewId e.id, e.insertion r]

structure Allowed (r : Http.Request) (e : Entry) : Prop where
  read : (⟨r, none, none⟩ : Incoming).body Credentials.decode = .ok e.credentials
  found : e.found.bind (firstRow User.ofRow) = .ok (some e.user)
  accepted : e.user.acceptsPassword e.credentials.password = true

end Entry

variable {t : List Step} {policy : TokenPolicy} {i : Incoming}

def accepted (c : Credentials) : Option User → Except Stop User
  | some user =>
      if user.acceptsPassword c.password then .ok user else .error (.error .unauthorized)
  | none => .error (.error .unauthorized)

theorem accepted_eq_ok {c : Credentials} {found : Option User} {user : User} :
    accepted c found = .ok user ↔ found = some user ∧ user.acceptsPassword c.password = true := by
  cases found with
  | none => simp [accepted]
  | some u =>
    rw [accepted]
    split
    · rename_i h
      constructor
      · intro hu
        obtain rfl := Except.ok.inj hu
        exact ⟨rfl, h⟩
      · rintro ⟨hu, -⟩
        rw [Option.some.inj hu]
    · rename_i h
      simp only [reduceCtorEq, Option.some.injEq, false_iff, not_and]
      rintro rfl
      exact h

theorem authenticated_eq (c : Credentials) :
    authenticated c = ofStore (User.findByEmail (Text.trim c.email)) >>= fun found =>
      Action.ofExcept (accepted c found) := by
  rw [authenticated]
  congr 1
  funext found
  cases found with
  | none => rfl
  | some user => by_cases h : user.acceptsPassword c.password = true <;> simp [accepted, h] <;> rfl

theorem runs_authenticated {c : Credentials} {o? : Option (Except Stop User)}
    (ht : (authenticated c).Runs t o?) :
    ∃ reply, t = [.asked (.run (.findByEmail (Text.trim c.email))) reply] ∧
      ∀ user, o? = some (.ok user) → reply.bind (firstRow User.ofRow) = .ok (some user) ∧
        user.acceptsPassword c.password = true := by
  rw [authenticated_eq, runs_bind_ofExcept] at ht
  simp only [ofStore, runs_mapError, User.findByEmail, optional_eq_ask, runs_ask] at ht
  obtain ⟨_, ⟨_, ⟨reply, rfl, rfl⟩, rfl⟩, rfl⟩ := ht
  refine ⟨reply, rfl, fun user hok => ?_⟩
  cases hfound : reply.bind (firstRow User.ofRow) with
  | error f =>
    rw [hfound] at hok
    cases hok
  | ok found =>
    rw [hfound] at hok
    obtain ⟨rfl, haccepts⟩ := accepted_eq_ok.mp (Option.some.inj hok)
    exact ⟨rfl, haccepts⟩

theorem runs_now_bind {ε α : Type} {k : Time.Instant → Action ε α} {o? : Option (Except ε α)} :
    Runs (Action.now >>= k) t o? ↔ ∃ now u, t = .readClock now :: u ∧ (k now).Runs u o? :=
  Program.runs_clock

def openedAt (policy : TokenPolicy) (r : Http.Request) (user : User) (now : Time.Instant) :
    Handling Http.Response :=
  match Token.expiresAt policy.lifetime now with
  | none => Action.crash
  | some expiresAt => do
      let session ← ofStore (Session.create user.id (userAgent r) expiresAt)
      ok (Token.issue policy.secret user.id user.userType session.id now expiresAt).toJson

def issued (policy : TokenPolicy) (user : User) (now expiresAt : Time.Instant) (made : Reply) :
    Except Stop Http.Response :=
  ((made.bind fun answer => (firstRow Session.ofRow answer).bind atLeastOne).mapError fun f =>
    .error (.ofFailure f)).bind fun session =>
      .ok (.json 200
        (Token.issue policy.secret user.id user.userType session.id now expiresAt).toJson)

theorem runs_openedAt {r : Http.Request} {user : User} {now expiresAt : Time.Instant}
    (hexpires : Token.expiresAt policy.lifetime now = some expiresAt)
    {o? : Option (Except Stop Http.Response)} :
    (openedAt policy r user now).Runs t o? ↔ ∃ id made,
      t = [.drewId id, .asked (.run (.insert Session.table
        (Session.row id user.id (userAgent r) expiresAt) .returning)) made] ∧
      o? = some (issued policy user now expiresAt made) := by
  rw [openedAt, hexpires]
  change Runs (ofStore (Session.create user.id (userAgent r) expiresAt) >>= fun session =>
    Action.ofExcept (.ok (.json 200
      (Token.issue policy.secret user.id user.userType session.id now expiresAt).toJson))) t o? ↔ _
  rw [runs_bind_ofExcept]
  simp only [ofStore, runs_mapError, Session.runs_create]
  constructor
  · rintro ⟨_, ⟨_, ⟨id, made, rfl, rfl⟩, rfl⟩, rfl⟩
    exact ⟨id, made, rfl, rfl⟩
  · rintro ⟨id, made, rfl, rfl⟩
    exact ⟨_, ⟨_, ⟨id, made, rfl, rfl⟩, rfl⟩, rfl⟩

theorem openedAt_course {r : Http.Request} {user : User} {now : Time.Instant}
    {o? : Option (Except Stop Http.Response)} (ht : (openedAt policy r user now).Runs t o?) :
    t = [] ∧ o? = none ∨ ∃ id expiresAt made, t = [.drewId id, .asked (.run (.insert Session.table
      (Session.row id user.id (userAgent r) expiresAt) .returning)) made] ∧
      Token.expiresAt policy.lifetime now = some expiresAt ∧
      o? = some (issued policy user now expiresAt made) := by
  cases hexpires : Token.expiresAt policy.lifetime now with
  | none =>
    rw [openedAt, hexpires] at ht
    obtain ⟨_, hv, rfl⟩ := runs_lift.mp ht
    obtain ⟨rfl, rfl⟩ := Program.runs_crash.mp hv
    exact .inl ⟨rfl, rfl⟩
  | some expiresAt =>
    obtain ⟨id, made, rfl, ho⟩ := (runs_openedAt hexpires).mp ht
    exact .inr ⟨id, expiresAt, made, rfl, rfl, ho⟩

theorem login_eq (policy : TokenPolicy) (i : Incoming) : login policy i = (do
    let credentials ← read (i.body Credentials.decode)
    let user ← authenticated credentials
    if user.isActive then Action.now >>= openedAt policy i.request user
    else refuse (.forbidden "account is blocked")) := rfl

theorem login_course {o? : Option (Except Stop Http.Response)} (ht : (login policy i).Runs t o?) :
    (∀ x ∈ exchanges t, ∃ email, x.1 = .run (.findByEmail email)) ∧
        (∀ response, o? ≠ some (.ok response)) ∨
      ∃ e : Entry, e.Allowed i.request ∧ t = e.steps i.request ∧
        Token.expiresAt policy.lifetime e.now = some e.expiresAt ∧
        o? = some (issued policy e.user e.now e.expiresAt e.made) := by
  rw [login_eq] at ht
  cases hbody : i.body Credentials.decode with
  | error stop =>
    rw [hbody] at ht
    obtain ⟨rfl, rfl⟩ := runs_ofExcept.mp ht
    exact .inl ⟨by simp, by simp⟩
  | ok credentials =>
    rw [hbody, read, ofExcept_ok_bind] at ht
    rcases runs_bind.mp ht with ⟨u, w, user, rfl, hu, hw⟩ | ⟨e, he, rfl⟩ | ⟨hn, rfl⟩
    · obtain ⟨found, rfl, hfound⟩ := runs_authenticated hu
      obtain ⟨hread, haccepted⟩ := hfound user rfl
      by_cases hactive : user.isActive = true
      · rw [if_pos hactive] at hw
        obtain ⟨now, v, rfl, hopened⟩ := runs_now_bind.mp hw
        rcases openedAt_course hopened with ⟨rfl, rfl⟩ | ⟨id, expiresAt, made, rfl, hexpires, ho⟩
        · exact .inl ⟨by simp, by simp⟩
        · exact .inr ⟨⟨credentials, found, user, now, id, expiresAt, made⟩,
            ⟨hbody, hread, haccepted⟩, rfl, hexpires, ho⟩
      · rw [if_neg hactive] at hw
        obtain ⟨rfl, rfl⟩ := runs_ofExcept.mp hw
        exact .inl ⟨by simp, by simp⟩
    · obtain ⟨found, rfl, -⟩ := runs_authenticated he
      exact .inl ⟨by simp, by simp⟩
    · obtain ⟨found, rfl, -⟩ := runs_authenticated hn
      exact .inl ⟨by simp, by simp⟩

theorem login_runs {e : Entry} (h : e.Allowed i.request) (hactive : e.user.isActive = true)
    (hexpires : Token.expiresAt policy.lifetime e.now = some e.expiresAt) :
    (login policy i).Runs (e.steps i.request)
      (some (issued policy e.user e.now e.expiresAt e.made)) := by
  have hread : i.body Credentials.decode = .ok e.credentials := h.read
  have hauthenticated : (authenticated e.credentials).Runs [e.look] (some (.ok e.user)) := by
    rw [authenticated_eq, runs_bind_ofExcept]
    simp only [ofStore, runs_mapError, User.findByEmail, optional_eq_ask, runs_ask]
    refine ⟨_, ⟨_, ⟨e.found, rfl, rfl⟩, rfl⟩, ?_⟩
    rw [h.found]
    exact congrArg some (accepted_eq_ok.mpr ⟨rfl, h.accepted⟩).symm
  rw [login_eq, hread, read, ofExcept_ok_bind]
  refine runs_bind.mpr (.inl ⟨[e.look], _, e.user, rfl, hauthenticated, ?_⟩)
  rw [if_pos hactive]
  exact runs_now_bind.mpr ⟨e.now, _, rfl, (runs_openedAt hexpires).mpr ⟨e.id, e.made, rfl, rfl⟩⟩

end Auth

namespace Server

open Auth

theorem login_mem (policy : TokenPolicy) :
    (Endpoint.fixed .post ["v1", "auth", "login"], login policy) ∈ endpoints policy := by
  simp [endpoints, Route.endpoints, routes, path, named, Endpoint.fixed]

theorem login_course {s : Server} {r : Http.Request} {name? : Option (List Char)} {t : List Step}
    {v? : Option Http.Response} (hr : s.Reaches r (.fixed .post ["v1", "auth", "login"]) name?)
    (ht : (s.handle r).Runs t v?) :
    (∀ x ∈ exchanges t, ∃ st, x.1 = .run st ∧ st.isWrite = false) ∨
      ∃ (e : Entry) (lead : List Step) (c? : Option Caller), e.Allowed r ∧
        t = lead ++ e.steps r ∧ s.Introduces r lead c? := by
  have looks : ∀ x : Exchange, (∃ sessionId userId, x.1 = .run (.activeSession sessionId userId)) →
      ∃ st, x.1 = .run st ∧ st.isWrite = false := by
    rintro x ⟨_, _, hx⟩
    exact ⟨_, hx, rfl⟩
  rcases hr.runs_cases (login_mem _) ht with ⟨lead, rest, c?, o?, rfl, hlead, ho, -⟩ | ⟨_, -, hturned⟩
  · rcases Auth.login_course ho with ⟨hfinds, -⟩ | ⟨e, he, rfl, -⟩
    · refine .inl fun x hx => ?_
      rcases List.mem_append.mp (exchanges_append lead rest ▸ hx) with hx | hx
      · exact looks x (hlead.sends x hx)
      · obtain ⟨email, hfind⟩ := hfinds x hx
        exact ⟨_, hfind, rfl⟩
    · exact .inr ⟨e, lead, c?, he, rfl, hlead⟩
  · exact .inl fun x hx => looks x (hturned.sends x hx)

end Server

end Api

end CityGuide
