import CityGuide.Proofs.Api.Failures
import CityGuide.Proofs.Api.PasswordChange

namespace CityGuide.Api

open Http (Request Response)
open Store Store.Action Handling

variable {t : List Step}

namespace Auth

variable {policy : TokenPolicy} {c : Credentials}

def Rejected (c : Credentials) (found : Option User) : Prop :=
  ∀ user, found = some user → user.acceptsPassword c.password = false

theorem accepted_eq_error {found : Option User} {stop : Stop} :
    accepted c found = .error stop ↔ Rejected c found ∧ stop = .error .unauthorized := by
  cases found with
  | none =>
    rw [accepted, Except.error.injEq]
    exact ⟨fun h => ⟨by simp [Rejected], h.symm⟩, fun h => h.2.symm⟩
  | some user =>
    cases hpassword : user.acceptsPassword c.password with
    | true => simp [accepted, Rejected, hpassword]
    | false =>
      rw [accepted, hpassword, if_neg Bool.false_ne_true, Except.error.injEq]
      exact ⟨fun h => ⟨by simp [Rejected, hpassword], h.symm⟩, fun h => h.2.symm⟩

def look (c : Credentials) (reply : Reply) : Step :=
  .asked (.run (.findByEmail (Text.trim c.email))) reply

theorem runs_authenticated_iff {o? : Option (Except Stop User)} :
    (authenticated c).Runs t o? ↔ ∃ reply, t = [look c reply] ∧
      o? = some (((reply.bind (firstRow User.ofRow)).mapError fun f => .error (.ofFailure f)).bind
        (accepted c)) := by
  rw [authenticated_eq, runs_bind_ofExcept]
  simp only [ofStore, runs_mapError, User.findByEmail, optional_eq_ask, runs_ask]
  constructor
  · rintro ⟨_, ⟨_, ⟨reply, rfl, rfl⟩, rfl⟩, rfl⟩
    exact ⟨reply, rfl, rfl⟩
  · rintro ⟨reply, rfl, rfl⟩
    exact ⟨_, ⟨_, ⟨reply, rfl, rfl⟩, rfl⟩, rfl⟩

theorem runs_authenticated_of_found {reply : Reply} {found : Option User}
    {verdict : Except Stop User} (hfound : reply.bind (firstRow User.ofRow) = .ok found)
    (hverdict : accepted c found = verdict) :
    (authenticated c).Runs [look c reply] (some verdict) := by
  refine runs_authenticated_iff.mpr ⟨reply, rfl, ?_⟩
  rw [hfound, ← hverdict]
  rfl

inductive Continues (policy : TokenPolicy) (r : Request) (c : Credentials) :
    Except Failure (Option User) → List Step → Option (Except Stop Response) → Prop
  | failed (f : Failure) :
      Continues policy r c (.error f) [] (some (.error (.error (.ofFailure f))))
  | rejected {found : Option User} (h : Rejected c found) :
      Continues policy r c (.ok found) [] (some (.error (.error .unauthorized)))
  | blocked {user : User} (haccepted : user.acceptsPassword c.password = true)
      (hblocked : ¬user.isActive = true) :
      Continues policy r c (.ok (some user)) []
        (some (.error (.error (.forbidden "account is blocked"))))
  | opened {user : User} {now : Time.Instant} {rest : List Step}
      {o? : Option (Except Stop Response)} (haccepted : user.acceptsPassword c.password = true)
      (hactive : user.isActive = true) (ho : (openedAt policy r user now).Runs rest o?) :
      Continues policy r c (.ok (some user)) (.readClock now :: rest) o?

theorem continues_of_runs {i : Incoming} (hread : i.body Credentials.decode = .ok c)
    {o? : Option (Except Stop Response)} (h : (login policy i).Runs t o?) :
    ∃ reply rest, t = look c reply :: rest ∧
      Continues policy i.request c (reply.bind (firstRow User.ofRow)) rest o? := by
  rw [login_eq, hread, read, ofExcept_ok_bind, runs_bind] at h
  simp only [runs_authenticated_iff] at h
  rcases h with ⟨_, w, user, rfl, ⟨reply, rfl, hu⟩, hw⟩ | ⟨stop, ⟨reply, rfl, he⟩, rfl⟩ |
    ⟨⟨_, -, hn⟩, -⟩
  · refine ⟨reply, w, rfl, ?_⟩
    cases hfound : reply.bind (firstRow User.ofRow) with
    | error f =>
      rw [hfound] at hu
      cases hu
    | ok found =>
      rw [hfound] at hu
      obtain ⟨rfl, haccepted⟩ := accepted_eq_ok.mp (Option.some.inj hu).symm
      by_cases hactive : user.isActive = true
      · rw [if_pos hactive] at hw
        obtain ⟨now, rest, rfl, ho⟩ := runs_now_bind.mp hw
        exact .opened haccepted hactive ho
      · rw [if_neg hactive] at hw
        obtain ⟨rfl, rfl⟩ := runs_ofExcept.mp hw
        exact .blocked haccepted hactive
  · refine ⟨reply, [], rfl, ?_⟩
    cases hfound : reply.bind (firstRow User.ofRow) with
    | error f =>
      rw [hfound] at he
      obtain rfl := Except.error.inj (Option.some.inj he)
      exact .failed f
    | ok found =>
      rw [hfound] at he
      obtain ⟨hrejected, rfl⟩ := accepted_eq_error.mp (Option.some.inj he).symm
      exact .rejected hrejected
  · simp at hn

theorem runs_login {i : Incoming} (hread : i.body Credentials.decode = .ok c)
    {o? : Option (Except Stop Response)} :
    (login policy i).Runs t o? ↔ ∃ reply rest, t = look c reply :: rest ∧
      Continues policy i.request c (reply.bind (firstRow User.ofRow)) rest o? := by
  refine ⟨continues_of_runs hread, ?_⟩
  rintro ⟨reply, rest, rfl, h⟩
  rw [login_eq, hread, read, ofExcept_ok_bind, runs_bind]
  generalize hfound : reply.bind (firstRow User.ofRow) = found at h
  cases h with
  | failed f =>
    refine .inr (.inl ⟨_, runs_authenticated_iff.mpr ⟨reply, rfl, ?_⟩, rfl⟩)
    rw [hfound]
    rfl
  | rejected hrejected =>
    have hverdict := accepted_eq_error.mpr ⟨hrejected, rfl⟩
    exact .inr (.inl ⟨_, runs_authenticated_of_found hfound hverdict, rfl⟩)
  | @blocked user haccepted hblocked =>
    have hverdict := accepted_eq_ok.mpr ⟨rfl, haccepted⟩
    refine .inl ⟨_, [], user, rfl, runs_authenticated_of_found hfound hverdict, ?_⟩
    rw [if_neg hblocked]
    exact runs_ofExcept.mpr ⟨rfl, rfl⟩
  | @opened user now rest _ haccepted hactive ho =>
    have hverdict := accepted_eq_ok.mpr ⟨rfl, haccepted⟩
    refine .inl ⟨_, _, user, rfl, runs_authenticated_of_found hfound hverdict, ?_⟩
    rw [if_pos hactive]
    exact runs_now_bind.mpr ⟨now, rest, rfl, ho⟩

structure Attempt where
  credentials : Credentials
  reply : Reply
  found : Option User
  lead : List Step
  rest : List Step
  response? : Option Response

namespace Attempt

def steps (a : Attempt) : List Step := a.lead ++ look a.credentials a.reply :: a.rest

structure Made (s : Server) (r : Request) (a : Attempt) : Prop where
  reaches : ∃ name?, s.Reaches r (.fixed .post ["v1", "auth", "login"]) name?
  read : (⟨r, none, none⟩ : Incoming).body Credentials.decode = .ok a.credentials
  found : a.reply.bind (firstRow User.ofRow) = .ok a.found
  runs : (s.handle r).Runs a.steps a.response?
  lasts : ∀ now, .readClock now ∈ a.rest →
    (Token.expiresAt s.policy.lifetime now).isSome = true

def Rejected (a : Attempt) : Prop := Auth.Rejected a.credentials a.found

def Verified (a : Attempt) (user : User) : Prop :=
  a.found = some user ∧ user.acceptsPassword a.credentials.password = true

structure Judged (s : Server) (r : Request) (a : Attempt) : Prop where
  rejected : a.Rejected → a.rest = [] ∧ ∃ response, a.response? = some response ∧
    response.status = 401 ∧ response.body = .json (.record [("error", .text "unauthorized")])
  inserts : (∃ row ending reply, .asked (.run (.insert Session.table row ending)) reply ∈ a.steps) ↔
    ∃ user, a.Verified user ∧ user.status = "active"
  opened : ∀ user, a.Verified user → user.status = "active" → ∃ now expiresAt id made,
    Token.expiresAt s.policy.lifetime now = some expiresAt ∧
      a.rest = [.readClock now, .drewId id, .asked (.run (.insert Session.table
        (Session.row id user.id (userAgent r) expiresAt) .returning)) made]
  blocked : ∀ user, a.Verified user → user.status ≠ "active" → a.rest = [] ∧
    ∃ response, a.response? = some response ∧ response.status = 403

end Attempt

end Auth

namespace Server

open Auth

variable {s : Server} {r : Request} {a b : Attempt}

theorem look_not_mem {c : Credentials} {reply : Reply} {u : List Step}
    (h : ∀ x ∈ exchanges u, ∃ sessionId userId, x.1 = .run (.activeSession sessionId userId)) :
    look c reply ∉ u := by
  intro hmem
  obtain ⟨_, _, hlook⟩ := h _ (mem_exchanges.mpr hmem)
  cases hlook

theorem look_not_mem_rest {c c' : Credentials} {reply : Reply}
    {found : Except Failure (Option User)} {rest : List Step} {o? : Option (Except Stop Response)}
    (h : Continues s.policy r c found rest o?) : look c' reply ∉ rest := by
  cases h with
  | failed | rejected | blocked => exact List.not_mem_nil
  | opened _ _ ho =>
    rcases openedAt_course ho with ⟨rfl, -⟩ | ⟨_, _, _, rfl, -⟩ <;> simp [look]

theorem continues_of_made (h : a.Made s r) : ∃ c? o?, s.Introduces r a.lead c? ∧
    Continues s.policy r a.credentials (.ok a.found) a.rest o? ∧
    a.response? = o?.map fun o => s.outer r (settle Stop.response o) := by
  obtain ⟨name?, hreaches⟩ := h.reaches
  rcases hreaches.runs_cases (login_mem _) h.runs with
    ⟨lead, rest, c?, o?, hsteps, hlead, ho, hv⟩ | ⟨_, -, hturned⟩
  · have hread : (⟨r, c?, name?⟩ : Incoming).body Credentials.decode = .ok a.credentials := h.read
    obtain ⟨reply, rest, rfl, hrest⟩ := continues_of_runs hread ho
    have hparts := (List.append_cons_inj_of_notMem (look_not_mem hlead.sends)
      (look_not_mem_rest hrest)).mp hsteps.symm
    obtain ⟨rfl, hlook, rfl⟩ := hparts
    obtain ⟨-, rfl⟩ := Step.asked.inj hlook
    exact ⟨c?, o?, hlead, h.found ▸ hrest, hv⟩
  · have hlook : look a.credentials a.reply ∈ a.steps := by simp [Attempt.steps]
    exact absurd hlook (look_not_mem hturned.sends)

def turnedAway (s : Server) (r : Request) : Response :=
  s.outer r (Stop.response (.error .unauthorized))

theorem response_of_rejected (h : a.Made s r) (hrejected : a.Rejected) :
    a.rest = [] ∧ a.response? = some (s.turnedAway r) := by
  obtain ⟨c?, o?, -, hcontinues, hv⟩ := continues_of_made h
  have hnot : ∀ user, a.found = some user →
      ¬user.acceptsPassword a.credentials.password = true :=
    fun user hfound => by simp [hrejected user hfound]
  generalize hrest : a.rest = rest at hcontinues
  generalize hfound : Except.ok a.found = found at hcontinues
  cases hcontinues with
  | failed => simp at hfound
  | rejected => exact ⟨rfl, hv⟩
  | blocked haccepted | opened haccepted =>
    exact absurd haccepted (hnot _ (Except.ok.inj hfound))

theorem shown_of_login {name? : Option (List Char)}
    (hr : s.Reaches r (.fixed .post ["v1", "auth", "login"]) name?) (b : Http.Body) :
    shown r b = b := by
  have hmethod : Http.Method.post = served r.method := hr.method_eq
  refine if_neg fun hhead => ?_
  simp [hhead, served] at hmethod

theorem isActive_iff {user : User} : user.isActive = true ↔ user.status = "active" :=
  decide_eq_true_iff

theorem response_of_blocked (h : a.Made s r) {user : User} (hverified : a.Verified user)
    (hstatus : user.status ≠ "active") :
    a.rest = [] ∧ ∃ response, a.response? = some response ∧ response.status = 403 := by
  obtain ⟨c?, o?, -, hcontinues, hv⟩ := continues_of_made h
  obtain ⟨hfound, haccepted⟩ := hverified
  rw [hfound] at hcontinues
  generalize hrest : a.rest = rest at hcontinues
  cases hcontinues with
  | rejected hrejected => simp [hrejected user rfl] at haccepted
  | blocked => exact ⟨rfl, _, hv, outer_status _⟩
  | opened _ hactive => exact absurd (isActive_iff.mp hactive) hstatus

theorem rest_of_opened (h : a.Made s r) {user : User} (hverified : a.Verified user)
    (hstatus : user.status = "active") : ∃ now expiresAt id made,
      Token.expiresAt s.policy.lifetime now = some expiresAt ∧
        a.rest = [.readClock now, .drewId id, .asked (.run (.insert Session.table
          (Session.row id user.id (userAgent r) expiresAt) .returning)) made] := by
  obtain ⟨c?, o?, -, hcontinues, -⟩ := continues_of_made h
  obtain ⟨hfound, haccepted⟩ := hverified
  have hlasts := h.lasts
  rw [hfound] at hcontinues
  generalize a.rest = rest at hcontinues hlasts
  cases hcontinues with
  | rejected hrejected => simp [hrejected user rfl] at haccepted
  | blocked _ hblocked => exact absurd (isActive_iff.mpr hstatus) hblocked
  | @opened _ now _ _ _ _ ho =>
    obtain ⟨expiresAt, hexpires⟩ := Option.isSome_iff_exists.mp (hlasts _ (List.mem_cons_self ..))
    obtain ⟨id, made, rfl, -⟩ := (runs_openedAt hexpires).mp ho
    exact ⟨now, expiresAt, id, made, hexpires, rfl⟩

theorem inserts_iff (h : a.Made s r) :
    (∃ row ending reply, .asked (.run (.insert Session.table row ending)) reply ∈ a.steps) ↔
      ∃ user, a.Verified user ∧ user.status = "active" := by
  constructor
  · rintro ⟨row, ending, reply, hmem⟩
    obtain ⟨c?, o?, hlead, hcontinues, -⟩ := continues_of_made h
    have hrest : .asked (.run (.insert Session.table row ending)) reply ∈ a.rest := by
      rcases List.mem_append.mp hmem with hmem | hmem
      · obtain ⟨_, _, hsession⟩ := hlead.sends _ (mem_exchanges.mpr hmem)
        cases hsession
      · exact (List.mem_cons.mp hmem).resolve_left (by simp [look])
    generalize a.rest = rest at hcontinues hrest
    generalize hfound : Except.ok a.found = found at hcontinues
    cases hcontinues with
    | failed | rejected | blocked => simp at hrest
    | opened haccepted hactive =>
      exact ⟨_, ⟨Except.ok.inj hfound, haccepted⟩, isActive_iff.mp hactive⟩
  · rintro ⟨user, hverified, hstatus⟩
    obtain ⟨now, expiresAt, id, made, -, hrest⟩ := rest_of_opened h hverified hstatus
    refine ⟨Session.row id user.id (userAgent r) expiresAt, .returning, made, ?_⟩
    rw [Attempt.steps, hrest]
    simp

theorem judged_of_made (h : a.Made s r) : a.Judged s r where
  rejected hrejected := by
    obtain ⟨name?, hreaches⟩ := h.reaches
    obtain ⟨hrest, hresponse⟩ := response_of_rejected h hrejected
    refine ⟨hrest, _, hresponse, outer_status _, ?_⟩
    rw [turnedAway, outer_body, shown_of_login hreaches]
    rfl
  inserts := inserts_iff h
  opened _ := rest_of_opened h
  blocked _ := response_of_blocked h

theorem logins_alike (h : a.Made s r) : a.Judged s r ∧
    ∀ (body : Http.Content) (b : Attempt), b.Made s { r with body } → a.Rejected → b.Rejected →
      a.response? = b.response? := by
  refine ⟨judged_of_made h, fun body b hb ha hb' => ?_⟩
  rw [(response_of_rejected h ha).2, (response_of_rejected hb hb').2]
  rfl

def rejecting (r : Request) (c : Credentials) (reply : Reply) (found : Option User) : Attempt where
  credentials := c
  reply := reply
  found := found
  lead := []
  rest := []
  response? := some (cityServer.turnedAway r)

theorem rejecting_made {c : Credentials} {reply : Reply} {found : Option User}
    (hr : cityServer.Reaches r (.fixed .post ["v1", "auth", "login"]) none) (hb : bearer? r = none)
    (hread : (⟨r, none, none⟩ : Incoming).body Credentials.decode = .ok c)
    (hfound : reply.bind (firstRow User.ofRow) = .ok found) (hrejected : Auth.Rejected c found) :
    (rejecting r c reply found).Made cityServer r where
  reaches := ⟨none, hr⟩
  read := hread
  found := hfound
  runs := by
    have hcontinues : Continues cityServer.policy r c (reply.bind (firstRow User.ofRow)) []
        (some (.error (.error .unauthorized))) := hfound ▸ .rejected hrejected
    exact hr.runs_of_nobody (login_mem _) hb ((runs_login hread).mpr ⟨reply, [], rfl, hcontinues⟩)
  lasts _ hmem := absurd hmem List.not_mem_nil

def blockedUser : User := { hashed "" with status := "blocked" }

def blockedRow : Row :=
  (hashedRow "").map fun (column, cell) =>
    (column, if column = "status" then .text "blocked" else cell)

def strangeBody : String := "\x7b\"email\":\"bob@example.com\",\"password\":\"guess\"\x7d"

theorem blocked_rejected : (rejecting signingIn ⟨"ann@example.com", "old password"⟩
    (.ok ⟨[blockedRow], 1⟩) (some blockedUser)).Made cityServer signingIn := by
  refine rejecting_made (signingIn_reaches cityServer) rfl
    (Token.eq_ok_of_toOption (by decide +kernel)) rfl ?_
  rintro _ ⟨⟩
  rfl

theorem stranger_rejected : (rejecting { signingIn with body := strangeBody }
    ⟨"bob@example.com", "guess"⟩ (.ok ⟨[], 0⟩) none).Made cityServer
      { signingIn with body := strangeBody } := by
  refine rejecting_made (signingIn_reaches cityServer) rfl
    (Token.eq_ok_of_toOption (by decide +kernel)) rfl ?_
  rintro _ ⟨⟩

theorem blocked_and_unknown_alike : ∃ a b : Attempt, a.Made cityServer signingIn ∧
    b.Made cityServer { signingIn with body := strangeBody } ∧ a.Rejected ∧ b.Rejected ∧
    a.found = some blockedUser ∧ b.found = none ∧ a.Judged cityServer signingIn ∧
    a.response? = b.response? := by
  obtain ⟨hjudged, halike⟩ := logins_alike blocked_rejected
  have hblocked : Auth.Rejected ⟨"ann@example.com", "old password"⟩ (some blockedUser) := by
    rintro _ ⟨⟩
    rfl
  have hunknown : Auth.Rejected ⟨"bob@example.com", "guess"⟩ none := by
    rintro _ ⟨⟩
  exact ⟨_, _, blocked_rejected, stranger_rejected, hblocked, hunknown, rfl, rfl, hjudged,
    halike _ _ stranger_rejected hblocked hunknown⟩

end Server

end CityGuide.Api
