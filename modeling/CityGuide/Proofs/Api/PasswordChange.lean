import CityGuide.Proofs.Account.FreshHash
import CityGuide.Proofs.Api.Escalation
import CityGuide.Proofs.Api.Logins
import CityGuide.Proofs.Api.Revocation
import CityGuide.Proofs.Store.Origins
import CityGuide.Proofs.Store.SessionRows

namespace CityGuide

open Store Store.Action

theorem User.Change.sets_password {change : Change} {passwordHash : String} :
    ("password_hash", .text passwordHash) ∈ change.assignments (some passwordHash) := by
  rw [assignments, Sql.mem_present]
  simp

theorem User.password_cell {row : Row} {u : User} (h : User.ofRow row = some u) :
    row.Named u.id ∧ row.cell? "password_hash" = some (.text u.passwordHash) := by
  simp only [User.ofRow, Option.bind_eq_bind, Option.bind_eq_some_iff, Option.some.injEq] at h
  obtain ⟨_, hid, _, -, _, -, _, -, _, hhash, _, -, _, -, _, -, _, -, _, -, _, -, _, -, rfl⟩ := h
  exact ⟨Row.get_uuid.mp hid, Row.get_text.mp hhash⟩

namespace Api

open Handling

theorem existed_error {α : Type} {v : Except Failure (Option α)} {stop : Stop}
    (h : existed v = .error stop) : ∃ e, stop = .error e := by
  rcases v with f | _ | a
  · exact ⟨_, (Except.error.inj h).symm⟩
  · exact ⟨_, (Except.error.inj h).symm⟩
  · cases h

theorem Users.admitted_error {c : Caller} {id : Uuid} {change : User.Change} {stop : Stop}
    (h : admitted c id change = .error stop) : ∃ e, stop = .error e := by
  have valid : ∀ v : Valid, (v.mapError fun i => Stop.error (.badRequest i.message)) =
      .error stop → ∃ e, stop = .error e := by
    rintro (i | _) hv
    · exact ⟨_, (Except.error.inj hv).symm⟩
    · cases hv
  cases ho : c.requireOwner id with
  | error e =>
    rw [admitted, ho] at h
    exact ⟨e, (Except.error.inj h).symm⟩
  | ok =>
    cases hp : change.changesPrivileges with
    | false =>
      simp only [admitted, ho, hp] at h
      exact valid _ h
    | true =>
      cases ha : c.require .administerUsers with
      | error e =>
        simp only [admitted, ho, hp, ha] at h
        exact ⟨e, (Except.error.inj h).symm⟩
      | ok =>
        simp only [admitted, ho, hp, ha] at h
        exact valid _ h

namespace Server

open Users

variable {s : Server} {r : Http.Request} {t : List Step} {c : Caller} {change : User.Change}
  {password : String} {response : Http.Response} {name? : Option (List Char)}

theorem password_course (hr : s.Reaches r (.fixed .put ["v1", "user"]) name?)
    (hb : (⟨r, none, none⟩ : Incoming).body User.Change.decode = .ok change)
    (hp : change.password = some password) (ht : (s.handle r).Runs t (some response))
    (hc : caller? t = some c) (hok : response.status = 200) :
    ∃ lead salt reply ended, s.Introduces r lead (some c) ∧
      t = lead ++ [.drewSalt salt,
        .asked (.run (change.statement (some (Password.hash salt password)) c.userId)) reply,
        .asked (.run (Session.revocation c.userId)) ended] := by
  have hclosed : Endpoint.fixed .put ["v1", "user"] ∉ openEndpoints := by
    simp [openEndpoints, Endpoint.fixed, Endpoint.named]
  have hrevokes : change.revokesSessions = true := by simp [User.Change.revokesSessions, hp]
  obtain ⟨lead, rest, o?, rfl, hlead, ho, hv⟩ := hr.run_of_caller (updateSelf_mem _) hclosed ht hc
  rw [updateSelf_eq (i := ⟨r, some c, name?⟩) rfl hb] at ho
  rcases (runs_applyChange hrevokes).mp ho with ⟨stop, hstop, -, rfl⟩ | ⟨-, o, rfl, ha⟩
  · obtain rfl := Option.some.inj hv
    obtain ⟨e, rfl⟩ := admitted_error hstop
    exact absurd ((outer_status _).symm.trans hok) (settle_error_status e)
  · obtain rfl := Option.some.inj hv
    cases ha with
    | unmade _ hread =>
      obtain ⟨e, rfl⟩ := existed_error hread
      exact absurd ((outer_status _).symm.trans hok) (settle_error_status e)
    | made ended hu hread =>
      rw [hp] at hu
      cases hu with
      | some salt => exact ⟨lead, salt, _, ended, hlead, rfl⟩

end Server

def Auth.Entry.Over (r : Http.Request) (t : List Step) (e : Auth.Entry) : Prop :=
  e.Allowed r ∧ e.steps r <:+ t

namespace Auth.Entry.Over

variable {r : Http.Request} {t : List Step} {e e' : Entry}

theorem mem (h : e.Over r t) : e.look ∈ t ∧ .drewId e.id ∈ t ∧ e.insertion r ∈ t := by
  have hsub := h.2.subset
  exact ⟨hsub (by simp [steps]), hsub (by simp [steps]), hsub (by simp [steps])⟩

theorem insertion_unique (h : e.Over r t) (h' : e'.Over r t) : e.insertion r = e'.insertion r := by
  obtain ⟨lead, hlead⟩ := h.2
  obtain ⟨lead', hlead'⟩ := h'.2
  have hsteps := (List.append_inj' (hlead.trans hlead'.symm) rfl).2
  simpa [steps] using congrArg List.getLast? hsteps

end Auth.Entry.Over

/-- Logins and one good change of the password of an account, all of them over and every statement
of them answered. -/
structure Rotation {κ : Type} [DecidableEq κ] (s : Server) (requests : κ → Http.Request)
    (changer : κ) (c : Caller) (password : String) (w₀ : World κ) (past : List (κ × Step))
    (w : World κ) : Prop where
  quiet : w₀.Quiet
  unfolds : w₀.Unfolds past w
  answered : ∀ k command reply, (k, .asked command reply) ∈ past → ∃ a, reply = .ok a
  finished : ∀ k, ∃ response, (s.handle (requests k)).Runs (own k past) (some response) ∧
    (k = changer → response.status = 200)
  logins : ∀ k ≠ changer, ∃ name?,
    s.Reaches (requests k) (.fixed .post ["v1", "auth", "login"]) name?
  reaches : ∃ name?, s.Reaches (requests changer) (.fixed .put ["v1", "user"]) name?
  body : ∃ change, (⟨requests changer, none, none⟩ : Incoming).body User.Change.decode =
    .ok change ∧ change.password = some password
  caller : Server.caller? (own changer past) = some c

inductive Rehashed {κ : Type} (changer : κ) (account : Uuid) (passwordHash : String)
    (before between after past : List (κ × Step)) : Prop
  | intro {changes : List Sql.Assignment} {updated removed : Answer}
      (hset : ("password_hash", .text passwordHash) ∈ changes)
      (hpast : past = before ++
        (changer, .asked (.run (.update User.table changes account)) (.ok updated)) ::
          (between ++ (changer, .asked (.run (Session.revocation account)) (.ok removed)) :: after))

section

variable {κ : Type} {changer : κ} {account : Uuid} {passwordHash : String}
  {before between after past : List (κ × Step)}

theorem Rehashed.subset
    (h : Rehashed changer account passwordHash before between after past) :
    before ⊆ past ∧ between ⊆ past ∧ after ⊆ past := by
  obtain ⟨-, rfl⟩ := h
  exact ⟨by simp, fun x hx => by simp [hx], fun x hx => by simp [hx]⟩

theorem Rehashed.mem_parts {k : κ} {st : Sql.Statement} {reply : Reply}
    (h : Rehashed changer account passwordHash before between after past)
    (hx : (k, .asked (.run st) reply) ∈ past)
    (hupdate : ∀ changes, st ≠ .update User.table changes account)
    (hrevoke : st ≠ Session.revocation account) :
    (k, .asked (.run st) reply) ∈ before ∨ (k, .asked (.run st) reply) ∈ between ∨
      (k, .asked (.run st) reply) ∈ after := by
  obtain ⟨-, rfl⟩ := h
  simp only [List.mem_append, List.mem_cons, Prod.mk.injEq, Step.asked.injEq,
    Command.run.injEq] at hx
  rcases hx with hx | ⟨-, hst, -⟩ | hx | ⟨-, hst, -⟩ | hx
  · exact .inl hx
  · exact absurd hst (hupdate _)
  · exact .inr (.inl hx)
  · exact absurd hst hrevoke
  · exact .inr (.inr hx)

end

namespace Rotation

open Auth Server

variable {κ : Type} [DecidableEq κ] {s : Server} {requests : κ → Http.Request} {changer k : κ}
  {c : Caller} {password : String} {w₀ w : World κ} {past : List (κ × Step)} {x : Step}

theorem parts (h : Rotation s requests changer c password w₀ past w) :
    ∃ salt before between after,
      Rehashed changer c.userId (Password.hash salt password) before between after past ∧
      (∀ x, (changer, x) ∈ before → (∀ command reply, x ≠ .asked command reply) ∨
        ∃ sessionId userId reply, x = .asked (.run (.activeSession sessionId userId)) reply) ∧
      (∀ x, (changer, x) ∉ between) ∧ ∀ x, (changer, x) ∉ after := by
  obtain ⟨response, hrun, hok⟩ := h.finished changer
  obtain ⟨name?, hreaches⟩ := h.reaches
  obtain ⟨change, hbody, hpassword⟩ := h.body
  obtain ⟨lead, salt, reply, ended, hlead, hsteps⟩ :=
    password_course hreaches hbody hpassword hrun h.caller (hok rfl)
  have answered : ∀ command reply, .asked command reply ∈ own changer past →
      ∃ a, reply = .ok a := fun _ _ hmem => h.answered changer _ _ (mem_own.mp hmem)
  rw [hsteps] at answered
  obtain ⟨updated, rfl⟩ := answered _ reply (List.mem_append_right _ (.tail _ (.head _)))
  obtain ⟨removed, rfl⟩ := answered _ ended (List.mem_append_right _ (.tail _ (.tail _ (.head _))))
  have hsplit : own changer past = (lead ++ [.drewSalt salt]) ++
      .asked (.run (change.statement (some (Password.hash salt password)) c.userId)) (.ok updated)
        :: [.asked (.run (Session.revocation c.userId)) (.ok removed)] := by simpa using hsteps
  -- The two statements are known in the changer's own steps; this finds them in the history.
  obtain ⟨before, rest, hpast, hbefore, hrest⟩ := own_eq_append_cons hsplit
  obtain ⟨between, after, rfl, hbetween, hafter⟩ := own_eq_append_cons (t := []) hrest
  have nobody : ∀ part, own changer part = [] → ∀ x, (changer, x) ∉ part := fun part hpart x hx =>
    List.not_mem_nil (hpart ▸ mem_own.mpr hx)
  refine ⟨salt, before, between, after, .intro User.Change.sets_password hpast, fun x hx => ?_,
    nobody between hbetween, nobody after hafter⟩
  rw [← mem_own, hbefore, List.mem_append, List.mem_singleton] at hx
  rcases hx with hx | rfl
  · cases x with
    | drewId | drewSalt | readClock => exact .inl nofun
    | asked command reply =>
      obtain ⟨_, _, hlook⟩ := hlead.sends _ (mem_exchanges.mpr hx)
      exact .inr ⟨_, _, reply, congrArg (Step.asked · reply) hlook⟩
  · exact .inl nofun

theorem mild_of_look {command : Command} {reply : Reply}
    (h : Rotation s requests changer c password w₀ past w)
    (hx : (k, .asked command reply) ∈ past)
    (hlook : ∃ st, command = .run st ∧ st.isWrite = false) : Mild (.asked command reply) := by
  obtain ⟨st, rfl, hst⟩ := hlook
  obtain ⟨a, rfl⟩ := h.answered k _ reply hx
  exact .look a hst

theorem login_asked {command : Command} {reply : Reply}
    (h : Rotation s requests changer c password w₀ past w) (hk : k ≠ changer)
    (hx : (k, .asked command reply) ∈ past) :
    (∃ st, command = .run st ∧ st.isWrite = false) ∨
      ∃ e : Entry, e.Over (requests k) (own k past) ∧
        .asked command reply = e.insertion (requests k) := by
  obtain ⟨response, hrun, -⟩ := h.finished k
  have hmem := mem_exchanges.mpr (mem_own.mpr hx)
  obtain ⟨name?, hreaches⟩ := h.logins k hk
  rcases login_course hreaches hrun with hlooks | ⟨e, lead, c?, hallowed, hsteps, hlead⟩
  · exact .inl (hlooks _ hmem)
  · have hover : e.Over (requests k) (own k past) := ⟨hallowed, lead, hsteps.symm⟩
    rw [hsteps, exchanges_append] at hmem
    rcases List.mem_append.mp hmem with hmem | hmem
    · obtain ⟨_, _, hlook⟩ := hlead.sends _ hmem
      exact .inl ⟨_, hlook, rfl⟩
    · simp only [Entry.steps, Entry.look, Entry.insertion, exchanges_asked, exchanges_readClock,
        exchanges_drewId, exchanges_nil, List.mem_cons, Prod.mk.injEq, List.not_mem_nil,
        or_false] at hmem
      rcases hmem with ⟨rfl, -⟩ | ⟨rfl, rfl⟩
      · exact .inl ⟨_, rfl, rfl⟩
      · exact .inr ⟨e, hover, rfl⟩

theorem login_mild (h : Rotation s requests changer c password w₀ past w) (hk : k ≠ changer)
    (hx : (k, x) ∈ past) : Mild x := by
  cases x with
  | drewId | drewSalt | readClock => exact .unasked nofun
  | asked command reply =>
    rcases h.login_asked hk hx with hlook | ⟨e, -, heq⟩
    · exact h.mild_of_look hx hlook
    · obtain ⟨a, rfl⟩ := h.answered k _ _ hx
      obtain ⟨rfl, -⟩ := Step.asked.inj heq
      exact .opened _ a

theorem timeline (h : Rotation s requests changer c password w₀ past w) :
    ∃ salt before between after,
      Rehashed changer c.userId (Password.hash salt password) before between after past ∧
      Timeline c.userId (Password.hash salt password) w₀ before between after w ∧
      ∀ assigned a, (changer, opened assigned a) ∉ past := by
  obtain ⟨salt, before, between, after, hparts, hlead, hbetween, hafter⟩ := h.parts
  have hsub := hparts.subset
  have mild : ∀ part : List (κ × Step), part ⊆ past → (∀ x, (changer, x) ∈ part → Mild x) →
      ∀ y ∈ part, Mild y.2 := by
    rintro part hsub hchanger ⟨k, x⟩ hy
    by_cases hk : k = changer
    · exact hchanger x (hk ▸ hy)
    · exact h.login_mild hk (hsub hy)
  have mild_before := mild before hsub.1 fun x hx => by
    rcases hlead x hx with hx' | ⟨_, _, _, rfl⟩
    · exact .unasked hx'
    · exact h.mild_of_look (hsub.1 hx) ⟨_, rfl, rfl⟩
  refine ⟨salt, before, between, after, hparts, ?_, fun assigned a hx => ?_⟩
  · obtain ⟨hset, rfl⟩ := hparts
    exact .of_unfolds h.quiet.idle h.unfolds hset mild_before
      (mild between hsub.2.1 fun x hx => absurd hx (hbetween x))
      (mild after hsub.2.2 fun x hx => absurd hx (hafter x))
  · rcases hparts.mem_parts hx (by simp) (by simp [Session.revocation]) with hx | hx | hx
    · rcases hlead _ hx with hx | ⟨_, _, _, heq⟩
      · exact hx _ _ rfl
      · simp at heq
    · exact hbetween _ hx
    · exact hafter _ hx

theorem entry_of_opened (h : Rotation s requests changer c password w₀ past w)
    {assigned : List Sql.Assignment} {a : Answer} (hx : (k, opened assigned a) ∈ past) :
    ∃ e : Entry, e.Over (requests k) (own k past) ∧
      opened assigned a = e.insertion (requests k) := by
  by_cases hk : k = changer
  · obtain ⟨_, _, _, _, -, -, hnone⟩ := h.timeline
    exact absurd (hk ▸ hx) (hnone assigned a)
  · rcases h.login_asked hk hx with ⟨st, heq, hst⟩ | hentry
    · obtain rfl := Command.run.inj heq
      simp [Sql.Statement.isWrite] at hst
    · exact hentry

theorem same_entry (h : Rotation s requests changer c password w₀ past w) {e e' : Entry} {k' : κ}
    (he : e.Over (requests k) (own k past)) (he' : e'.Over (requests k') (own k' past))
    (hid : e.id = e'.id) :
    k = k' ∧ e.insertion (requests k) = e'.insertion (requests k') ∧ e.user.id = e'.user.id := by
  have hdrew := mem_own.mp he.mem.2.1
  have hdrew' := mem_own.mp he'.mem.2.1
  obtain rfl := h.unfolds.drawn_once.2.2 k k' e.id hdrew (hid ▸ hdrew')
  have hinsertion := he.insertion_unique he'
  have hrows : e.row (requests k) = e'.row (requests k) := by
    simpa using Command.run.inj (Step.asked.inj hinsertion).1
  exact ⟨rfl, hinsertion, by simpa using (List.cons.inj (List.cons.inj hrows).2).1⟩

theorem entry_of_row (h : Rotation s requests changer c password w₀ past w)
    {assigned : List Sql.Assignment} {a : Answer} {row : Row}
    (hx : (k, opened assigned a) ∈ past) (hrow : row.Holds assigned) :
    ∃ e : Entry, e.Over (requests k) (own k past) ∧ row.Named e.id ∧
      row.cell? "user_id" = some (.uuid e.user.id) ∧
      opened assigned a = e.insertion (requests k) := by
  obtain ⟨e, hover, heq⟩ := h.entry_of_opened hx
  obtain rfl : assigned = e.row (requests k) := by
    simpa using Command.run.inj (Step.asked.inj heq).1
  exact ⟨e, hover, hrow _ (.head _), hrow _ (.tail _ (.head _)), heq⟩

section

variable {passwordHash : String} {before between after : List (κ × Step)}
  (h : Rotation s requests changer c password w₀ past w)
  (hparts : Rehashed changer c.userId passwordHash before between after past)
  (htimeline : Timeline c.userId passwordHash w₀ before between after w)

include hparts htimeline

theorem looked_up {e : Entry} (hover : e.Over (requests k) (own k past))
    (haccount : e.user.id = c.userId) :
    (k, e.look) ∈ before ∨ e.user.passwordHash = passwordHash := by
  obtain ⟨a, hfound, row, hrow, hread⟩ := firstRow_eq_some hover.1.found
  obtain ⟨hid, hhash⟩ := User.password_cell hread
  have hlooked : (k, e.look) ∈ between ∨ (k, e.look) ∈ after →
      e.user.passwordHash = passwordHash := by
    intro hmem
    rw [Entry.look, hfound] at hmem
    have hset := htimeline.looked hmem row hrow (haccount ▸ hid)
    simpa using hhash.symm.trans hset
  rcases hparts.mem_parts (mem_own.mp hover.mem.1) (by simp) (by simp [Session.revocation]) with
    hmem | hmem | hmem
  · exact .inl hmem
  · exact .inr (hlooked (.inl hmem))
  · exact .inr (hlooked (.inr hmem))

include h

theorem survivor {row : Row} (hrow : row ∈ w.tables Session.table)
    (haccount : row.cell? "user_id" = some (.uuid c.userId)) :
    ∃ k e, Entry.Over (requests k) (own k past) e ∧ e.user.id = c.userId ∧ row.Named e.id ∧
      (k, e.insertion (requests k)) ∈ after := by
  obtain ⟨k, assigned, a, hafter, hholds⟩ := htimeline.came hrow haccount
  obtain ⟨e, hover, hid, huser, heq⟩ := h.entry_of_row (hparts.subset.2.2 hafter) hholds
  exact ⟨k, e, hover, by simpa using huser.symm.trans haccount, hid, heq ▸ hafter⟩

theorem survives_iff {e : Entry} (hover : e.Over (requests k) (own k past))
    (haccount : e.user.id = c.userId) :
    (∃ row ∈ w.tables Session.table, row.Named e.id) ↔ (k, e.insertion (requests k)) ∈ after := by
  constructor
  · rintro ⟨row, hrow, hid⟩
    have hdrew := mem_own.mp hover.mem.2.1
    rcases htimeline.origin hrow with hold | ⟨k', assigned, a, hmem, hholds⟩
    · -- The row cannot be an old one: its identifier was drawn by this login.
      exact absurd (h.quiet.known _ row hold _ hid) (h.unfolds.drawn_once.2.1 k e.id hdrew).2
    · have hpast : (k', opened assigned a) ∈ past := by
        rcases hmem with hmem | hmem | hmem
        · exact hparts.subset.1 hmem
        · exact hparts.subset.2.1 hmem
        · exact hparts.subset.2.2 hmem
      obtain ⟨e', hover', hid', huser', -⟩ := h.entry_of_row hpast hholds
      have hsame := (h.same_entry hover hover' (hid.unique hid')).2.2
      obtain ⟨k'', e'', hover'', -, hid'', hafter⟩ :=
        h.survivor hparts htimeline hrow (huser'.trans (by rw [← hsame, haccount]))
      obtain ⟨rfl, hinsertion, -⟩ := h.same_entry hover hover'' (hid.unique hid'')
      exact hinsertion ▸ hafter
  · intro hafter
    obtain ⟨a, ha⟩ := h.answered k _ _ (hparts.subset.2.2 hafter)
    have hopened : (k, opened (e.row (requests k)) a) ∈ after := by
      rwa [Entry.insertion, ha] at hafter
    obtain ⟨row, hrow, hholds⟩ := htimeline.stays hopened
    exact ⟨row, hrow, hholds _ (.head _)⟩

end

theorem sessions_after_change (h : Rotation s requests changer c password w₀ past w) :
    ∃ salt before between after,
      Rehashed changer c.userId (Password.hash salt password) before between after past ∧
      (∀ row ∈ w.tables Session.table, row.cell? "user_id" = some (.uuid c.userId) →
        ∃ k e, Entry.Over (requests k) (own k past) e ∧ e.user.id = c.userId ∧ row.Named e.id ∧
          (k, e.insertion (requests k)) ∈ after) ∧
      ∀ k e, Entry.Over (requests k) (own k past) e → e.user.id = c.userId →
        ((∃ row ∈ w.tables Session.table, row.Named e.id) ↔
          (k, e.insertion (requests k)) ∈ after) ∧
        ((k, e.look) ∈ before ∨ e.user.passwordHash = Password.hash salt password) := by
  obtain ⟨salt, before, between, after, hparts, htimeline, -⟩ := h.timeline
  exact ⟨salt, before, between, after, hparts, fun _ => h.survivor hparts htimeline,
    fun _ _ hover haccount => ⟨h.survives_iff hparts htimeline hover haccount,
      looked_up hparts htimeline hover haccount⟩⟩

end Rotation

namespace Server

open Auth Users

def cityServer : Server := ⟨⟨[], 3600⟩, .anyone, 30⟩

def signingIn : Http.Request :=
  ⟨.post, "/v1/auth/login", [("content-type", "application/json")],
    "\x7b\"email\":\"ann@example.com\",\"password\":\"old password\"\x7d"⟩

theorem signingIn_reaches (s : Server) :
    s.Reaches signingIn (.fixed .post ["v1", "auth", "login"]) none := by
  have hs : (Http.Target.ofString signingIn.target).segments? =
      some ["v1".toList, "auth".toList, "login".toList] := by decide +kernel
  have hf : findRoute (routes s.policy) ["v1".toList, "auth".toList, "login".toList] =
      some (path ["v1", "auth", "login"] [(.post, Auth.login s.policy)], none) := by
    simp [findRoute, routes, path, named, Route.matchSegments]
  exact reaches_of_segments hs hf rfl

def hashed (passwordHash : String) : User := { account with passwordHash }

def hashedRow (passwordHash : String) : Row :=
  [("id", .uuid account.id), ("full_name", .text account.fullName),
    ("user_name", .text account.userName), ("email", .text account.email),
    ("password_hash", .text passwordHash), ("user_type", .text account.userType.name),
    ("status", .text account.status), ("profile_picture", .null), ("gender", .null),
    ("bio", .null), ("created_at", .timestamp account.createdAt),
    ("updated_at", .timestamp account.updatedAt)]

theorem hashedRow_reads (passwordHash : String) :
    firstRow User.ofRow ⟨[hashedRow passwordHash], 1⟩ = .ok (some (hashed passwordHash)) := rfl

def sessionRow (id : Uuid) : Row :=
  [("id", .uuid id), ("user_id", .uuid account.id), ("user_agent", .null),
    ("expires_at", .timestamp ⟨3600, 0⟩), ("created_at", .timestamp ⟨0, 0⟩)]

def oldHash : String := Password.hash (Vector.replicate 16 0) "old password"

def newHash : String := Password.hash (Vector.replicate 16 1) "new password"

def oldEntry : Entry where
  credentials := ⟨"ann@example.com", "old password"⟩
  found := .ok ⟨[hashedRow oldHash], 1⟩
  user := hashed oldHash
  now := ⟨0, 0⟩
  id := removedId
  expiresAt := ⟨3600, 0⟩
  made := .ok ⟨[sessionRow removedId], 1⟩

theorem oldEntry_allowed : oldEntry.Allowed signingIn where
  read := Token.eq_ok_of_toOption (by decide +kernel)
  found := hashedRow_reads oldHash
  accepted := Password.verify_hash ..

theorem oldEntry_runs : ∃ response,
    (cityServer.handle signingIn).Runs (oldEntry.steps signingIn) (some response) ∧
      response.status = 200 := by
  have hr := signingIn_reaches cityServer
  have hlogin : (Auth.login ⟨[], 3600⟩ ⟨signingIn, none, none⟩).Runs (oldEntry.steps signingIn) _ :=
    login_runs oldEntry_allowed (by decide) (by decide +kernel)
  exact ⟨_, hr.runs_of_nobody (login_mem _) rfl hlogin, outer_status _⟩

def rehash : Step :=
  .asked (.run (newPassword.statement (some newHash) .nil)) (.ok ⟨[hashedRow newHash], 1⟩)

def revoke : Step := .asked (.run (Session.revocation .nil)) (.ok ⟨[], 1⟩)

def rehashing : List Step :=
  visitorLead .user ++ ([.drewSalt (Vector.replicate 16 1)] ++ [rehash, revoke])

theorem rehashing_runs : ∃ response,
    (cityServer.handle changing).Runs rehashing (some response) ∧ response.status = 200 := by
  have haltering : Altering .nil newPassword
      ([.drewSalt (Vector.replicate 16 1)] ++ [rehash, revoke])
      (concluded (hashed newHash) (.ok ⟨[], 1⟩)) :=
    .made (.ok ⟨[], 1⟩) (.some (Vector.replicate 16 1) "new password") (hashedRow_reads newHash)
  exact ⟨_, changing_altered 3600 changing_body rfl rfl haltering, (outer_status _).trans rfl⟩

def rotatedPast : List (Bool × Step) :=
  [(false, oldEntry.look), (true, .readClock ⟨0, 0⟩),
    (true, .asked (.run (.activeSession .nil .nil)) (typeReply .user)),
    (true, .drewSalt (Vector.replicate 16 1)), (true, rehash), (true, revoke),
    (false, .readClock ⟨0, 0⟩), (false, .drewId removedId), (false, oldEntry.insertion signingIn)]

def rotatedStart : World Bool where
  tables t := {row | (t = User.table ∧ row = hashedRow oldHash) ∨
    (t = Session.table ∧ row = sessionRow .nil)}
  phase _ := .free
  drawn := {.nil}

theorem rotatedStart_quiet : rotatedStart.Quiet where
  idle _ := rfl
  unique table row hrow row' hrow' _ _ _ := by
    rcases hrow with ⟨rfl, rfl⟩ | ⟨rfl, rfl⟩ <;> rcases hrow' with ⟨ht, rfl⟩ | ⟨ht, rfl⟩
    · rfl
    · exact absurd ht (by decide)
    · exact absurd ht (by decide)
    · rfl
  known table row hrow id hid := by
    have hnamed : row.Named .nil := by
      rcases hrow with ⟨-, rfl⟩ | ⟨-, rfl⟩ <;> rfl
    exact hid.unique hnamed

theorem hashedRow_cell {column : String} (h : column ≠ "password_hash") (p q : String) :
    (hashedRow p).cell? column = (hashedRow q).cell? column := by
  simp [hashedRow, Row.cell?, List.find?_cons, h.symm]

theorem hashedRow_named (p : String) : (hashedRow p).Named account.id := rfl

theorem rehash_executes : Executes rotatedStart.tables (newPassword.statement (some newHash) .nil)
    ⟨[hashedRow newHash], 1⟩
    ⟨only User.table {old | old ∈ rotatedStart.tables User.table ∧ old.Named .nil},
      only User.table ((fun _ => hashedRow newHash) ''
        {old | old ∈ rotatedStart.tables User.table ∧ old.Named .nil})⟩ := by
  have hold : hashedRow oldHash ∈ rotatedStart.tables User.table := .inl ⟨rfl, rfl⟩
  refine .update (fun row hrow _ => ⟨?_, fun column hcolumn _ => ?_⟩) fun row => ?_
  · intro a ha
    obtain rfl := List.mem_singleton.mp ha
    rfl
  · have hother : column ≠ "password_hash" := fun h => hcolumn (h ▸ .head _)
    rcases hrow with ⟨-, rfl⟩ | ⟨ht, -⟩
    · exact hashedRow_cell hother ..
    · exact absurd ht (by decide)
  · rw [List.mem_singleton]
    constructor
    · rintro rfl
      exact ⟨_, ⟨hold, hashedRow_named oldHash⟩, rfl⟩
    · rintro ⟨_, -, rfl⟩
      rfl

theorem oldEntry_inserts (T : Tables) :
    Executes T (.insert Session.table (oldEntry.row signingIn) .returning)
      ⟨[sessionRow removedId], 1⟩ ⟨fun _ => ∅, only Session.table {sessionRow removedId}⟩ := by
  refine .insert (fun a ha => ?_) rfl
  simp only [Entry.row, Session.row, List.mem_cons, List.not_mem_nil, or_false] at ha
  rcases ha with rfl | rfl | rfl | rfl <;> rfl

theorem rotatedPast_unfolds : ∃ w, rotatedStart.Unfolds rotatedPast w ∧
    sessionRow removedId ∈ w.tables Session.table := by
  have hold : hashedRow oldHash ∈ rotatedStart.tables User.table := .inl ⟨rfl, rfl⟩
  have look : rotatedStart.Moves false oldEntry.look rotatedStart :=
    .looked rfl (.findByEmail fun row hrow => List.mem_singleton.mp hrow ▸ hold)
  have session := World.Moves.looked (w := rotatedStart) (k := true) rfl
    (.activeSession .nil .nil ⟨[[("user_type", .text UserType.user.name)]], 1⟩)
  have hrehash := World.Moves.made (w := rotatedStart) (k := true) rfl rehash_executes
  have hrevoke (w : World Bool) (hfree : w.phase true = .free) := World.Moves.made hfree
    (.delete nofun : Executes w.tables (Session.revocation .nil) ⟨[], 1⟩
      ⟨Function.update (fun _ => ∅) Session.table _, only Notification.table ∅⟩)
  have hinsert (w : World Bool) (hfree : w.phase false = .free) :=
    World.Moves.made hfree (oldEntry_inserts w.tables)
  have hfresh : removedId ∉ rotatedStart.drawn := by
    have hother : removedId ≠ .nil := by decide +kernel
    exact hother
  refine ⟨_, .step (.step (.step (.step (.step (.step (.step (.step (.step .start look)
    (.readClock _)) session) (.drewSalt _)) hrehash) (hrevoke _ rfl)) (.readClock _))
    (.drewId _ hfresh)) (hinsert _ rfl), ?_⟩
  have hnew : sessionRow removedId ∈ only Session.table {sessionRow removedId} Session.table :=
    mem_only.mpr ⟨rfl, rfl⟩
  exact Delta.mem_on.mpr (.inr hnew)

def rotatedRequests (k : Bool) : Http.Request := bif k then changing else signingIn

theorem rotatedPast_rotation {w : World Bool} (h : rotatedStart.Unfolds rotatedPast w) :
    Rotation cityServer rotatedRequests true (visitor .user) "new password" rotatedStart rotatedPast
      w where
  quiet := rotatedStart_quiet
  unfolds := h
  answered k command reply hx := by
    simp only [rotatedPast, Entry.look, rehash, revoke, Entry.insertion, oldEntry, typeReply,
      List.mem_cons, Prod.mk.injEq, Step.asked.injEq, reduceCtorEq, and_false, false_or,
      List.not_mem_nil, or_false] at hx
    rcases hx with ⟨-, -, rfl⟩ | ⟨-, -, rfl⟩ | ⟨-, -, rfl⟩ | ⟨-, -, rfl⟩ | ⟨-, -, rfl⟩ <;>
      exact ⟨_, rfl⟩
  finished k := by
    cases k with
    | false =>
      obtain ⟨response, hrun, -⟩ := oldEntry_runs
      exact ⟨response, hrun, nofun⟩
    | true =>
      obtain ⟨response, hrun, hok⟩ := rehashing_runs
      exact ⟨response, hrun, fun _ => hok⟩
  logins k hk := by
    cases k with
    | false => exact ⟨none, signingIn_reaches _⟩
    | true => exact absurd rfl hk
  reaches := ⟨none, changing_reaches _⟩
  body := ⟨newPassword, changing_body, rfl⟩
  caller := rfl

theorem oldEntry_over : oldEntry.Over signingIn (own false rotatedPast) :=
  ⟨oldEntry_allowed, List.suffix_rfl⟩

theorem one_session_left : ∃ w,
    Rotation cityServer rotatedRequests true (visitor .user) "new password" rotatedStart rotatedPast
      w ∧
    ∀ row ∈ w.tables Session.table, row.cell? "user_id" = some (.uuid account.id) →
      row.Named removedId := by
  obtain ⟨w, hunfolds, -⟩ := rotatedPast_unfolds
  have hrotation := rotatedPast_rotation hunfolds
  obtain ⟨_, _, _, _, -, hleft, -⟩ := hrotation.sessions_after_change
  refine ⟨w, hrotation, fun row hrow haccount => ?_⟩
  obtain ⟨k, e, hover, -, hid, -⟩ := hleft row hrow haccount
  have hdrew := mem_own.mp hover.mem.2.1
  have heq : k = false ∧ e.id = removedId := by
    simpa [rotatedPast, Entry.look, rehash, revoke, Entry.insertion, oldEntry] using hdrew
  exact heq.2 ▸ hid

theorem old_password_outlives_change : ∃ w,
    Rotation cityServer rotatedRequests true (visitor .user) "new password" rotatedStart rotatedPast
      w ∧
    oldEntry.Over signingIn (own false rotatedPast) ∧
    oldEntry.user.id = (visitor .user).userId ∧
    hashedRow oldEntry.user.passwordHash ∈ rotatedStart.tables User.table ∧
    oldHash ≠ newHash ∧
    ∃ row ∈ w.tables Session.table, row.Named oldEntry.id ∧
      row.cell? "user_id" = some (.uuid (visitor .user).userId) := by
  obtain ⟨w, hunfolds, hrow⟩ := rotatedPast_unfolds
  exact ⟨w, rotatedPast_rotation hunfolds, oldEntry_over, rfl, .inl ⟨rfl, rfl⟩,
    Password.hash_ne_of_salt (by decide), _, hrow, rfl, rfl⟩

end Server

end Api

end CityGuide
