import CityGuide.Proofs.Api.Authentication
import CityGuide.Proofs.Api.Guards
import CityGuide.Proofs.Api.Handlers
import CityGuide.Proofs.Api.SignedRequests

namespace CityGuide

open Store

def Sql.Statement.Escalates (self? : Option Uuid) : Sql.Statement → Prop
  | .insert table row _ =>
      table = User.table ∧ row.lookup "user_type" ≠ some (.text UserType.user.name)
  | .insertAll table _ _ => table = User.table
  | .update table changes id =>
      table = User.table ∧
        ("user_type" ∈ changes.map Prod.fst ∨ "status" ∈ changes.map Prod.fst ∨ self? ≠ some id)
  | .delete _ table keys =>
      table = User.table ∧ ∀ self ∈ self?, ("id", .uuid self) ∉ keys
  | _ => False

def Store.Command.Escalates (self? : Option Uuid) : Command → Prop
  | .run st => st.Escalates self?
  | .script _ => True
  | .connect | .begin | .commit | .rollback => False

theorem Sql.mem_present {column : String} {v : Value} {columns : List (String × Option Value)} :
    (column, v) ∈ present columns ↔ (column, some v) ∈ columns := by
  simp only [present, List.mem_filterMap, Option.map_eq_some_iff, Prod.mk.injEq]
  constructor
  · rintro ⟨⟨_, _⟩, hmem, _, rfl, rfl, rfl⟩
    exact hmem
  · intro hmem
    exact ⟨_, hmem, v, rfl, rfl, rfl⟩

theorem Sql.mem_present_names {columns : List (String × Option Value)} {column : String}
    (h : column ∈ (present columns).map Prod.fst) : column ∈ columns.map Prod.fst := by
  obtain ⟨⟨_, v⟩, hv, rfl⟩ := List.mem_map.mp h
  exact List.mem_map.mpr ⟨_, mem_present.mp hv, rfl⟩

theorem User.Change.changesPrivileges_of_mem {c : Change} {passwordHash : Option String}
    (h : "user_type" ∈ (c.assignments passwordHash).map Prod.fst ∨
      "status" ∈ (c.assignments passwordHash).map Prod.fst) : c.changesPrivileges = true := by
  simp only [assignments, List.mem_map, Prod.exists, exists_and_right, exists_eq_right,
    Sql.mem_present] at h
  rcases h with ⟨v, h⟩ | ⟨v, h⟩
  · cases ht : c.userType with
    | none => simp [ht] at h
    | some t => simp [changesPrivileges, ht]
  · cases hs : c.status with
    | none => simp [hs] at h
    | some status => simp [changesPrivileges, hs]

theorem Attachment.Replacing.not_escalates {owner : AttachmentOwner} {ownerId : Uuid}
    {inputs : List Input} {st : Sql.Statement} {self? : Option Uuid}
    (hr : Replacing owner ownerId inputs st) : ¬st.Escalates self? := by
  have htable : owner.table ≠ User.table := by cases owner <;> decide
  cases hr with
  | clear => exact fun he => htable he.1
  | insertion => exact htable

namespace Api

theorem Caller.admin_of_change {c : Caller} {self? : Option Uuid} {change : User.Change}
    {passwordHash : Option String} (hself : self? = some c.userId)
    (hp : change.changesPrivileges = true → c.require .administerUsers = .ok ())
    (he : (Sql.Statement.update User.table (change.assignments passwordHash) c.userId).Escalates
      self?) : c.userType = .admin := by
  rcases he.2 with hv | hv | hn
  · exact admin_of_require (hp (User.Change.changesPrivileges_of_mem (.inl hv)))
  · exact admin_of_require (hp (User.Change.changesPrivileges_of_mem (.inr hv)))
  · exact absurd hself hn

theorem Footprint.admin_of_escalates {i : Incoming} {e : Endpoint} {st : Sql.Statement}
    {self? : Option Uuid} (hf : Footprint i e st)
    (hself : ∀ c, i.caller? = some c → self? = some c.userId) (he : st.Escalates self?) :
    ∃ c, i.caller? = some c ∧ c.userType = .admin := by
  cases hf with
  | look hk =>
    have hl := hk.isWrite_eq_false
    cases st <;> simp [Sql.Statement.Escalates, Sql.Statement.isWrite] at he hl
  | register => exact absurd rfl he.2
  | createUser hc _ hp => exact ⟨_, Incoming.caller_eq_ok.mp hc, Caller.admin_of_require hp⟩
  | updateSelf hc _ hp =>
    have hc := Incoming.caller_eq_ok.mp hc
    exact ⟨_, hc, Caller.admin_of_change (hself _ hc) hp he⟩
  | updateUser hc _ _ ho hp =>
    have hc := Incoming.caller_eq_ok.mp hc
    rcases Caller.requireOwner_eq_ok.mp ho with hadmin | rfl
    · exact ⟨_, hc, hadmin⟩
    · exact ⟨_, hc, Caller.admin_of_change (hself _ hc) hp he⟩
  | deleteUser hc _ ho =>
    have hc := Incoming.caller_eq_ok.mp hc
    rcases Caller.requireOwner_eq_ok.mp ho with hadmin | rfl
    · exact ⟨_, hc, hadmin⟩
    · exact absurd (List.mem_singleton.mpr rfl) (he.2 _ (hself _ hc))
  | attachToNewBusiness _ _ _ hr | attachToBusiness _ _ _ _ _ hr | attachToNewReview _ _ _ hr
  | attachToReview _ _ _ _ _ hr => exact absurd he hr.not_escalates
  | markNotifications => exact he.elim
  | _ => exact absurd he.1 (by decide)

theorem Footprint.registers_user {i : Incoming} {row : List Sql.Assignment} {ending : Sql.Ending}
    {table : String} {e : Endpoint} (he : e = .fixed .post ["v1", "auth", "register"])
    (hf : Footprint i e (.insert table row ending)) :
    table = User.table ∧ row.lookup "user_type" = some (.text UserType.user.name) := by
  generalize hst : Sql.Statement.insert table row ending = st at hf
  cases hf with
  | register =>
    simp only [Sql.Statement.insert.injEq] at hst
    obtain ⟨rfl, rfl, -⟩ := hst
    exact ⟨rfl, rfl⟩
  | look hk => simpa [← hst, Sql.Statement.isWrite] using hk.isWrite_eq_false
  | _ => simp [Endpoint.fixed, Endpoint.named] at he

namespace Server

variable {s : Server} {r : Http.Request} {t : List Step} {v? : Option Http.Response}

theorem sent_cases (ht : (s.handle r).Runs t v?) {x : Exchange} (hx : x ∈ exchanges t) :
    (∃ sessionId userId, x.1 = .run (.activeSession sessionId userId)) ∨
      ∃ e name? c?, s.Reaches r e name? ∧ Sent (Footprint ⟨r, c?, name?⟩ e) x.1 ∧
        ∀ c, c? = some c → s.Vouches r t c := by
  cases hs : s.serving? r with
  | some found =>
    obtain ⟨e, h, name?⟩ := found
    have hmem := serving?_mem hs
    rcases Reaches.runs_cases ⟨h, hs⟩ hmem ht with
      ⟨lead, rest, c?, o?, rfl, hlead, ho, -⟩ | ⟨_, -, hturned⟩
    · rcases List.mem_append.mp (exchanges_append lead rest ▸ hx) with hx | hx
      · exact .inl (hlead.sends x hx)
      · refine .inr ⟨e, name?, c?, ⟨h, hs⟩, endpoints_leave hmem _ rest o? ho x hx, ?_⟩
        rintro c rfl
        exact ⟨lead, rest, rfl, hlead⟩
    · exact .inl (hturned.sends x hx)
  | none =>
    obtain ⟨response, hdone⟩ := dispatch_of_not_serving hs
    obtain ⟨_, hw, -⟩ := runs_handle.mp ht
    cases hw with
    | preflight => simp at hx
    | anonymous _ _ hd =>
      rw [hdone, Program.runs_done] at hd
      simp [hd.1] at hx
    | turnedAway _ hb ha => exact .inl ((ha.turnsAway hb).sends x hx)
    | known _ hb ha hd =>
      rw [hdone, Program.runs_done] at hd
      obtain ⟨rfl, -⟩ := hd
      rw [List.append_nil] at hx
      exact .inl ((ha.introduces hb).sends x hx)

theorem no_escalation (ht : (s.handle r).Runs t v?) :
    (∀ x ∈ exchanges t, x.1.Escalates ((caller? t).map (·.userId)) →
        ∃ c, s.Vouches r t c ∧ c.userType = .admin) ∧
      ∀ name?, s.Reaches r (.fixed .post ["v1", "auth", "register"]) name? →
        ∀ table row ending reply, (.run (.insert table row ending), reply) ∈ exchanges t →
          table = User.table ∧ row.lookup "user_type" = some (.text "user") := by
  constructor
  · intro x hx he
    rcases sent_cases ht hx with ⟨_, _, hl⟩ | ⟨e, name?, c?, -, hsent, hc⟩
    · rw [hl] at he
      exact he.elim
    · -- Whom the handler takes for the caller is whom the first exchange found.
      have hself : ∀ c, c? = some c → (caller? t).map (·.userId) = some c.userId := by
        intro c hsome
        rw [(hc c hsome).caller?, Option.map_some]
      obtain ⟨command, reply⟩ := x
      cases command with
      | run st =>
        obtain ⟨c, hsome, hadmin⟩ := Footprint.admin_of_escalates hsent hself he
        exact ⟨c, hc c hsome, hadmin⟩
      | script => exact hsent.elim
      | connect | «begin» | commit | rollback => exact he.elim
  · intro name? hr table row ending reply hx
    rcases sent_cases ht hx with ⟨_, _, hl⟩ | ⟨e, _, c?, hr', hsent, -⟩
    · simp at hl
    · obtain rfl := hr.endpoint_unique hr'
      exact Footprint.registers_user rfl hsent

def removing : Http.Request :=
  carrying [] visitorClaims ⟨.delete, "/v1/user/11111111-1111-1111-1111-111111111111", [], ""⟩

def removedName : List Char := "11111111-1111-1111-1111-111111111111".toList

def removedId : Uuid := ⟨Vector.replicate 32 1⟩

theorem removing_id :
    Incoming.id ⟨removing, some (visitor .admin), some removedName⟩ = .ok removedId :=
  Token.eq_ok_of_toOption (by decide +kernel)

theorem removing_reaches (s : Server) :
    s.Reaches removing (.named .delete ["v1", "user"]) (some removedName) := by
  have hs : (Http.Target.ofString removing.target).segments? =
      some ["v1".toList, "user".toList, removedName] := by decide +kernel
  have hname : removedName.isEmpty = false ∧ removedName ≠ ['l', 'i', 's', 't'] := by
    decide +kernel
  have hf : findRoute (routes s.policy) ["v1".toList, "user".toList, removedName] =
      some (named ["v1", "user"] []
        [(.get, Users.get), (.put, Users.update), (.delete, Users.delete)], some removedName) := by
    simp [findRoute, routes, path, named, Route.matchSegments, hname]
  exact reaches_of_segments hs hf rfl

def removingRun : List Step :=
  visitorLead .admin ++
    Program.traceOn (ExceptT.run (Users.delete ⟨removing, some (visitor .admin), some removedName⟩))
      (.offline "")

theorem removing_escalates :
    ∃ x ∈ exchanges removingRun, x.1.Escalates ((caller? removingRun).map (·.userId)) := by
  have hsent : (.run (.delete .quoted User.table [("id", .uuid removedId)]), .error exhausted) ∈
      exchanges removingRun := by
    simp only [removingRun, Users.delete, removing_id]
    exact .tail _ (.head _)
  have hother : removedId ≠ .nil := by decide +kernel
  refine ⟨_, hsent, rfl, ?_⟩
  rintro _ ⟨⟩
  simpa [visitor] using hother.symm

theorem removing_by_admin :
    ∃ c, Vouches ⟨⟨[], 0⟩, .anyone, 30⟩ removing removingRun c ∧ c.userType = .admin := by
  have hh : (Endpoint.named .delete ["v1", "user"], Users.delete) ∈ endpoints ⟨[], 0⟩ := by
    simp [endpoints, Route.endpoints, routes, path, named, Endpoint.named]
  have hr := removing_reaches ⟨⟨[], 0⟩, .anyone, 30⟩
  have hlead : Introduces ⟨⟨[], 0⟩, .anyone, 30⟩ removing (visitorLead .admin)
      (some (visitor .admin)) := introduces_visitor ..
  have ht := hr.runs_of_caller hh hlead (Program.runs_traceOn _ (.offline ""))
  obtain ⟨x, hx, he⟩ := removing_escalates
  exact (no_escalation ht).1 x hx he

end Server

end Api

end CityGuide
