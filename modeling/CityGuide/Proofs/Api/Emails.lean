import CityGuide.Proofs.Api.Escalation
import CityGuide.Proofs.Api.PasswordChange
import CityGuide.Proofs.Operator.AdminAccounts
import CityGuide.Proofs.Store.AccountRows

namespace CityGuide

open Store Store.Action

namespace Api

open Handling

inductive Desk where
  | register
  | create
  | changeSelf
  | change
  | createAdmin
  deriving DecidableEq, Repr

namespace Desk

def kept : Desk → String → String
  | register, x | create, x => Text.trim x
  | changeSelf, x | change, x | createAdmin, x => x

def endpoint? : Desk → Option Endpoint
  | register => some (.fixed .post ["v1", "auth", "register"])
  | create => some (.fixed .post ["v1", "user"])
  | changeSelf => some (.fixed .put ["v1", "user"])
  | change => some (.named .put ["v1", "user"])
  | createAdmin => none

def Reads (r : Http.Request) (x : String) : Desk → Prop
  | register => ∃ body, (⟨r, none, none⟩ : Incoming).body Auth.Registration.decode = .ok body ∧
      body.email = x
  | create => ∃ d, (⟨r, none, none⟩ : Incoming).body User.Draft.decode = .ok d ∧ d.email = x
  | changeSelf | change => ∃ c, (⟨r, none, none⟩ : Incoming).body User.Change.decode = .ok c ∧
      c.email = some x
  | createAdmin => False

variable {d d' : Desk} {x : String}

theorem trim_kept (d : Desk) (x : String) : Text.trim (d.kept x) = Text.trim x := by
  cases d <;> simp [kept]

theorem kept_eq_trim_iff : Text.trim (d.kept x) = d.kept x ↔ d.kept x = Text.trim x := by
  rw [trim_kept, eq_comm]

theorem key_kept (m : Text.Lowering) (d : Desk) (x : String) : m.key (d.kept x) = m.key x := by
  cases d <;> simp [kept]

theorem endpoint?_inj {e : Endpoint} (h : d.endpoint? = some e) (h' : d'.endpoint? = some e) :
    d = d' := by
  have hsame := h.trans h'.symm
  cases d <;> cases d' <;> simp [endpoint?, Endpoint.fixed, Endpoint.named] at hsame h ⊢

end Desk

theorem Footprint.fills_address {r : Http.Request} {c? : Option Caller} {name? : Option (List Char)}
    {e : Endpoint} {st : Sql.Statement} {assigned : List Sql.Assignment} {d : Desk} {x : String}
    (hf : Footprint ⟨r, c?, name?⟩ e st) (hd : d.endpoint? = some e) (hx : d.Reads r x)
    (hfills : st.FillsAccount assigned) :
    assigned.lookup "email" = some (.text (d.kept x)) := by
  -- Accounts are written where the desks are; every other write is about another table.
  cases hf with
  | look hk =>
    have hl := hk.isWrite_eq_false
    cases st <;> simp [Sql.Statement.FillsAccount, Sql.Statement.isWrite] at hfills hl
  | @register body id salt hb hv =>
    obtain rfl : d = .register := Desk.endpoint?_inj hd rfl
    obtain ⟨body', hb', rfl⟩ := hx
    obtain rfl : body = body' := Except.ok.inj (hb.symm.trans hb')
    obtain ⟨-, rfl⟩ := hfills
    rfl
  | @createUser c draft id salt hc hb hp hv =>
    obtain rfl : d = .create := Desk.endpoint?_inj hd rfl
    obtain ⟨draft', hb', rfl⟩ := hx
    obtain rfl : draft = draft' := Except.ok.inj (hb.symm.trans hb')
    obtain ⟨-, rfl⟩ := hfills
    rfl
  | @updateSelf c change salt hc hb hp hv =>
    obtain rfl : d = .changeSelf := Desk.endpoint?_inj hd rfl
    obtain ⟨change', hb', he⟩ := hx
    obtain rfl : change = change' := Except.ok.inj (hb.symm.trans hb')
    obtain ⟨-, rfl⟩ := hfills
    exact User.Change.lookup_email he
  | @updateUser c id change salt hc hi hb ho hp hv =>
    obtain rfl : d = .change := Desk.endpoint?_inj hd rfl
    obtain ⟨change', hb', he⟩ := hx
    obtain rfl : change = change' := Except.ok.inj (hb.symm.trans hb')
    obtain ⟨-, rfl⟩ := hfills
    exact User.Change.lookup_email he
  | attachToNewBusiness _ _ _ hr | attachToBusiness _ _ _ _ _ hr | attachToNewReview _ _ _ hr
  | attachToReview _ _ _ _ _ hr => exact absurd hfills hr.not_fills_account
  | markNotifications | logout | revokeSelf | revokeUser | deleteUser | deleteCategory
  | deleteBusiness | deleteReview | deleteReport | deleteNotification | deleteEvent | leave
  | deleteBookmark | deletePromotion | unfollow => exact hfills.elim
  | _ => exact absurd hfills.1 (by decide)

theorem Auth.login_seeks {policy : TokenPolicy} {i : Incoming} {c : Auth.Credentials}
    (hb : i.body Auth.Credentials.decode = .ok c) :
    Sends (fun command => ∀ z, command = .run (.findByEmail z) → z = Text.trim c.email)
      (Auth.login policy i) := by
  rw [Auth.login_eq, hb, read, ofExcept_ok_bind, Auth.authenticated_eq]
  refine .bind (.bind (.mapError (.optional fun z hz => ?_)) fun _ => .ofExcept _) fun user => ?_
  · simpa using hz.symm
  · split
    · refine .bind .now fun now => ?_
      rw [Auth.openedAt]
      split
      · exact .crash
      · exact .bind (.mapError (Session.create_sends fun id z hz => by simp at hz)) fun _ => .pure _
    · exact .ofExcept _

theorem Auth.login_looks {policy : TokenPolicy} {i : Incoming} {c : Auth.Credentials}
    {t : List Step} {o? : Option (Except Stop Http.Response)}
    (hb : i.body Auth.Credentials.decode = .ok c) (ht : (Auth.login policy i).Runs t o?) :
    ∃ reply, (.run (.findByEmail (Text.trim c.email)), reply) ∈ exchanges t := by
  rw [Auth.login_eq, hb, read, ofExcept_ok_bind] at ht
  obtain ⟨_, rest, _, rfl, hu⟩ := exists_runs_of_bind ht
  obtain ⟨reply, rfl, -⟩ := Auth.runs_authenticated hu
  exact ⟨reply, .head _⟩

theorem Auth.register_runs {i : Incoming} {body : Auth.Registration} {id : Uuid}
    {salt : Password.Salt} {reply : Reply} {user : User}
    (hb : i.body Auth.Registration.decode = .ok body) (hv : body.draft.validate = .ok ())
    (hread : (reply.bind fun answer => (firstRow User.ofRow answer).bind atLeastOne) = .ok user) :
    (Auth.register i).Runs [.drewId id, .drewSalt salt, .asked (.run (.insert User.table
        (body.draft.row id (Password.hash salt body.draft.password)) .returning)) reply]
      (some (.ok (.json 201 user.toJson))) := by
  simp only [Auth.register, read, hb, ofValid, hv, Except.mapError, ofExcept_ok_bind]
  refine runs_bind_ofExcept.mpr ⟨some (.ok user), ?_, rfl⟩
  refine runs_mapError.mpr ⟨some (.ok user), ?_, rfl⟩
  exact User.runs_create.mpr ⟨id, salt, reply, rfl, congrArg some hread.symm⟩

theorem Users.changed_runs {id : Uuid} {change : User.Change} {reply : Reply} {user : User}
    (hr : change.revokesSessions = false)
    (hread : reply.bind (firstRow User.ofRow) = .ok (some user)) :
    (Users.changed id change).Runs [.asked (.run (change.statement none id)) reply]
      (some (.ok (.json 200 user.toJson))) := by
  have hpassword : change.password = none := by
    simpa using (Bool.or_eq_false_iff.mp hr).1
  rw [Users.changed, hr]
  refine runs_bind_ofExcept.mpr ⟨some (.ok user), ?_, rfl⟩
  refine runs_existing.mpr ⟨some (.ok (some user)), ?_, rfl⟩
  exact User.runs_update.mpr ⟨[], none, reply, hpassword ▸ .none, rfl, congrArg some hread.symm⟩

namespace Server

inductive Writes (s : Server) : Desk → String → Sql.Statement → Prop
  | request {d : Desk} {x : String} {e : Endpoint} {r : Http.Request} {name? : Option (List Char)}
      {t : List Step} {v? : Option Http.Response} {st : Sql.Statement} {reply : Reply}
      (hd : d.endpoint? = some e) (hr : s.Reaches r e name?) (hx : d.Reads r x)
      (ht : (s.handle r).Runs t v?) (hsent : (.run st, reply) ∈ exchanges t) : Writes s d x st
  | command {env : Config.Environment} {args : List String} {admin : Operator.AdminRequest}
      {t : List Step} {v? : Option Operator.Outcome} {st : Sql.Statement} {reply : Reply}
      (hread : Operator.read env args = .ok (.task (.createAdmin admin)))
      (ht : (Operator.call env args).Runs t v?) (hsent : (.run st, reply) ∈ exchanges t) :
      Writes s .createAdmin admin.email st

structure LogsIn (s : Server) (r : Http.Request) (t : List Step) (y : String) : Prop where
  reaches : ∃ name?, s.Reaches r (.fixed .post ["v1", "auth", "login"]) name?
  reads : ∃ password, (⟨r, none, none⟩ : Incoming).body Auth.Credentials.decode = .ok ⟨y, password⟩
  runs : ∃ v?, (s.handle r).Runs t v?

def Seeks (t : List Step) (z : String) : Prop :=
  ∃ reply, (.run (.findByEmail z), reply) ∈ exchanges t

variable {s : Server} {d : Desk} {x : String} {st : Sql.Statement}

theorem Writes.address (hw : s.Writes d x st) {assigned : List Sql.Assignment}
    (hfills : st.FillsAccount assigned) : assigned.lookup "email" = some (.text (d.kept x)) := by
  cases hw with
  | request hd hr hx ht hsent =>
    rcases sent_cases ht hsent with ⟨_, _, hl⟩ | ⟨e, name?, c?, hr', hf, -⟩
    · obtain rfl := Command.run.inj hl
      exact hfills.elim
    · obtain rfl := hr.endpoint_unique hr'
      exact Footprint.fills_address hf hd hx hfills
  | command hread ht hsent =>
    have hfounds := Operator.call_sends hread ht hsent
    cases hfounds with
    | account id salt =>
      obtain ⟨-, rfl⟩ := hfills
      rfl

theorem LogsIn.course {r : Http.Request} {t : List Step} {y : String} (h : s.LogsIn r t y) :
    (∃ lead rest i password o?, t = lead ++ rest ∧ s.Introduces r lead i.caller? ∧
        i.body Auth.Credentials.decode = .ok ⟨y, password⟩ ∧
        (Auth.login s.policy i).Runs rest o?) ∨
      ∃ status, s.TurnsAway r t status := by
  obtain ⟨⟨name?, hr⟩, ⟨password, hb⟩, v?, ht⟩ := h
  rcases hr.runs_cases (login_mem _) ht with
    ⟨lead, rest, c?, o?, rfl, hlead, ho, -⟩ | ⟨_, -, hturned⟩
  · exact .inl ⟨lead, rest, ⟨r, c?, name?⟩, password, o?, rfl, hlead, hb, ho⟩
  · exact .inr ⟨_, hturned⟩

theorem LogsIn.seeks {r : Http.Request} {t : List Step} {y z : String} (h : s.LogsIn r t y)
    (hz : Seeks t z) : z = Text.trim y := by
  obtain ⟨reply, hz⟩ := hz
  rcases h.course with ⟨lead, rest, i, password, o?, rfl, hlead, hb, ho⟩ | ⟨_, hturned⟩
  · rw [hlead.run_mem_append (by simp)] at hz
    exact Auth.login_seeks hb rest o? ho _ hz z rfl
  · obtain ⟨_, _, hlook⟩ := hturned.sends _ hz
    simp at hlook

theorem LogsIn.looks {r : Http.Request} {t : List Step} {y : String} (h : s.LogsIn r t y) :
    Seeks t (Text.trim y) ∨ ∃ status, s.TurnsAway r t status := by
  rcases h.course with ⟨lead, rest, i, password, o?, rfl, hlead, hb, ho⟩ | hturned
  · obtain ⟨reply, hlook⟩ := Auth.login_looks hb ho
    exact .inl ⟨reply, (hlead.run_mem_append (by simp)).mpr hlook⟩
  · exact .inr hturned

theorem accounts_by_address (m : Text.Lowering) (hw : s.Writes d x st) :
    (∀ assigned, st.FillsAccount assigned →
      assigned.lookup "email" = some (.text (d.kept x))) ∧
    (∀ T answer δ row, Executes T st answer δ → row ∈ δ.come User.table →
      ∀ r t y, s.LogsIn r t y →
        (Seeks t (Text.trim y) ∨ ∃ status, s.TurnsAway r t status) ∧
        ∀ z, Seeks t z → (m.Finds z row ↔ d.kept x = Text.trim x ∧ m.key x = m.key y)) ∧
    ∀ d' x' st' assigned assigned', s.Writes d' x' st' →
      st.FillsAccount assigned → st'.FillsAccount assigned' →
      (assigned.lookup "email" = assigned'.lookup "email" → m.key x = m.key x') ∧
      (d.kept x = Text.trim x → d'.kept x' = Text.trim x' →
        (assigned.lookup "email" = assigned'.lookup "email" ↔ Text.trim x = Text.trim x')) := by
  refine ⟨fun assigned => hw.address, ?_, ?_⟩
  · intro T answer δ row he hrow r t y hlogin
    refine ⟨hlogin.looks, fun z hz => ?_⟩
    obtain ⟨assigned, hfills, hholds⟩ := he.fills_account hrow
    -- What is looked for was trimmed, so that in small letters it is a key.
    rw [m.finds_iff (hw.address hfills) hholds, hlogin.seeks hz, ← Text.Lowering.key,
      m.lower_eq_key_iff, Desk.kept_eq_trim_iff, Desk.key_kept]
  · intro d' x' st' assigned assigned' hw' hfills hfills'
    simp only [hw.address hfills, hw'.address hfills', Option.some.injEq, Sql.Value.text.injEq]
    constructor
    · intro hsame
      rw [← d.key_kept m x, hsame, d'.key_kept]
    · intro hkept hkept'
      rw [hkept, hkept']

def spaced : String := " Ann@example.com"

def registering : Http.Request :=
  ⟨.post, "/v1/auth/register", [("content-type", "application/json")],
    "\x7b\"full_name\":\"Ann Example\",\"user_name\":\"ann\"," ++
      "\"email\":\" Ann@example.com\",\"password\":\"old password\"\x7d"⟩

def registration : Auth.Registration := ⟨"Ann Example", "ann", spaced, "old password"⟩

def enrolled : User.Draft := ⟨"Ann Example", "ann", "Ann@example.com", "old password", none⟩

theorem registration_draft : registration.draft = enrolled := by decide +kernel

theorem registering_body :
    (⟨registering, none, none⟩ : Incoming).body Auth.Registration.decode = .ok registration :=
  Token.eq_ok_of_toOption (by decide +kernel)

theorem registering_reaches (s : Server) :
    s.Reaches registering (.fixed .post ["v1", "auth", "register"]) none := by
  have hs : (Http.Target.ofString registering.target).segments? =
      some ["v1".toList, "auth".toList, "register".toList] := by decide +kernel
  have hf : findRoute (routes s.policy) ["v1".toList, "auth".toList, "register".toList] =
      some (path ["v1", "auth", "register"] [(.post, Auth.register)], none) := by
    simp [findRoute, routes, path, named, Route.matchSegments]
  exact reaches_of_segments hs hf rfl

def addressedRow (email : String) : Row :=
  [("id", .uuid account.id), ("full_name", .text account.fullName),
    ("user_name", .text account.userName), ("email", .text email),
    ("password_hash", .text oldHash), ("user_type", .text account.userType.name),
    ("status", .text account.status), ("profile_picture", .null), ("gender", .null),
    ("bio", .null), ("created_at", .timestamp account.createdAt),
    ("updated_at", .timestamp account.updatedAt)]

def addressed (email : String) : User := { hashed oldHash with email }

theorem addressedRow_reads (email : String) :
    firstRow User.ofRow ⟨[addressedRow email], 1⟩ = .ok (some (addressed email)) := rfl

def registered : List Sql.Assignment :=
  enrolled.row .nil (Password.hash (Vector.replicate 16 0) enrolled.password)

def registeringRun : List Step :=
  [.drewId .nil, .drewSalt (Vector.replicate 16 0),
    .asked (.run (.insert User.table registered .returning))
      (.ok ⟨[addressedRow "Ann@example.com"], 1⟩)]

theorem registering_runs : ∃ response,
    (cityServer.handle registering).Runs registeringRun (some response) ∧
      response.status = 201 := by
  have hr := registering_reaches cityServer
  have hmem : (Endpoint.fixed .post ["v1", "auth", "register"], Auth.register) ∈
      endpoints cityServer.policy := by
    simp [endpoints, Route.endpoints, routes, path, named, Endpoint.fixed]
  have hvalid : registration.draft.validate = .ok () :=
    Token.eq_ok_of_toOption (by decide +kernel)
  have hread : (firstRow User.ofRow ⟨[addressedRow "Ann@example.com"], 1⟩).bind atLeastOne =
      .ok (addressed "Ann@example.com") := rfl
  have hruns : (Auth.register ⟨registering, none, none⟩).Runs registeringRun _ :=
    registration_draft ▸ Auth.register_runs registering_body hvalid hread
  exact ⟨_, hr.runs_of_nobody hmem rfl hruns, outer_status _⟩

theorem registering_writes :
    cityServer.Writes .register spaced (.insert User.table registered .returning) := by
  obtain ⟨response, hruns, -⟩ := registering_runs
  exact .request rfl (registering_reaches _) ⟨registration, registering_body, rfl⟩ hruns (.head _)

theorem registered_executes (T : Tables) :
    Executes T (.insert User.table registered .returning) ⟨[addressedRow "Ann@example.com"], 1⟩
      ⟨fun _ => ∅, only User.table {addressedRow "Ann@example.com"}⟩ := by
  refine .insert (fun a ha => ?_) rfl
  simp only [registered, User.Draft.row, List.mem_cons, List.not_mem_nil, or_false] at ha
  rcases ha with rfl | rfl | rfl | rfl | rfl | rfl <;> rfl

theorem registered_found :
    cityServer.Writes .register spaced (.insert User.table registered .returning) ∧
      Seeks (oldEntry.steps signingIn) "ann@example.com" ∧
      Text.Lowering.ascii.Finds "ann@example.com" (addressedRow "Ann@example.com") := by
  have hlogin : cityServer.LogsIn signingIn (oldEntry.steps signingIn) "ann@example.com" := by
    obtain ⟨response, hruns, -⟩ := oldEntry_runs
    exact ⟨⟨_, signingIn_reaches _⟩, ⟨_, oldEntry_allowed.read⟩, _, hruns⟩
  have hseeks : Seeks (oldEntry.steps signingIn) "ann@example.com" := ⟨_, .head _⟩
  have hkept : Desk.register.kept spaced = Text.trim spaced ∧
      Text.Lowering.ascii.key spaced = Text.Lowering.ascii.key "ann@example.com" :=
    ⟨rfl, by decide +kernel⟩
  have hrow : addressedRow "Ann@example.com" ∈
      only User.table {addressedRow "Ann@example.com"} User.table := mem_only.mpr ⟨rfl, rfl⟩
  have hfound := (accounts_by_address .ascii registering_writes).2.1 _ _ _ _
    (registered_executes (fun _ => ∅)) hrow _ _ _ hlogin
  exact ⟨registering_writes, hseeks, (hfound.2 _ hseeks).mpr hkept⟩

theorem own_change_runs {body : Http.Content} {change : User.Change} {answer : Answer} {user : User}
    (hb : (⟨{ changing with body }, none, none⟩ : Incoming).body User.Change.decode = .ok change)
    (hadmitted : Users.admitted (visitor .user) .nil change = .ok ())
    (hr : change.revokesSessions = false)
    (hread : firstRow User.ofRow answer = .ok (some user)) : ∃ response,
    (cityServer.handle { changing with body }).Runs (visitorLead .user ++
        [.asked (.run (change.statement none .nil)) (.ok answer)]) (some response) ∧
      response.status = 200 := by
  have hlead : cityServer.Introduces { changing with body } (visitorLead .user)
      (some (visitor .user)) :=
    introduces_visitor cityServer
      ⟨.put, "/v1/user", [("content-type", "application/json")], body⟩ .user
  have hself : Users.updateSelf ⟨{ changing with body }, some (visitor .user), none⟩ =
      Users.changed .nil change := by
    rw [Users.updateSelf_eq (i := ⟨{ changing with body }, some (visitor .user), none⟩) rfl hb,
      Users.applyChange_eq]
    exact hadmitted ▸ ofExcept_ok_bind ..
  have hruns : (Users.updateSelf ⟨{ changing with body }, some (visitor .user), none⟩).Runs
      [.asked (.run (change.statement none .nil)) (.ok answer)]
      (some (.ok (.json 200 user.toJson))) := hself ▸ Users.changed_runs hr hread
  have hreaches : cityServer.Reaches { changing with body } (.fixed .put ["v1", "user"]) none :=
    changing_reaches cityServer
  exact ⟨_, hreaches.runs_of_caller (updateSelf_mem _) hlead hruns, outer_status _⟩

def readdressing : Http.Request :=
  { changing with body := "\x7b\"email\":\" Ann@example.com\"\x7d" }

def readdressed : User.Change :=
  ⟨none, none, some spaced, none, none, none, none, none, none⟩

theorem readdressing_body :
    (⟨readdressing, none, none⟩ : Incoming).body User.Change.decode = .ok readdressed :=
  Token.eq_ok_of_toOption (by decide +kernel)

theorem readdressing_reaches (s : Server) :
    s.Reaches readdressing (.fixed .put ["v1", "user"]) none := changing_reaches s

def readdressingRun : List Step :=
  visitorLead .user ++
    [.asked (.run (readdressed.statement none .nil)) (.ok ⟨[addressedRow spaced], 1⟩)]

theorem readdressing_runs : ∃ response,
    (cityServer.handle readdressing).Runs readdressingRun (some response) ∧
      response.status = 200 := by
  have hadmitted : Users.admitted (visitor .user) .nil readdressed = .ok () :=
    Token.eq_ok_of_toOption (by decide +kernel)
  exact own_change_runs readdressing_body hadmitted rfl (addressedRow_reads spaced)

theorem readdressing_writes :
    cityServer.Writes .changeSelf spaced (readdressed.statement none .nil) := by
  obtain ⟨response, hruns, -⟩ := readdressing_runs
  exact .request rfl (readdressing_reaches _) ⟨readdressed, readdressing_body, rfl⟩ hruns
    (.tail _ (.head _))

theorem spaced_address_lost :
    (∃ response, (cityServer.handle registering).Runs registeringRun (some response) ∧
        response.status = 201) ∧
      (∃ response, (cityServer.handle readdressing).Runs readdressingRun (some response) ∧
        response.status = 200) ∧
      ∃ put changed assigned assigned',
        cityServer.Writes .register spaced put ∧ cityServer.Writes .changeSelf spaced changed ∧
        put.FillsAccount assigned ∧ changed.FillsAccount assigned' ∧
        assigned.lookup "email" = some (.text "Ann@example.com") ∧
        assigned'.lookup "email" = some (.text " Ann@example.com") ∧
        ∀ (m : Text.Lowering) T answer δ row, Executes T changed answer δ →
          row ∈ δ.come User.table → ∀ r t z, cityServer.LogsIn r t spaced → Seeks t z →
            ¬m.Finds z row := by
  refine ⟨registering_runs, readdressing_runs, _, _, registered, readdressed.assignments none,
    registering_writes, readdressing_writes, ⟨rfl, rfl⟩, ⟨rfl, rfl⟩, rfl, rfl, ?_⟩
  intro m T answer δ row he hrow r t z hlogin hz
  obtain ⟨assigned, hfills, hholds⟩ := he.fills_account hrow
  have hblank : Text.trim spaced ≠ spaced := by decide +kernel
  rw [m.finds_iff (readdressing_writes.address hfills) hholds, hlogin.seeks hz,
    ← Text.Lowering.key, m.lower_eq_key_iff]
  exact fun h => hblank h.1

end Server

end Api

end CityGuide
