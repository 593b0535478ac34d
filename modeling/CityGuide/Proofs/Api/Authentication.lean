import CityGuide.Proofs.Api.Serving
import CityGuide.Proofs.Store.Sends

namespace CityGuide.Api

open Http (Request Response)
open Store Handling

variable {s : Server} {r : Request} {e : Endpoint} {name? : Option (List Char)} {t : List Step}

def openEndpoints : List Endpoint :=
  [.fixed .get ["healthz"], .fixed .post ["v1", "auth", "register"],
    .fixed .post ["v1", "auth", "login"], .fixed .get ["v1", "business-category", "list"],
    .named .get ["v1", "business-category"], .fixed .get ["v1", "business", "list"],
    .named .get ["v1", "business"], .fixed .get ["v1", "review", "list"],
    .named .get ["v1", "review"], .fixed .get ["v1", "event", "list"],
    .named .get ["v1", "event"],
    ⟨.get, [.fixed "v1", .fixed "event", .name, .fixed "participants"]⟩,
    .fixed .get ["v1", "promotion", "list"], .named .get ["v1", "promotion"]]

def NeedsCaller (h : Handler) : Prop :=
  ∀ i : Incoming, i.caller? = none → h i = refuse .unauthorized

theorem needsCaller_read (k : Incoming → Caller → Handling Response) :
    NeedsCaller fun i => read i.caller >>= k i := by
  intro i hi
  simp only [read, Incoming.caller, hi]
  rfl

theorem endpoints_needCaller {policy : TokenPolicy} {h : Handler}
    (hh : (e, h) ∈ endpoints policy) (he : e ∉ openEndpoints) : NeedsCaller h := by
  have hall : ∀ x ∈ endpoints policy, x.1 ∉ openEndpoints → NeedsCaller x.2 := by
    simp [endpoints, Route.endpoints, routes, path, named, openEndpoints, Endpoint.fixed,
      Endpoint.named]
    and_intros
    all_goals exact needsCaller_read _
  exact hall _ hh he

namespace Server

def lookedUp? : Exchange → Option Caller
  | (.run (.activeSession sessionId userId), reply) =>
      match sessionType reply with
      | .ok (some userType) => some ⟨userId, userType, sessionId⟩
      | _ => none
  | _ => none

def caller? (t : List Step) : Option Caller := (exchanges t).head?.bind lookedUp?

inductive Presents (s : Server) (r : Request) (now : Time.Instant) (sessionId userId : Uuid) : Prop
  | intro {raw : String} {claims : Token.Claims}
      (header : r.headerText? "authorization" = some ("Bearer " ++ raw))
      (verified : Token.verify s.policy.secret now (Text.trim raw) = .ok claims)
      (account : Uuid.ofText? claims.sub = some userId)
      (session : Uuid.ofText? claims.jti = some sessionId)

inductive Introduces (s : Server) (r : Request) : List Step → Option Caller → Prop
  | nobody (hb : bearer? r = none) : Introduces s r [] none
  | known {now : Time.Instant} {sessionId userId : Uuid} {reply : Reply} {userType : UserType}
      (presented : s.Presents r now sessionId userId)
      (row : sessionType reply = .ok (some userType)) :
      Introduces s r [.readClock now, .asked (.run (.activeSession sessionId userId)) reply]
        (some ⟨userId, userType, sessionId⟩)

inductive TurnsAway (s : Server) (r : Request) : List Step → Nat → Prop
  | unnamed (now : Time.Instant) : TurnsAway s r [.readClock now] 401
  | revoked {now : Time.Instant} {sessionId userId : Uuid} {reply : Reply}
      (presented : s.Presents r now sessionId userId) (row : sessionType reply = .ok none) :
      TurnsAway s r [.readClock now, .asked (.run (.activeSession sessionId userId)) reply] 401
  | unsure {now : Time.Instant} {sessionId userId : Uuid} {reply : Reply} {f : Failure}
      (presented : s.Presents r now sessionId userId) (row : sessionType reply = .error f) :
      TurnsAway s r [.readClock now, .asked (.run (.activeSession sessionId userId)) reply] 503

theorem toList_bearer (raw : String) : ("Bearer " ++ raw).toList = bearerLead ++ raw.toList :=
  String.toList_append ..

theorem bearer?_eq_some {token : String} :
    bearer? r = some token ↔
      ∃ raw, r.headerText? "authorization" = some ("Bearer " ++ raw) ∧ token = Text.trim raw := by
  simp only [bearer?, Option.bind_eq_some_iff]
  constructor
  · rintro ⟨text, htext, h⟩
    split at h
    · rename_i hlead
      refine ⟨String.ofList (text.toList.drop bearerLead.length), ?_, (Option.some.inj h).symm⟩
      have hsplit := List.take_append_drop bearerLead.length text.toList
      rw [hlead] at hsplit
      have heq : text = "Bearer " ++ String.ofList (text.toList.drop bearerLead.length) := by
        rw [← String.toList_inj, toList_bearer, String.toList_ofList, hsplit]
      rw [htext, ← heq]
    · simp at h
  · rintro ⟨raw, htext, rfl⟩
    refine ⟨_, htext, ?_⟩
    simp only [toList_bearer, List.take_left, List.drop_left, if_true, String.ofList_toList]

theorem named?_eq_some {now : Time.Instant} {token : String} {sessionId userId : Uuid} :
    s.named? now token = some (sessionId, userId) ↔
      ∃ claims, Token.verify s.policy.secret now token = .ok claims ∧
        Uuid.ofText? claims.sub = some userId ∧ Uuid.ofText? claims.jti = some sessionId := by
  cases hv : Token.verify s.policy.secret now token with
  | error e => simp [named?, hv]
  | ok claims =>
    simp only [named?, hv, identifiers?]
    cases hs : Uuid.ofText? claims.sub <;> cases hj : Uuid.ofText? claims.jti <;>
      simp [hs, hj, and_comm, eq_comm]

theorem presents_of_named {now : Time.Instant} {token : String} {sessionId userId : Uuid}
    (hb : bearer? r = some token) (hn : s.named? now token = some (sessionId, userId)) :
    s.Presents r now sessionId userId := by
  obtain ⟨raw, header, rfl⟩ := bearer?_eq_some.mp hb
  obtain ⟨claims, verified, account, session⟩ := named?_eq_some.mp hn
  exact .intro header verified account session

theorem Authentication.introduces {token : String} {c : Caller} (hb : bearer? r = some token)
    (ha : Authentication s token t (.ok c)) : s.Introduces r t (some c) := by
  generalize ho : Except.ok c = o at ha
  cases ha with
  | unnamed => simp at ho
  | looked reply hn =>
    rcases hrow : sessionType reply with f | _ | userType <;>
      simp only [hrow, sessionCaller, reduceCtorEq, Except.ok.injEq] at ho
    exact ho ▸ .known (presents_of_named hb hn) hrow

theorem Authentication.turnsAway {token : String} {response : Response}
    (hb : bearer? r = some token) (ha : Authentication s token t (.error response)) :
    s.TurnsAway r t response.status := by
  generalize ho : Except.error response = o at ha
  cases ha with
  | unnamed =>
    obtain rfl := Except.error.inj ho
    exact .unnamed _
  | looked reply hn =>
    rcases hrow : sessionType reply with f | _ | userType <;>
      simp only [hrow, sessionCaller, reduceCtorEq, Except.error.injEq] at ho
    · exact ho ▸ .unsure (presents_of_named hb hn) hrow
    · exact ho ▸ .revoked (presents_of_named hb hn) hrow

theorem not_served_options {policy : TokenPolicy} {h : Handler} (hh : (e, h) ∈ endpoints policy) :
    e.method ≠ .options := by
  have hall : ∀ x ∈ endpoints policy, x.1.method ≠ .options := by
    simp [endpoints, Route.endpoints, routes, path, named]
  exact hall _ hh

theorem Reaches.method_eq (hr : s.Reaches r e name?) : e.method = served r.method := by
  obtain ⟨h, hh⟩ := hr
  obtain ⟨_, -, hmap⟩ := Option.bind_eq_some_iff.mp hh
  obtain ⟨_, -, hkey⟩ := Option.map_eq_some_iff.mp hmap
  exact congrArg Endpoint.method (Prod.mk.inj hkey).1.symm

theorem Reaches.not_options (hr : s.Reaches r e name?) : r.method ≠ .options := by
  have hm := hr.method_eq
  obtain ⟨h, hh⟩ := hr
  intro ho
  exact not_served_options (serving?_mem hh) (by rw [hm, ho]; rfl)

theorem Reaches.runs_cases {h : Handler} {v? : Option Response} (hr : s.Reaches r e name?)
    (hh : (e, h) ∈ endpoints s.policy) (ht : (s.handle r).Runs t v?) :
    (∃ lead rest c? o?, t = lead ++ rest ∧ s.Introduces r lead c? ∧
        (h ⟨r, c?, name?⟩).Runs rest o? ∧
        v? = o?.map fun o => s.outer r (settle Stop.response o)) ∨
      ∃ response, v? = some response ∧ s.TurnsAway r t response.status := by
  obtain ⟨w?, hw, rfl⟩ := runs_handle.mp ht
  cases hw with
  | preflight hm => exact absurd hm hr.not_options
  | anonymous _ hb hd =>
    rw [hr.dispatch_eq hh] at hd
    obtain ⟨o?, ho, rfl⟩ := runs_respond.mp hd
    exact .inl ⟨[], t, none, o?, rfl, .nobody hb, ho, by rw [Option.map_map]; rfl⟩
  | turnedAway _ hb ha => exact .inr ⟨_, rfl, by rw [outer_status]; exact ha.turnsAway hb⟩
  | known _ hb ha hd =>
    rw [hr.dispatch_eq hh] at hd
    obtain ⟨o?, ho, rfl⟩ := runs_respond.mp hd
    exact .inl ⟨_, _, _, o?, rfl, ha.introduces hb, ho, by rw [Option.map_map]; rfl⟩

theorem Introduces.sends {lead : List Step} {c? : Option Caller} (h : s.Introduces r lead c?) :
    ∀ x ∈ exchanges lead, ∃ sessionId userId, x.1 = .run (.activeSession sessionId userId) := by
  cases h with
  | nobody => simp
  | known => simp

theorem TurnsAway.sends {status : Nat} (h : s.TurnsAway r t status) :
    ∀ x ∈ exchanges t, ∃ sessionId userId, x.1 = .run (.activeSession sessionId userId) := by
  cases h <;> simp

def Vouches (s : Server) (r : Request) (t : List Step) (c : Caller) : Prop :=
  ∃ lead rest, t = lead ++ rest ∧ s.Introduces r lead (some c)

theorem Introduces.caller? {lead rest : List Step} {c : Caller} (h : s.Introduces r lead (some c)) :
    caller? (lead ++ rest) = some c := by
  cases h with
  | known presented row => simp [Server.caller?, lookedUp?, row]

theorem Vouches.caller? {c : Caller} (h : s.Vouches r t c) : caller? t = some c := by
  obtain ⟨lead, rest, rfl, hlead⟩ := h
  exact hlead.caller?

theorem TurnsAway.caller? {status : Nat} (h : s.TurnsAway r t status) : caller? t = none := by
  cases h with
  | unnamed => rfl
  | revoked presented row => simp [Server.caller?, lookedUp?, row]
  | unsure presented row => simp [Server.caller?, lookedUp?, row]

theorem Reaches.run_of_caller {h : Handler} {v? : Option Response} {c : Caller}
    (hr : s.Reaches r e name?) (hh : (e, h) ∈ endpoints s.policy) (he : e ∉ openEndpoints)
    (ht : (s.handle r).Runs t v?) (hc : caller? t = some c) :
    ∃ lead rest o?, t = lead ++ rest ∧ s.Introduces r lead (some c) ∧
      (h ⟨r, some c, name?⟩).Runs rest o? ∧
      v? = o?.map fun o => s.outer r (settle Stop.response o) := by
  rcases hr.runs_cases hh ht with ⟨lead, rest, c?, o?, rfl, hlead, ho, rfl⟩ | ⟨_, -, hturned⟩
  · cases c? with
    | some d =>
      obtain rfl := Option.some.inj (hlead.caller?.symm.trans hc)
      exact ⟨lead, rest, o?, rfl, hlead, ho, rfl⟩
    | none =>
      cases hlead
      rw [endpoints_needCaller hh he _ rfl, refuse, Action.runs_ofExcept] at ho
      obtain ⟨rfl, -⟩ := ho
      simp [Server.caller?] at hc
  · rw [hturned.caller?] at hc
    simp at hc

theorem Introduces.authentication {lead : List Step} {c : Caller}
    (h : s.Introduces r lead (some c)) :
    ∃ token, bearer? r = some token ∧ Authentication s token lead (.ok c) := by
  cases h with
  | @known now sessionId userId reply userType presented row =>
    obtain ⟨header, verified, account, session⟩ := presented
    refine ⟨_, bearer?_eq_some.mpr ⟨_, header, rfl⟩, ?_⟩
    have hlooked :=
      Authentication.looked reply (named?_eq_some.mpr ⟨_, verified, account, session⟩)
    rwa [row] at hlooked

theorem Reaches.runs_of_caller {h : Handler} {lead rest : List Step} {c : Caller}
    {o? : Option (Except Stop Response)} (hr : s.Reaches r e name?)
    (hh : (e, h) ∈ endpoints s.policy) (hlead : s.Introduces r lead (some c))
    (ho : (h ⟨r, some c, name?⟩).Runs rest o?) :
    (s.handle r).Runs (lead ++ rest) (o?.map fun o => s.outer r (settle Stop.response o)) := by
  obtain ⟨token, hb, ha⟩ := hlead.authentication
  have hd : (s.dispatch r (some c)).Runs rest (o?.map (settle Stop.response)) := by
    rw [hr.dispatch_eq hh]
    exact runs_respond.mpr ⟨o?, ho, rfl⟩
  exact runs_handle.mpr ⟨_, .known hr.not_options hb ha hd, by rw [Option.map_map]; rfl⟩

theorem Reaches.runs_of_nobody {h : Handler} {o? : Option (Except Stop Response)}
    (hr : s.Reaches r e name?) (hh : (e, h) ∈ endpoints s.policy) (hb : bearer? r = none)
    (ho : (h ⟨r, none, name?⟩).Runs t o?) :
    (s.handle r).Runs t (o?.map fun o => s.outer r (settle Stop.response o)) := by
  have hd : (s.dispatch r none).Runs t (o?.map (settle Stop.response)) := by
    rw [hr.dispatch_eq hh]
    exact runs_respond.mpr ⟨o?, ho, rfl⟩
  exact runs_handle.mpr ⟨_, .anonymous hr.not_options hb hd, by rw [Option.map_map]; rfl⟩

theorem Reaches.sends_of_caller {h : Handler} {v? : Option Response} {c : Caller}
    {S : Command → Prop} (hr : s.Reaches r e name?) (hh : (e, h) ∈ endpoints s.policy)
    (he : e ∉ openEndpoints) (ht : (s.handle r).Runs t v?) (hc : caller? t = some c)
    (hS : Action.Sends S (h ⟨r, some c, name?⟩)) {x : Exchange} (hx : x ∈ exchanges t) :
    (∃ sessionId userId, x.1 = .run (.activeSession sessionId userId)) ∨ S x.1 := by
  obtain ⟨lead, rest, o?, rfl, hlead, ho, -⟩ := hr.run_of_caller hh he ht hc
  rcases List.mem_append.mp (exchanges_append lead rest ▸ hx) with hx | hx
  · exact .inl (hlead.sends x hx)
  · exact .inr (hS rest o? ho x hx)

theorem protected_fails_closed {v? : Option Response} (hr : s.Reaches r e name?)
    (he : e ∉ openEndpoints) (ht : (s.handle r).Runs t v?) (hc : ¬∃ c, s.Vouches r t c) :
    ∃ response, v? = some response ∧
      ((exchanges t = [] ∧ response.status = 401) ∨
        ∃ now sessionId userId reply, s.Presents r now sessionId userId ∧
          t = [.readClock now, .asked (.run (.activeSession sessionId userId)) reply] ∧
          ((sessionType reply = .ok none ∧ response.status = 401) ∨
            ((∃ f, sessionType reply = .error f) ∧ response.status = 503))) := by
  obtain ⟨h, hh⟩ := hr
  have hmem := serving?_mem hh
  rcases Reaches.runs_cases ⟨h, hh⟩ hmem ht with
    ⟨lead, rest, c?, o?, rfl, hlead, ho, rfl⟩ | ⟨response, rfl, hturned⟩
  · cases c? with
    | some c => exact absurd ⟨c, lead, rest, rfl, hlead⟩ hc
    | none =>
      cases hlead
      rw [endpoints_needCaller hmem he _ rfl, refuse, Action.runs_ofExcept] at ho
      obtain ⟨rfl, rfl⟩ := ho
      exact ⟨_, rfl, .inl ⟨rfl, outer_status _⟩⟩
  · refine ⟨response, rfl, ?_⟩
    generalize hstatus : response.status = status at hturned
    cases hturned with
    | unnamed => exact .inl ⟨rfl, rfl⟩
    | revoked presented row => exact .inr ⟨_, _, _, _, presented, rfl, .inl ⟨row, rfl⟩⟩
    | unsure presented row => exact .inr ⟨_, _, _, _, presented, rfl, .inr ⟨⟨_, row⟩, rfl⟩⟩

theorem Reaches.runs_anonymous (hr : s.Reaches r e name?) (he : e ∉ openEndpoints)
    (hb : bearer? r = none) :
    (s.handle r).Runs [] (some (s.outer r (Stop.response (.error .unauthorized)))) := by
  obtain ⟨h, hh⟩ := hr
  have hmem := serving?_mem hh
  refine runs_handle.mpr
    ⟨some _, .anonymous (Reaches.not_options ⟨h, hh⟩) hb ?_, (Option.map_some ..).symm⟩
  rw [dispatch_of_serving hh]
  refine runs_respond.mpr ⟨some (.error (.error .unauthorized)), ?_, rfl⟩
  rw [endpoints_needCaller hmem he _ rfl, refuse, Action.runs_ofExcept]
  exact ⟨rfl, rfl⟩

def headerless : Request := ⟨.get, "/v1/user/list", [], ""⟩

theorem headerless_reaches (s : Server) :
    s.Reaches headerless (.fixed .get ["v1", "user", "list"]) none :=
  ⟨Users.list, by
    simp [headerless, serving?, routeOf, Http.Target.ofString, Text.cutOnce,
      Http.Target.segments?, Text.splitOn, findRoute, routes, path, named, Route.matchSegments,
      Route.handler?, served, Endpoint.fixed]⟩

theorem headerless_fails_closed :
    ∃ response, ((⟨⟨[], 0⟩, .anyone, 30⟩ : Server).handle headerless).Runs [] (some response) ∧
      response.status = 401 := by
  have hr := headerless_reaches ⟨⟨[], 0⟩, .anyone, 30⟩
  have he : Endpoint.fixed .get ["v1", "user", "list"] ∉ openEndpoints := by
    simp [openEndpoints, Endpoint.fixed, Endpoint.named]
  have hrun := hr.runs_anonymous he rfl
  have hunvouched : ¬∃ c, Vouches ⟨⟨[], 0⟩, .anyone, 30⟩ headerless [] c := by
    rintro ⟨c, lead, rest, -, hlead⟩
    cases hlead with
    | known presented => cases presented with
      | intro header => simp [headerless, Request.headerText?, Request.header?] at header
  obtain ⟨response, hsome, hstatus | ⟨_, _, _, _, _, h, _⟩⟩ :=
    protected_fails_closed hr he hrun hunvouched
  · obtain rfl := Option.some.inj hsome
    exact ⟨_, hrun, hstatus.2⟩
  · simp at h

end Server

end CityGuide.Api
