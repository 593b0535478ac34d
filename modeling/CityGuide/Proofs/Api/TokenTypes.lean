import CityGuide.Proofs.Account.ReadableClaims
import CityGuide.Proofs.Api.Composition
import CityGuide.Proofs.Api.Escalation

namespace CityGuide.Api

open Http (Request Response)
open Store

structure Retokened (r r' : Request) : Prop where
  method : r.method = r'.method
  target : r.target = r'.target
  body : r.body = r'.body
  headers : ∀ name, name ≠ "authorization" → r.header? name = r'.header? name

namespace Retokened

variable {s : Server} {r r' : Request}

theorem headerText? (h : Retokened r r') {name : String} (hn : name ≠ "authorization") :
    r.headerText? name = r'.headerText? name := by
  rw [Request.headerText?, Request.headerText?, h.headers name hn]

theorem same (h : Retokened r r') (c? : Option Caller) (name? : Option (List Char)) :
    Incoming.Same True ⟨r, c?, name?⟩ ⟨r', c?, name?⟩ where
  caller := rfl
  name := rfl
  target := h.target
  agent := h.headerText? (by decide)
  body dec _ := by
    have hn : "content-type" ≠ "authorization" := by decide
    simp only [Incoming.body, h.body, h.headerText? hn]

theorem dispatch (h : Retokened r r') (c? : Option Caller) : s.dispatch r c? = s.dispatch r' c? := by
  have hserving : s.serving? r' = s.serving? r := by
    rw [Server.serving?, Server.serving?, h.target, h.method]
  cases hs : s.serving? r with
  | none =>
    simp only [Server.dispatch, ← h.target, ← h.method]
    cases hroute : routeOf s.policy r.target with
    | none => rfl
    | some found =>
      have hk : found.1.handler? r.method = none := by
        simpa [Server.serving?, hroute] using hs
      simp only [hk]
  | some found =>
    obtain ⟨e, handler, name?⟩ := found
    have hhandler := endpoints_serve (Server.serving?_mem hs) fun _ => trivial
    rw [Server.dispatch_of_serving hs, Server.dispatch_of_serving (hserving.trans hs),
      Server.respond, Server.respond, hhandler.congr (h.same c? name?)]

theorem outer (h : Retokened r r') : s.outer r = s.outer r' := by
  funext response
  simp only [Server.outer, Server.finished, Http.Cors.allowOrigin, h.method, h.target,
    h.headers "origin" (by decide)]

end Retokened

namespace Server

variable {s : Server} {r r' : Request}

def answeredAt (s : Server) (r : Request) (token : String) (now : Time.Instant) :
    Program Response :=
  ((ExceptT.run (s.authenticateAt token now)).bind fun
    | .ok caller => s.dispatch r (some caller)
    | .error response => .done response).bind fun response => .done (s.outer r response)

theorem handle_of_bearer {token : String} (hm : r.method ≠ .options)
    (hb : bearer? r = some token) : s.handle r = .clock (s.answeredAt r token) := by
  have hidentified : s.identified r = .clock fun now =>
      (ExceptT.run (s.authenticateAt token now)).bind fun
        | .ok caller => s.dispatch r (some caller)
        | .error response => .done response := by
    simp only [identified, hb, authenticate_eq]
    rfl
  change Program.bind (s.shared r) _ = _
  simp only [shared, if_neg hm]
  change Program.bind (Program.bind (s.identified r) _) _ = _
  rw [hidentified, Program.bind_assoc]
  refine congrArg Program.clock (funext fun now => ?_)
  simp only [answeredAt, outer, if_neg hm]
  rfl

theorem handle_of_options (hm : r.method = .options) :
    s.handle r = .done (s.outer r (s.cors.preflight r)) := by
  change Program.bind (s.shared r) _ = _
  simp only [shared, if_pos hm, outer]
  rfl

theorem named?_congr {now now' : Time.Instant} {token token' : String}
    {claims claims' : Token.Claims} (hv : Token.verify s.policy.secret now token = .ok claims)
    (hv' : Token.verify s.policy.secret now' token' = .ok claims') (hsub : claims.sub = claims'.sub)
    (hjti : claims.jti = claims'.jti) : s.named? now token = s.named? now' token' := by
  simp only [named?, hv, hv', identifiers?, hsub, hjti]

theorem answeredAt_congr {now now' : Time.Instant} {token token' : String} (h : Retokened r r')
    (hn : s.named? now token = s.named? now' token') :
    s.answeredAt r token now = s.answeredAt r' token' now' := by
  have hdispatch (c? : Option Caller) : s.dispatch r c? = s.dispatch r' c? := h.dispatch c?
  have hauthenticate : s.authenticateAt token now = s.authenticateAt token' now' := by
    simp only [authenticateAt, hn]
  simp only [answeredAt, hauthenticate, hdispatch, h.outer]

theorem token_type_idle {now now' : Time.Instant} {token token' : String}
    {claims claims' : Token.Claims} (h : Retokened r r') (hb : bearer? r = some token)
    (hb' : bearer? r' = some token') (hv : Token.verify s.policy.secret now token = .ok claims)
    (hv' : Token.verify s.policy.secret now' token' = .ok claims') (hsub : claims.sub = claims'.sub)
    (hjti : claims.jti = claims'.jti) (v? : Option Response) :
    (∀ rest, (s.handle r).Runs (.readClock now :: rest) v? ↔
      (s.handle r').Runs (.readClock now' :: rest) v?) ∧
    ((s.handle r).Runs [] v? ↔ (s.handle r').Runs [] v?) ∧
    ∀ t, (s.handle r).Runs t v? → t = [] ∨ ∃ i rest, t = .readClock i :: rest := by
  by_cases hm : r.method = .options
  · have hpreflight : s.cors.preflight r = s.cors.preflight r' := by
      simp only [Http.Cors.preflight, Http.Cors.allowOrigin, h.headers "origin" (by decide)]
    rw [handle_of_options hm, handle_of_options (h.method ▸ hm), ← h.outer, hpreflight]
    exact ⟨fun rest => by simp, Iff.rfl, fun t ht => .inl (Program.runs_done.mp ht).1⟩
  · have heq := answeredAt_congr h (named?_congr hv hv' hsub hjti)
    rw [handle_of_bearer hm hb, handle_of_bearer (h.method ▸ hm) hb']
    refine ⟨fun rest => by simp [heq], by simp, fun t ht => .inr ?_⟩
    obtain ⟨i, rest, rfl, -⟩ := Program.runs_clock.mp ht
    exact ⟨i, rest, rfl⟩

def boastfulClaims : Token.Claims := Token.claimsFor .nil .admin .nil ⟨60, 0⟩ ⟨7200, 0⟩

def boasting : Request :=
  carrying [] boastfulClaims ⟨.delete, "/v1/user/11111111-1111-1111-1111-111111111111", [], ""⟩

theorem removing_refused : ∃ response,
    ((⟨⟨[], 0⟩, .anyone, 30⟩ : Server).handle removing).Runs (visitorLead .user) (some response) ∧
      response.status = 403 := by
  have hh : (Endpoint.named .delete ["v1", "user"], Users.delete) ∈ endpoints ⟨[], 0⟩ := by
    simp [endpoints, Route.endpoints, routes, path, named, Endpoint.named]
  have hlead : Introduces ⟨⟨[], 0⟩, .anyone, 30⟩ removing (visitorLead .user) (some (visitor .user)) :=
    introduces_visitor ..
  have hid : (⟨removing, some (visitor .user), some removedName⟩ : Incoming).id = .ok removedId := by
    have hadmin := removing_id
    simp only [Incoming.id] at hadmin ⊢
    exact hadmin
  have hother : (visitor .user).requireOwner removedId =
      .error (.forbidden "not the owner of this resource") :=
    Caller.requireOwner_other (by decide) (by decide +kernel)
  have hdelete : (Users.delete ⟨removing, some (visitor .user), some removedName⟩).Runs []
      (some (.error (.error (.forbidden "not the owner of this resource")))) := by
    have hcaller : (⟨removing, some (visitor .user), some removedName⟩ : Incoming).caller =
        .ok (visitor .user) := rfl
    simp only [Users.delete, hcaller, hid, read, Action.ofExcept_ok_bind, Handling.ofResult, hother]
    exact .done _
  have hruns := (removing_reaches ⟨⟨[], 0⟩, .anyone, 30⟩).runs_of_caller hh hlead hdelete
  rw [List.append_nil] at hruns
  refine ⟨_, hruns, ?_⟩
  rw [outer_status]
  rfl

theorem boasting_refused : ∃ response,
    ((⟨⟨[], 0⟩, .anyone, 30⟩ : Server).handle boasting).Runs
      [.readClock ⟨7000, 0⟩, .asked (.run (.activeSession .nil .nil)) (typeReply .user)]
      (some response) ∧ response.status = 403 := by
  obtain ⟨response, hruns, hstatus⟩ := removing_refused
  have hretokened : Retokened removing boasting :=
    ⟨rfl, rfl, rfl, fun name hn => by
      simp [Request.header?, removing, boasting, carrying, hn.symm]⟩
  have hreads : boastfulClaims.ReadsBack :=
    Token.Claims.readsBack ⟨by decide, by decide⟩ ⟨by decide, by decide⟩
  have hverified : Token.verify [] ⟨7000, 0⟩ (String.ofList (Token.encode [] boastfulClaims)) =
      .ok boastfulClaims :=
    Token.verify_encode hreads.claims hreads.registered (by decide) (by decide) rfl
  have hvisitor : Token.verify [] ⟨0, 0⟩ (String.ofList (Token.encode [] visitorClaims)) =
      .ok visitorClaims :=
    Token.verify_encode visitorClaims_readsBack.claims visitorClaims_readsBack.registered (by decide)
      (by decide) rfl
  obtain ⟨hsame, -, -⟩ := token_type_idle (s := ⟨⟨[], 0⟩, .anyone, 30⟩) hretokened
    (bearer?_carrying ..) (bearer?_carrying ..) hvisitor hverified rfl rfl (some response)
  exact ⟨response, (hsame _).mp hruns, hstatus⟩

end Server

end CityGuide.Api
