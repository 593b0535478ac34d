import CityGuide.Proofs.Api.Endpoints
import CityGuide.Proofs.Store.Actions

namespace CityGuide.Api

open Http (Request Response)
open Store

variable {s : Server} {r : Request} {t : List Step}

def settle {α : Type} (f : α → Response) : Except α Response → Response
  | .ok response => response
  | .error e => f e

namespace Server

theorem settled_eq {α : Type} (f : α → Response) (p : Program (Except α Response)) :
    settled f p = p.bind fun o => .done (settle f o) := by
  change (p.bind fun o => _) = _
  congr 1
  funext o
  cases o <;> rfl

theorem runs_respond {h : Handler} {i : Incoming} {v? : Option Response} :
    (respond h i).Runs t v? ↔ ∃ o?, (h i).Runs t o? ∧ v? = o?.map (settle Stop.response) := by
  rw [respond, settled_eq]
  exact Program.runs_map

def named? (s : Server) (now : Time.Instant) (token : String) : Option (Uuid × Uuid) :=
  match Token.verify s.policy.secret now token with
  | .ok claims => identifiers? claims
  | .error _ => none

def sessionType (reply : Reply) : Except Failure (Option UserType) :=
  reply.bind (Action.firstRow fun row => row.first User.readType)

def sessionCaller (sessionId userId : Uuid) : Except Failure (Option UserType) →
    Except Response Caller
  | .ok (some userType) => .ok ⟨userId, userType, sessionId⟩
  | .ok none => .error (invalidToken "token has been revoked")
  | .error _ => .error (refused 503 "unable to verify token status")

inductive Authentication (s : Server) (token : String) :
    List Step → Except Response Caller → Prop
  | unnamed {now : Time.Instant} (h : s.named? now token = none) :
      Authentication s token [.readClock now] (.error (invalidToken "invalid token"))
  | looked {now : Time.Instant} {sessionId userId : Uuid} (reply : Reply)
      (h : s.named? now token = some (sessionId, userId)) :
      Authentication s token
        [.readClock now, .asked (.run (.activeSession sessionId userId)) reply]
        (sessionCaller sessionId userId (sessionType reply))

def authenticateAt (s : Server) (token : String) (now : Time.Instant) : Action Response Caller :=
  match s.named? now token with
  | none => Action.ofExcept (.error (invalidToken "invalid token"))
  | some (sessionId, userId) => do
      let o ← Action.lift (ExceptT.run (Session.activeUserType sessionId userId))
      Action.ofExcept (sessionCaller sessionId userId o)

theorem authenticate_eq (s : Server) (token : String) :
    s.authenticate token = Action.now >>= s.authenticateAt token := by
  simp only [authenticate]
  congr 1
  funext now
  simp only [authenticateAt, named?]
  cases Token.verify s.policy.secret now token with
  | error e => rfl
  | ok claims =>
    simp only
    cases identifiers? claims with
    | none => rfl
    | some ids =>
      obtain ⟨sessionId, userId⟩ := ids
      refine congrArg (_ >>= ·) (funext fun o => ?_)
      rcases o with e | _ | userType <;> rfl

theorem runs_authenticateAt {token : String} {now : Time.Instant}
    {o? : Option (Except Response Caller)} :
    (s.authenticateAt token now).Runs t o? ↔
      ∃ o, o? = some o ∧ Authentication s token (.readClock now :: t) o := by
  cases hn : s.named? now token with
  | none =>
    simp only [authenticateAt, hn, Action.runs_ofExcept]
    constructor
    · rintro ⟨rfl, rfl⟩
      exact ⟨_, rfl, .unnamed hn⟩
    · rintro ⟨o, rfl, h⟩
      cases h with
      | unnamed => exact ⟨rfl, rfl⟩
      | looked reply h => simp [hn] at h
  | some ids =>
    obtain ⟨sessionId, userId⟩ := ids
    simp only [authenticateAt, hn, Action.runs_attempt_bind, Session.activeUserType,
      Action.optional_eq_ask, Action.runs_ask, Action.runs_ofExcept]
    constructor
    · rintro (⟨_, _, x, rfl, ⟨reply, rfl, hx⟩, rfl, rfl⟩ | ⟨⟨reply, -, hx⟩, -⟩)
      · obtain rfl := Option.some.inj hx
        exact ⟨_, rfl, .looked reply hn⟩
      · simp at hx
    · rintro ⟨o, rfl, h⟩
      cases h with
      | unnamed h => simp [hn] at h
      | looked reply h =>
        obtain ⟨rfl, rfl⟩ := Prod.mk.inj (Option.some.inj (hn.symm.trans h))
        exact .inl ⟨_, [], _, by simp, ⟨reply, rfl, rfl⟩, rfl, rfl⟩

theorem runs_authenticate {token : String} {o? : Option (Except Response Caller)} :
    (s.authenticate token).Runs t o? ↔ ∃ o, o? = some o ∧ Authentication s token t o := by
  rw [authenticate_eq]
  change (Program.clock _).Runs t o? ↔ _
  rw [Program.runs_clock]
  constructor
  · rintro ⟨now, u, rfl, h⟩
    exact runs_authenticateAt.mp h
  · rintro ⟨o, rfl, h⟩
    have ⟨now, u, ht⟩ : ∃ now u, t = .readClock now :: u := by
      cases h <;> exact ⟨_, _, rfl⟩
    subst ht
    exact ⟨now, u, rfl, runs_authenticateAt.mpr ⟨o, rfl, h⟩⟩

inductive Answers (s : Server) (r : Request) : List Step → Option Response → Prop
  | preflight (hm : r.method = .options) : Answers s r [] (some (s.cors.preflight r))
  | anonymous {t : List Step} {v? : Option Response} (hm : r.method ≠ .options)
      (hb : bearer? r = none) (hd : (s.dispatch r none).Runs t v?) : Answers s r t v?
  | turnedAway {token : String} {t : List Step} {response : Response} (hm : r.method ≠ .options)
      (hb : bearer? r = some token) (ha : Authentication s token t (.error response)) :
      Answers s r t (some response)
  | known {token : String} {caller : Caller} {t u : List Step} {v? : Option Response}
      (hm : r.method ≠ .options) (hb : bearer? r = some token)
      (ha : Authentication s token t (.ok caller)) (hd : (s.dispatch r (some caller)).Runs u v?) :
      Answers s r (t ++ u) v?

def outer (s : Server) (r : Request) (response : Response) : Response :=
  s.finished r (if r.method = .options then response else s.cors.allowOrigin r response)

theorem outer_of_options (hm : r.method = .options) : s.outer r = s.finished r := by
  funext response
  rw [outer, if_pos hm]

theorem outer_of_not_options (hm : r.method ≠ .options) :
    s.outer r = s.finished r ∘ s.cors.allowOrigin r := by
  funext response
  rw [outer, if_neg hm, Function.comp]

theorem runs_identified {v? : Option Response} (hm : r.method ≠ .options) :
    (s.identified r).Runs t v? ↔ s.Answers r t v? := by
  cases hb : bearer? r with
  | none =>
    simp only [identified, hb]
    constructor
    · exact .anonymous hm hb
    · intro h
      cases h with
      | preflight h => exact absurd h hm
      | anonymous _ _ h => exact h
      | turnedAway _ h | known _ h => simp [hb] at h
  | some token =>
    simp only [identified, hb]
    change (Program.bind (ExceptT.run (s.authenticate token)) _).Runs t v? ↔ _
    rw [Program.runs_bind]
    constructor
    · rintro (⟨u, w, o, rfl, hu, hw⟩ | ⟨h, -⟩)
      · obtain ⟨_, ho, ha⟩ := runs_authenticate.mp hu
        obtain rfl := Option.some.inj ho
        cases o with
        | ok caller => exact .known hm hb ha hw
        | error response =>
          obtain ⟨rfl, rfl⟩ := Program.runs_done.mp hw
          simpa using Answers.turnedAway hm hb ha
      · obtain ⟨_, ho, -⟩ := runs_authenticate.mp h
        simp at ho
    · intro h
      cases h with
      | preflight h => exact absurd h hm
      | anonymous _ h => simp [hb] at h
      | turnedAway _ h ha =>
        obtain rfl := Option.some.inj (hb.symm.trans h)
        exact .inl ⟨t, [], _, by simp, runs_authenticate.mpr ⟨_, rfl, ha⟩, .done _⟩
      | known _ h ha hd =>
        obtain rfl := Option.some.inj (hb.symm.trans h)
        exact .inl ⟨_, _, _, rfl, runs_authenticate.mpr ⟨_, rfl, ha⟩, hd⟩

theorem runs_handle {v? : Option Response} :
    (s.handle r).Runs t v? ↔ ∃ w?, s.Answers r t w? ∧ v? = w?.map (s.outer r) := by
  change (Program.bind (s.shared r) fun response => .done (s.finished r response)).Runs t v? ↔ _
  rw [Program.runs_map]
  by_cases hm : r.method = .options
  · simp only [shared, if_pos hm, outer_of_options hm]
    constructor
    · rintro ⟨_, hw, rfl⟩
      obtain ⟨rfl, rfl⟩ := Program.runs_done.mp hw
      exact ⟨_, .preflight hm, rfl⟩
    · rintro ⟨_, hw, rfl⟩
      cases hw with
      | preflight => exact ⟨_, .done _, rfl⟩
      | anonymous h | turnedAway h | known h => exact absurd hm h
  · simp only [shared, if_neg hm, outer_of_not_options hm]
    change (∃ w?, (Program.bind (s.identified r) fun x => .done (s.cors.allowOrigin r x)).Runs t w?
      ∧ _) ↔ _
    simp only [Program.runs_map, runs_identified hm]
    constructor
    · rintro ⟨_, ⟨w?, hw, rfl⟩, rfl⟩
      exact ⟨w?, hw, Option.map_map ..⟩
    · rintro ⟨w?, hw, rfl⟩
      exact ⟨_, ⟨w?, hw, rfl⟩, (Option.map_map ..).symm⟩

theorem allowOrigin_status (c : Http.Cors) (response : Response) :
    (c.allowOrigin r response).status = response.status := by
  simp only [Http.Cors.allowOrigin]
  split <;> rfl

theorem withDefault_status (response : Response) (name value : String) :
    (response.withDefault name value).status = response.status := by
  simp only [Response.withDefault]
  split <;> rfl

theorem finished_status (response : Response) :
    (s.finished r response).status = response.status := by
  have h : ∀ x : Response, (if r.method = .head then { x with body := .empty } else x).status
      = x.status := fun x => by split <;> rfl
  rw [finished, h]
  split
  · split
    · rfl
    · exact withDefault_status ..
  · rfl

theorem outer_status (response : Response) : (s.outer r response).status = response.status := by
  rw [outer, finished_status]
  split
  · rfl
  · exact allowOrigin_status ..

end Server

end CityGuide.Api
