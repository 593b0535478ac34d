import CityGuide.Proofs.Account.ReadableClaims
import CityGuide.Proofs.Api.Failures
import CityGuide.Proofs.Api.PasswordChange
import CityGuide.Proofs.Api.Transactions

namespace CityGuide.Api

open Http (Request Response Body)
open Store Store.Action Handling

variable {t : List Step}

theorem Stop.Proper.le_status {stop : Stop} (h : stop.Proper) : 400 ≤ stop.response.status := by
  cases stop with
  | error e => exact Stop.le_status e
  | unreadable status => exact Stop.le_status_of_unreadable ⟨status, h status rfl, rfl⟩

namespace Auth

variable {policy : TokenPolicy}

theorem issued_eq_ok {user : User} {now expiresAt : Time.Instant} {made : Reply}
    {response : Response} (h : issued policy user now expiresAt made = .ok response) :
    ∃ session, made.bind (firstRow Session.ofRow) = .ok (some session) ∧
      response = .json 200
        (Token.issue policy.secret user.id user.userType session.id now expiresAt).toJson := by
  rcases made with f | answer
  · simp [issued, Except.bind, Except.mapError] at h
  · rcases hrow : firstRow Session.ofRow answer with f | _ | session <;>
      simp only [issued, Except.bind, hrow, Except.mapError, atLeastOne, reduceCtorEq,
        Except.ok.injEq] at h
    exact ⟨session, hrow, h.symm⟩

theorem login_served {i : Incoming} {response : Response}
    (ht : (login policy i).Runs t (some (.ok response))) :
    ∃ (e : Entry) (session : Session), e.Allowed i.request ∧ t = e.steps i.request ∧
      Token.expiresAt policy.lifetime e.now = some e.expiresAt ∧
      e.made.bind (firstRow Session.ofRow) = .ok (some session) ∧
      response = .json 200 (Token.issue policy.secret e.user.id e.user.userType session.id e.now
        e.expiresAt).toJson := by
  rcases login_course ht with ⟨-, hfails⟩ | ⟨e, hallowed, rfl, hexpires, ho⟩
  · exact absurd rfl (hfails response)
  · obtain ⟨session, hmade, rfl⟩ := issued_eq_ok (Option.some.inj ho).symm
    exact ⟨e, session, hallowed, rfl, hexpires, hmade, rfl⟩

end Auth

namespace Server

open Auth

variable {s : Server} {r : Request} {claims : Token.Claims} {sessionId userId : Uuid}

structure Honours (s : Server) (token : String) (claims : Token.Claims) (sessionId userId : Uuid) :
    Prop where
  verified : ∀ now : Time.Instant, now.seconds ≤ claims.exp →
    Token.verify s.policy.secret now token = .ok claims
  looked : ∀ (r : Request) (t : List Step) (v? : Option Response), r.method ≠ .options →
    r.header? "authorization" = some ("Bearer " ++ token) → (s.handle r).Runs t v? →
      ∃ now rest, t = .readClock now :: rest ∧ (now.seconds ≤ claims.exp →
        ∃ reply more, rest = .asked (.run (.activeSession sessionId userId)) reply :: more)

theorem Authentication.looks {token : String} {o : Except Response Caller}
    (h : Authentication s token t o) : ∃ now rest, t = .readClock now :: rest ∧
      (s.named? now token = some (sessionId, userId) →
        ∃ reply, rest = [.asked (.run (.activeSession sessionId userId)) reply]) := by
  cases h with
  | @unnamed now hnone =>
    refine ⟨now, [], rfl, fun hsome => ?_⟩
    simp [hnone] at hsome
  | @looked now sessionId' userId' reply hnamed =>
    refine ⟨now, _, rfl, fun hsome => ⟨reply, ?_⟩⟩
    obtain ⟨rfl, rfl⟩ := Prod.mk.inj (Option.some.inj (hnamed.symm.trans hsome))
    rfl

theorem honours_signed (hr : claims.ReadsBack) (hexp : 0 ≤ claims.exp)
    (hiss : claims.iss = Token.issuer) (hsub : claims.sub = userId.text)
    (hjti : claims.jti = sessionId.text) :
    s.Honours (String.ofList (Token.encode s.policy.secret claims)) claims sessionId userId := by
  have hverified : ∀ now : Time.Instant, now.seconds ≤ claims.exp → Token.verify s.policy.secret now
      (String.ofList (Token.encode s.policy.secret claims)) = .ok claims := by
    intro now hnow
    have hleeway : now.seconds - Token.leeway ≤ claims.exp := by
      simp only [Token.leeway]
      omega
    exact Token.verify_encode hr.claims hr.registered hexp hleeway hiss
  have hnamed (now : Time.Instant) (hnow : now.seconds ≤ claims.exp) : s.named? now
      (String.ofList (Token.encode s.policy.secret claims)) = some (sessionId, userId) :=
    named?_eq_some.mpr ⟨claims, hverified now hnow, by rw [hsub, Uuid.ofText?_text],
      by rw [hjti, Uuid.ofText?_text]⟩
  refine ⟨hverified, fun r t v? hm hheader ht => ?_⟩
  have hbearer := bearer?_signed hheader
  obtain ⟨_, hw, -⟩ := runs_handle.mp ht
  cases hw with
  | preflight h => exact absurd h hm
  | anonymous _ hb => simp [hbearer] at hb
  | turnedAway _ hb ha =>
    obtain rfl := Option.some.inj (hbearer.symm.trans hb)
    obtain ⟨now, rest, rfl, hlooks⟩ := ha.looks
    refine ⟨now, rest, rfl, fun hnow => ?_⟩
    obtain ⟨reply, rfl⟩ := hlooks (hnamed now hnow)
    exact ⟨reply, [], rfl⟩
  | @known _ _ _ u _ _ hb ha _ =>
    obtain rfl := Option.some.inj (hbearer.symm.trans hb)
    obtain ⟨now, rest, rfl, hlooks⟩ := ha.looks
    refine ⟨now, rest ++ u, rfl, fun hnow => ?_⟩
    obtain ⟨reply, rfl⟩ := hlooks (hnamed now hnow)
    exact ⟨reply, u, rfl⟩

theorem login_honoured {name? : Option (List Char)} {response : Response}
    (hr : s.Reaches r (.fixed .post ["v1", "auth", "login"]) name?)
    (ht : (s.handle r).Runs t (some response)) (hstatus : response.status = 200) :
    ∃ (lead : List Step) (e : Entry) (session : Session) (token : Token.Issued)
      (claims : Token.Claims),
      t = lead ++ e.steps r ∧ e.Allowed r ∧
      e.made.bind (firstRow Session.ofRow) = .ok (some session) ∧
      response.body = .json token.toJson ∧
      claims.iss = "locali" ∧ claims.sub = e.user.id.text ∧ claims.jti = session.id.text ∧
      claims.userType = e.user.userType ∧ claims.iat = e.now.seconds ∧
      (e.now.OnClock → token.expiresIn = claims.exp - claims.iat ∧
        token.expiresIn = s.policy.lifetime.toNat ∧
        s.Honours token.accessToken claims session.id e.user.id) := by
  have hshown (b : Body) : shown r b = b := by
    have hmethod : Http.Method.post = served r.method := hr.method_eq
    refine if_neg fun hhead => ?_
    simp [hhead, served] at hmethod
  rcases hr.runs_cases (login_mem _) ht with
    ⟨lead, rest, c?, o?, rfl, -, ho, hv⟩ | ⟨_, hv, hturned⟩
  · obtain ⟨o, rfl, rfl⟩ := Option.map_eq_some_iff.mp hv.symm
    rw [outer_status] at hstatus
    cases o with
    | error stop =>
      have htalks := (Auth.login_serves trivial s.policy).talks ⟨r, c?, name?⟩
      have hproper : stop.Proper := by
        cases htalks.answered ho with
        | stopped h => exact h
      have hle := hproper.le_status
      simp only [settle] at hstatus
      omega
    | ok answer =>
      obtain ⟨e, session, hallowed, rfl, hexpires, hmade, rfl⟩ := login_served ho
      refine ⟨lead, e, session,
        Token.issue s.policy.secret e.user.id e.user.userType session.id e.now e.expiresAt,
        Token.claimsFor e.user.id e.user.userType session.id e.now e.expiresAt, rfl, hallowed,
        hmade, ?_, rfl, rfl, rfl, rfl, rfl, fun hnow => ?_⟩
      · rw [outer_body, hshown]
        rfl
      · obtain ⟨hreads, hexp⟩ :=
          Token.claimsFor_readsBack hnow hexpires e.user.id session.id e.user.userType
        have hspan : e.expiresAt.seconds - e.now.seconds = s.policy.lifetime.toNat := by
          rw [(Token.expiresAt_eq_some hexpires).1]
          omega
        have hlifetime := Token.issue_expiresIn hnow hexpires s.policy.secret e.user.id session.id
          e.user.userType
        exact ⟨hlifetime.trans hspan.symm, hlifetime, honours_signed hreads hexp rfl rfl rfl⟩
  · obtain rfl := Option.some.inj hv
    have hle := hturned.le_status
    omega

theorem oldEntry_honoured : ∃ (response : Response) (token : Token.Issued) (claims : Token.Claims)
    (sessionId userId : Uuid),
    (cityServer.handle signingIn).Runs (oldEntry.steps signingIn) (some response) ∧
      response.body = .json token.toJson ∧ token.expiresIn = 3600 ∧
      cityServer.Honours token.accessToken claims sessionId userId := by
  obtain ⟨response, hruns, hstatus⟩ := oldEntry_runs
  obtain ⟨lead, e, session, token, claims, hsteps, -, -, hbody, -, -, -, -, -, hhonours⟩ :=
    login_honoured (signingIn_reaches cityServer) hruns hstatus
  have hnow : e.now = ⟨0, 0⟩ := by
    have hmem : .readClock e.now ∈ oldEntry.steps signingIn := hsteps ▸ by simp [Entry.steps]
    simpa [Entry.steps, Entry.look, Entry.insertion, oldEntry] using hmem
  obtain ⟨-, hlifetime, hhonours⟩ := hhonours (hnow ▸ ⟨by decide, by decide⟩)
  exact ⟨response, token, claims, _, _, hruns, hbody, hlifetime, hhonours⟩

end Server

end CityGuide.Api
