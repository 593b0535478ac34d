import CityGuide.Proofs.Api.Failures
import CityGuide.Proofs.Api.PasswordChange
import CityGuide.Proofs.Api.Transactions
import CityGuide.Proofs.Store.Toggled

namespace CityGuide

open Store Store.Action

namespace Follower

def seat (followerId followingId : Uuid) : Seat := ⟨table, keys followerId followingId⟩

variable {followerId followingId : Uuid} {t : List Step}

def turning (followerId followingId : Uuid) : Action Failure (Option Bool) := do
  let removed ← touched (.delete .plain table (keys followerId followingId))
  if removed then pure (some false)
  else do
    let _ ← run (.insert table (keys followerId followingId) .keepExisting)
    pure (some true)

theorem toggle_eq : toggle followerId followingId =
    transaction (turning followerId followingId) >>= fun outcome =>
      pure ⟨followerId, followingId, outcome.getD false⟩ := rfl

theorem course_of_turning {o? : Option (Except Failure (Option Bool))}
    (ht : (turning followerId followingId).Runs t o?) :
    (∃ deed, (seat followerId followingId).Course .begun t (.acted deed) ∧
        o? = some (.ok (some deed.there))) ∨
      (seat followerId followingId).Course .begun t .failed ∧ ∃ f, o? = some (.error f) := by
  rw [turning, touched_eq_ask] at ht
  rcases runs_bind.mp ht with ⟨_, w, removed, rfl, hask, hw⟩ | ⟨f, hask, rfl⟩ | ⟨hask, -⟩
  · obtain ⟨reply, rfl, hreply⟩ := runs_ask.mp hask
    cases reply with
    | error f => simp [Except.bind] at hreply
    | ok a =>
      obtain rfl : decide (a.affected > 0) = removed :=
        (Except.ok.inj (Option.some.inj hreply)).symm
      by_cases ha : a.affected > 0
      · rw [decide_eq_true ha, if_pos rfl, runs_pure] at hw
        obtain ⟨rfl, rfl⟩ := hw
        exact .inl ⟨.removed, .cons (.removed ha) (.nil _), rfl⟩
      · rw [decide_eq_false ha, if_neg (by simp)] at hw
        have hmissed := Seat.Turn.missed (s := seat followerId followingId) (a := a) (by omega)
        rcases runs_send_bind hw with ⟨f, rfl, rfl⟩ | ⟨a', w', rfl, hend⟩
        · exact .inr ⟨.cons hmissed (.cons (.unadded f) (.nil _)), f, rfl⟩
        · obtain ⟨rfl, rfl⟩ := runs_pure.mp hend
          by_cases ha' : 0 < a'.affected
          · exact .inl ⟨.added, .cons hmissed (.cons (.added ha') (.nil _)), rfl⟩
          · exact .inl ⟨.found, .cons hmissed (.cons (.found (by omega)) (.nil _)), rfl⟩
  · obtain ⟨reply, rfl, hreply⟩ := runs_ask.mp hask
    cases reply with
    | error f => exact .inr ⟨.cons (.unremoved f) (.nil _), _, rfl⟩
    | ok a => simp [Except.bind] at hreply
  · obtain ⟨_, -, hreply⟩ := runs_ask.mp hask
    simp at hreply

theorem course_of_toggle {o? : Option (Except Failure Toggle)}
    (ht : (toggle followerId followingId).Runs t o?) :
    (∃ deed, (seat followerId followingId).Course .before t (.done deed) ∧
        o? = some (.ok ⟨followerId, followingId, deed.there⟩)) ∨
      (seat followerId followingId).Course .before t .failed ∧ ∃ f, o? = some (.error f) := by
  rw [toggle_eq] at ht
  obtain ⟨v?, hv, ho⟩ := runs_bind_ofExcept.mp ht
  subst ho
  cases transacted_of_runs hv with
  | unbegun f => exact .inr ⟨.cons (.unbegun f) (.nil _), f, rfl⟩
  | brokenOff hu => rcases course_of_turning hu with ⟨_, -, ho⟩ | ⟨-, _, ho⟩ <;> simp at ho
  | @abandoned answer u o reply hu hne =>
    rcases course_of_turning hu with ⟨_, -, ho⟩ | ⟨hcourse, f, ho⟩
    · exact absurd (Option.some.inj ho) (hne _)
    · obtain rfl := Option.some.inj ho
      exact .inr ⟨.cons (.begun answer) (hcourse.snoc (.rolledBack reply)), f, rfl⟩
  | @uncommitted answer u a f reply hu =>
    rcases course_of_turning hu with ⟨deed, hcourse, -⟩ | ⟨-, _, ho⟩
    · refine .inr ⟨.cons (.begun answer) (hcourse.append ?_), f, rfl⟩
      exact .cons (.uncommitted deed f) (.cons (.rolledBack reply) (.nil _))
    · simp at ho
  | @committed answer answer' u a hu =>
    rcases course_of_turning hu with ⟨deed, hcourse, ho⟩ | ⟨-, _, ho⟩
    · obtain rfl : a = deed.there := by simpa using ho
      exact .inl ⟨deed, .cons (.begun answer) (hcourse.snoc (.committed deed answer')), rfl⟩
    · simp at ho

end Follower

namespace Api

open Handling

variable {followerId followingId : Uuid} {t : List Step}

theorem Follows.course_of_toggle {i : Incoming} {c : Caller}
    {o? : Option (Except Stop Http.Response)} (hc : i.caller? = some c)
    (hb : i.body Follower.Request.decode = .ok ⟨followingId⟩) (ht : (toggle i).Runs t o?) :
    (∃ deed, (Follower.seat c.userId followingId).Course .before t (.done deed) ∧
        o? = some (.ok (.json 200
          (Follower.Toggle.toJson ⟨c.userId, followingId, deed.there⟩)))) ∨
      ∃ stage, (Follower.seat c.userId followingId).Course .before t stage ∧
        (∀ deed, stage ≠ .done deed) ∧ ∃ e, o? = some (.error (.error e)) := by
  rw [toggle, Incoming.caller_eq_ok.mpr hc, hb] at ht
  simp only [read, ofExcept_ok_bind] at ht
  cases hpermitted : c.require .followUsers with
  | error e =>
    rw [hpermitted] at ht
    obtain ⟨rfl, rfl⟩ := runs_ofExcept.mp ht
    exact .inr ⟨_, .nil _, by simp, e, rfl⟩
  | ok =>
    rw [hpermitted] at ht
    by_cases hself : followingId = c.userId
    · change (if followingId = c.userId then _ else _ : Handling Http.Response).Runs t o? at ht
      rw [if_pos hself] at ht
      obtain ⟨rfl, rfl⟩ := runs_ofExcept.mp ht
      exact .inr ⟨_, .nil _, by simp, _, rfl⟩
    · change (if followingId = c.userId then _ else _ : Handling Http.Response).Runs t o? at ht
      rw [if_neg hself] at ht
      obtain ⟨_, hstored, rfl⟩ := runs_bind_ofExcept.mp ht
      obtain ⟨_, hruns, rfl⟩ := runs_mapError.mp hstored
      rcases Follower.course_of_toggle hruns with ⟨deed, hcourse, rfl⟩ | ⟨hcourse, f, rfl⟩
      · exact .inl ⟨deed, hcourse, rfl⟩
      · exact .inr ⟨_, hcourse, by simp, _, rfl⟩

namespace Server

variable {s : Server} {r : Http.Request} {name? : Option (List Char)}

def told (s : Server) (r : Http.Request) (followerId followingId : Uuid) (followed : Bool) :
    Http.Response :=
  s.outer r (.json 200 (Follower.Toggle.toJson ⟨followerId, followingId, followed⟩))

theorem told_inj (hm : r.method ≠ .head) {followed followed' : Bool} :
    s.told r followerId followingId followed = s.told r followerId followingId followed' ↔
      followed = followed' := by
  refine ⟨fun h => ?_, congrArg _⟩
  have hbody := congrArg Http.Response.body h
  simp only [told, outer_body, shown, if_neg hm] at hbody
  simpa [Http.Response.json, Follower.Toggle.toJson] using hbody

theorem Introduces.course {seat : Seat} {lead : List Step} {c? : Option Caller}
    (h : s.Introduces r lead c?) : seat.Course .before lead .before := by
  cases h with
  | nobody => exact .nil _
  | known => exact .cons (.unasked (by simp)) (.cons (.look _ rfl) (.nil _))

theorem course_of_following {v? : Option Http.Response} {c : Caller}
    (hr : s.Reaches r (.fixed .post ["v1", "follower"]) name?)
    (hb : (⟨r, none, none⟩ : Incoming).body Follower.Request.decode = .ok ⟨followingId⟩)
    (ht : (s.handle r).Runs t v?) (hc : caller? t = some c) :
    (∃ deed, (Follower.seat c.userId followingId).Course .before t (.done deed) ∧
        v? = some (s.told r c.userId followingId deed.there)) ∨
      ∃ stage response, (Follower.seat c.userId followingId).Course .before t stage ∧
        (∀ deed, stage ≠ .done deed) ∧ v? = some response ∧ response.status ≠ 200 := by
  have hh : (Endpoint.fixed .post ["v1", "follower"], Follows.toggle) ∈ endpoints s.policy := by
    simp [endpoints, Route.endpoints, routes, path, named, Endpoint.fixed]
  have hclosed : Endpoint.fixed .post ["v1", "follower"] ∉ openEndpoints := by
    simp [openEndpoints, Endpoint.fixed, Endpoint.named]
  obtain ⟨lead, rest, o?, rfl, hlead, ho, rfl⟩ := hr.run_of_caller hh hclosed ht hc
  rcases Follows.course_of_toggle (i := ⟨r, some c, name?⟩) rfl hb ho with
    ⟨deed, hcourse, rfl⟩ | ⟨stage, hcourse, hstage, e, rfl⟩
  · exact .inl ⟨deed, hlead.course.append hcourse, rfl⟩
  · refine .inr ⟨stage, _, hlead.course.append hcourse, hstage, rfl, ?_⟩
    rw [outer_status]
    exact settle_error_status e

end Server

variable {κ : Type} [DecidableEq κ] {s : Server} {requests : κ → Http.Request}
  {w₀ w w' : World κ} {past before after mid : List (κ × Step)} {stage : κ → Seat.Stage} {j k : κ}
  {response response' : Http.Response} {z z' : Answer}

/-- Requests by which one account toggles that it follows another, at some moment of their way
through the store. -/
structure Following (s : Server) (requests : κ → Http.Request) (followerId followingId : Uuid)
    (w₀ : World κ) (past : List (κ × Step)) (w : World κ) : Prop where
  idle : ∀ k, w₀.phase k = .free
  single : ((Follower.seat followerId followingId).rows w₀.tables).Subsingleton
  unfolds : (Follower.seat followerId followingId).Unfolds w₀ past w
  reaches : ∀ k, ∃ name?, s.Reaches (requests k) (.fixed .post ["v1", "follower"]) name?
  body : ∀ k, (⟨requests k, none, none⟩ : Incoming).body Follower.Request.decode =
    .ok ⟨followingId⟩
  running : ∀ k, ∃ t v? c, own k past <+: t ∧ (s.handle (requests k)).Runs t v? ∧
    Server.caller? t = some c ∧ c.userId = followerId

structure Following.Tells (s : Server) (requests : κ → Http.Request) (followerId followingId : Uuid)
    (w₀ : World κ) (past : List (κ × Step)) (w : World κ) : Prop where
  single : ((Follower.seat followerId followingId).rows w.tables).Subsingleton ∧
    ∀ k, ((Follower.seat followerId followingId).rows (w.view k)).Subsingleton
  told : ∀ k response, (s.handle (requests k)).Runs (own k past) (some response) →
    response.status = 200 → ∃ before z after deed,
      past = before ++ (k, .asked .commit (.ok z)) :: after ∧
      response = s.told (requests k) followerId followingId deed.there ∧
      (Seat.Apart past → deed ≠ .found) ∧
      ∀ w₁, (Follower.seat followerId followingId).Unfolds w₀
          (before ++ [(k, .asked .commit (.ok z))]) w₁ →
        (Follower.seat followerId followingId).Ends before w₁ k deed
  first : Seat.Apart past → ∀ before k z after response,
    past = before ++ (k, .asked .commit (.ok z)) :: after → Seat.Uncommitted before →
      (s.handle (requests k)).Runs (own k past) (some response) →
        ∃ followed, response = s.told (requests k) followerId followingId followed ∧
          (followed = true ↔ (Follower.seat followerId followingId).rows w₀.tables = ∅)
  next : Seat.Apart past → ∀ before j z mid k z' after response response',
    past = before ++ (j, .asked .commit (.ok z)) :: (mid ++ (k, .asked .commit (.ok z')) :: after) →
      Seat.Uncommitted mid → (s.handle (requests j)).Runs (own j past) (some response) →
      (s.handle (requests k)).Runs (own k past) (some response') →
        ∃ followed, response = s.told (requests j) followerId followingId followed ∧
          response' = s.told (requests k) followerId followingId !followed

namespace Following

theorem of_append (h : Following s requests followerId followingId w₀ (past ++ after) w)
    (hw : (Follower.seat followerId followingId).Unfolds w₀ past w') :
    Following s requests followerId followingId w₀ past w' where
  idle := h.idle
  single := h.single
  unfolds := hw
  reaches := h.reaches
  body := h.body
  running k := by
    obtain ⟨t, v?, c, hprefix, ht, hc⟩ := h.running k
    rw [own_append] at hprefix
    exact ⟨t, v?, c, (List.prefix_append _ _).trans hprefix, ht, hc⟩

theorem staged (h : Following s requests followerId followingId w₀ past w) :
    ∃ stage, (Follower.seat followerId followingId).Staged w₀ past w stage := by
  refine h.unfolds.staged fun k => ?_
  obtain ⟨t, v?, c, ⟨rest, rfl⟩, ht, hc, rfl⟩ := h.running k
  obtain ⟨name?, hr⟩ := h.reaches k
  rcases Server.course_of_following hr (h.body k) ht hc with
    ⟨deed, hcourse, -⟩ | ⟨stage, _, hcourse, -⟩
  · obtain ⟨mid, hmid, -⟩ := hcourse.split
    exact ⟨mid, hmid⟩
  · obtain ⟨mid, hmid, -⟩ := hcourse.split
    exact ⟨mid, hmid⟩

theorem answered (h : Following s requests followerId followingId w₀ past w)
    (hs : (Follower.seat followerId followingId).Staged w₀ past w stage)
    (hrun : (s.handle (requests k)).Runs (own k past) (some response)) :
    (∃ deed, stage k = .done deed ∧
        response = s.told (requests k) followerId followingId deed.there) ∨
      (∀ deed, stage k ≠ .done deed) ∧ response.status ≠ 200 := by
  obtain ⟨t, v?, c, ⟨rest, rfl⟩, ht, hc, rfl⟩ := h.running k
  obtain ⟨rfl, -⟩ := hrun.unique ht
  rw [List.append_nil] at hc
  obtain ⟨name?, hr⟩ := h.reaches k
  rcases Server.course_of_following hr (h.body k) hrun hc with
    ⟨deed, hcourse, hv⟩ | ⟨c', _, hcourse, hnever, hv, hstatus⟩
  · obtain rfl := Option.some.inj hv
    exact .inl ⟨deed, (hs.course k).unique hcourse, rfl⟩
  · obtain rfl := Option.some.inj hv
    obtain rfl := (hs.course k).unique hcourse
    exact .inr ⟨hnever, hstatus⟩

theorem told_of_done (h : Following s requests followerId followingId w₀ (past ++ after) w)
    {deed : Seat.Deed} (hs : (Follower.seat followerId followingId).Staged w₀ past w' stage)
    (hk : stage k = .done deed)
    (hrun : (s.handle (requests k)).Runs (own k (past ++ after)) (some response)) :
    response = s.told (requests k) followerId followingId deed.there := by
  obtain ⟨stage', hs'⟩ := h.staged
  obtain ⟨c, hbefore, hafter⟩ := (own_append k past after ▸ hs'.course k).split
  obtain rfl := hbefore.unique (hk ▸ hs.course k)
  obtain ⟨-, hdone⟩ := hafter.of_done
  rcases h.answered hs' hrun with ⟨deed', hdeed', rfl⟩ | ⟨hnever, -⟩
  · rw [Seat.Stage.done.inj (hdeed'.symm.trans hdone)]
  · exact absurd hdone (hnever deed)

theorem commits (h : Following s requests followerId followingId w₀ past w)
    (hrun : (s.handle (requests k)).Runs (own k past) (some response))
    (hok : response.status = 200) : ∃ before z after deed,
      past = before ++ (k, .asked .commit (.ok z)) :: after ∧
      response = s.told (requests k) followerId followingId deed.there ∧
      (Seat.Apart past → deed ≠ .found) ∧
      ∀ w₁, (Follower.seat followerId followingId).Unfolds w₀
          (before ++ [(k, .asked .commit (.ok z))]) w₁ →
        (Follower.seat followerId followingId).Ends before w₁ k deed := by
  obtain ⟨stage, hs⟩ := h.staged
  obtain ⟨deed, hdeed, rfl⟩ : ∃ deed, stage k = .done deed ∧
      response = s.told (requests k) followerId followingId deed.there :=
    (h.answered hs hrun).resolve_right fun hno => hno.2 hok
  obtain ⟨lead, z, hown⟩ := (hs.course k).ends_in_commit hdeed
  obtain ⟨before, after, rfl, -, -⟩ := own_eq_append_cons hown
  refine ⟨before, z, after, deed, rfl, rfl, fun hapart => ?_, fun w₁ hw₁ => ?_⟩
  · rintro rfl
    exact ((hs.apart h.idle h.single hapart).1 k).2 hdeed
  · rw [List.append_cons] at h hs
    obtain ⟨stage₁, hs₁⟩ := (h.of_append hw₁).staged
    obtain ⟨deed₁, hdeed₁⟩ := hs₁.done_of_commit (List.mem_append_right _ (.head _))
    obtain ⟨c, hbefore, hafter⟩ := (own_append k _ after ▸ hs.course k).split
    obtain rfl := hbefore.unique (hdeed₁ ▸ hs₁.course k)
    obtain rfl := Seat.Stage.done.inj (hdeed.symm.trans hafter.of_done.2)
    exact hs₁.ends h.idle h.single hdeed₁

theorem first_turns (h : Following s requests followerId followingId w₀ past w)
    (hapart : Seat.Apart past) (hpast : past = before ++ (k, .asked .commit (.ok z)) :: after)
    (hbefore : Seat.Uncommitted before)
    (hrun : (s.handle (requests k)).Runs (own k past) (some response)) :
    ∃ followed, response = s.told (requests k) followerId followingId followed ∧
      (followed = true ↔ (Follower.seat followerId followingId).rows w₀.tables = ∅) := by
  rw [List.append_cons] at hpast
  subst hpast
  obtain ⟨w₁, hw₁⟩ := h.unfolds.before
  obtain ⟨stage, hs⟩ := (h.of_append hw₁).staged
  obtain ⟨deed, hdeed⟩ := hs.done_of_commit (List.mem_append_right before (.head _))
  exact ⟨deed.there, h.told_of_done hs hdeed hrun,
    hs.turns_first h.idle h.single hapart.of_append hbefore hdeed⟩

theorem next_turns (h : Following s requests followerId followingId w₀ past w)
    (hapart : Seat.Apart past)
    (hpast : past = before ++ (j, .asked .commit (.ok z)) ::
      (mid ++ (k, .asked .commit (.ok z')) :: after))
    (hmid : Seat.Uncommitted mid)
    (hrun : (s.handle (requests j)).Runs (own j past) (some response))
    (hrun' : (s.handle (requests k)).Runs (own k past) (some response')) :
    ∃ followed, response = s.told (requests j) followerId followingId followed ∧
      response' = s.told (requests k) followerId followingId !followed := by
  have hsplit : past = (before ++ (j, .asked .commit (.ok z)) :: mid ++
      [(k, .asked .commit (.ok z'))]) ++ after := by simp [hpast]
  subst hsplit
  obtain ⟨w₁, hw₁⟩ := h.unfolds.before
  obtain ⟨stage, hs⟩ := (h.of_append hw₁).staged
  obtain ⟨deed, hdeed⟩ := hs.done_of_commit (j := j) (a := z) (by simp)
  obtain ⟨deed', hdeed'⟩ := hs.done_of_commit (j := k) (a := z') (by simp)
  refine ⟨deed.there, h.told_of_done hs hdeed hrun, ?_⟩
  rw [← hs.alternates h.idle h.single hapart.of_append hmid hdeed hdeed']
  exact h.told_of_done hs hdeed' hrun'

theorem follow_toggles_tell (h : Following s requests followerId followingId w₀ past w) :
    Tells s requests followerId followingId w₀ past w where
  single := by
    obtain ⟨stage, hs⟩ := h.staged
    have hstanding := hs.standing h.idle h.single
    exact ⟨hstanding.single, hstanding.view_single⟩
  told k response hrun hok := h.commits hrun hok
  first hapart before k z after response hpast hbefore hrun :=
    h.first_turns hapart hpast hbefore hrun
  next hapart before j z mid k z' after response response' hpast hmid hrun hrun' :=
    h.next_turns hapart hpast hmid hrun hrun'

end Following

namespace Server

def strangers : World (Fin 3) := ⟨rotatedStart.tables, fun _ => .free, {.nil}⟩

def missing (affected : Nat) : List Step :=
  [.asked .begin (.ok ⟨[], 0⟩),
    .asked (.run (.delete .plain Follower.table (Follower.keys .nil removedId))) (.ok ⟨[], 0⟩),
    .asked (.run (.insert Follower.table (Follower.keys .nil removedId) .keepExisting))
      (.ok ⟨[], affected⟩),
    .asked .commit (.ok ⟨[], 0⟩)]

theorem missing_toggles (affected : Nat) :
    (Follows.toggle ⟨following, some (visitor .user), none⟩).Runs (missing affected)
      (some (.ok (.json 200 (Follower.Toggle.toJson ⟨.nil, removedId, true⟩)))) := by
  have hother : removedId ≠ .nil := by decide +kernel
  rw [Follows.toggle, following_body]
  change Runs (if removedId = Uuid.nil then
      Handling.refuse (.badRequest "cannot follow yourself")
    else do
      let t ← Handling.ofStore (Follower.toggle .nil removedId)
      ok t.toJson) _ _
  rw [if_neg hother]
  exact .send (.send (.send (.send (.done _))))

theorem following_told {t : List Step} {followed : Bool}
    (ht : (Follows.toggle ⟨following, some (visitor .user), none⟩).Runs t
      (some (.ok (.json 200 (Follower.Toggle.toJson ⟨.nil, removedId, followed⟩))))) :
    (cityServer.handle following).Runs (visitorLead .user ++ t)
      (some (cityServer.told following .nil removedId followed)) := by
  have hh : (Endpoint.fixed .post ["v1", "follower"], Follows.toggle) ∈
      endpoints cityServer.policy := by
    simp [endpoints, Route.endpoints, routes, path, named, Endpoint.fixed]
  exact (following_reaches cityServer).runs_of_caller hh (introduces_visitor ..) ht

theorem introduced {seat : Seat} (h : seat.Staged w₀ past w stage) (hk : stage k = .before)
    (hp : w.phase k = .free) (t : UserType) :
    seat.Staged w₀ (past ++ (visitorLead t).map fun x => (k, x)) w stage := by
  have hlooked : w.Moves k (.asked (.run (.activeSession .nil .nil)) (typeReply t)) w :=
    .looked hp (.activeSession .nil .nil _)
  have hremoval (a : Answer) : Step.asked (.run (.activeSession .nil .nil)) (typeReply t) ≠
      .asked (.run seat.removal) (.ok a) := by simp [Seat.removal]
  have haddition (a : Answer) : Step.asked (.run (.activeSession .nil .nil)) (typeReply t) ≠
      .asked (.run seat.addition) (.ok a) := by simp [Seat.addition]
  have hread : seat.Staged w₀ (past ++ [(k, .readClock ⟨0, 0⟩)]) w stage :=
    h.stays (hk ▸ .unasked (by simp)) (.other (by simp) (by simp) (.readClock _))
  have hlook := hread.stays (hk ▸ .look (typeReply t) rfl) (.other hremoval haddition hlooked)
  rwa [List.append_assoc] at hlook

def introductions : List (Fin 3 × Step) :=
  [0, 1, 2].flatMap fun k => (visitorLead .user).map fun x => (k, x)

def overlapping : List (Fin 3 × Step) :=
  introductions ++ (((missing 0).take 2).map fun x => (1, x)) ++
    ((missing 1).map fun x => (0, x)) ++ (((missing 0).drop 2).take 1).map (fun x => (1, x)) ++
    (unfollowing.map fun x => (2, x))

theorem edge_holds :
    Row.Holds [("follower_id", .uuid .nil), ("following_id", .uuid removedId)]
      (Follower.keys .nil removedId) := by
  rw [Row.Holds, Follower.keys, List.forall_mem_cons, List.forall_mem_singleton]
  exact ⟨rfl, rfl⟩

def lastCommit : Fin 3 × Step := (1, .asked .commit (.ok ⟨[], 0⟩))

theorem overlapping_unfolds : ∃ w,
    (Follower.seat .nil removedId).Unfolds strangers (overlapping ++ [lastCommit]) w ∧
      (Follower.seat .nil removedId).rows w.tables = ∅ := by
  have hnone : (Follower.seat .nil removedId).rows strangers.tables = ∅ := by
    refine Set.eq_empty_of_forall_notMem ?_
    rintro row ⟨⟨ht, -⟩ | ⟨ht, -⟩, -⟩
    · exact absurd ht (by decide)
    · exact absurd ht (by decide)
  have hstaged : (Follower.seat .nil removedId).Staged strangers introductions strangers
      fun _ => .before :=
    introduced (introduced (introduced .start rfl rfl .user) rfl rfl .user) rfl rfl .user
  have hplay : (Follower.seat .nil removedId).play (fun _ => .before) false
      [1, 1, 0, 0, 0, 0, 1, 2, 2, 2, 1] =
        some (overlapping.drop 6 ++ [lastCommit], false) := rfl
  obtain ⟨w, hw, hlast⟩ := hstaged.play (fun _ => rfl) (hnone ▸ Set.subsingleton_empty)
    ⟨_, edge_holds⟩ (by simp [hnone]) hplay
  refine ⟨w, hw, Set.not_nonempty_iff_eq_empty.mp fun hrows => ?_⟩
  exact absurd (hlast.mpr hrows) (by decide)

theorem overlapping_following {w : World (Fin 3)}
    (h : (Follower.seat .nil removedId).Unfolds strangers (overlapping ++ [lastCommit]) w) :
    Following cityServer (fun _ => following) .nil removedId strangers (overlapping ++ [lastCommit])
      w where
  idle _ := rfl
  single := by
    rintro row ⟨⟨ht, -⟩ | ⟨ht, -⟩, -⟩
    · exact absurd ht (by decide)
    · exact absurd ht (by decide)
  unfolds := h
  reaches _ := ⟨none, following_reaches cityServer⟩
  body _ := following_body
  running
    | 0 => ⟨_, _, visitor .user, List.prefix_rfl, following_told (missing_toggles 1), rfl, rfl⟩
    | 1 => ⟨_, _, visitor .user, List.prefix_rfl, following_told (missing_toggles 0), rfl, rfl⟩
    | 2 => ⟨_, _, visitor .user, List.prefix_rfl, following_told following_toggles, rfl, rfl⟩

theorem third_tells : ∃ w, Following cityServer (fun _ => following) .nil removedId strangers
      (overlapping ++ [lastCommit]) w ∧
    ((Follower.seat .nil removedId).rows w.tables).Subsingleton ∧
    ∃ before z after, overlapping ++ [lastCommit] = before ++ (2, .asked .commit (.ok z)) :: after ∧
      ∀ w₁, (Follower.seat .nil removedId).Unfolds strangers
          (before ++ [(2, .asked .commit (.ok z))]) w₁ →
        (Follower.seat .nil removedId).rows w₁.tables = ∅ := by
  obtain ⟨w, hw, -⟩ := overlapping_unfolds
  have hfollowing := overlapping_following hw
  have htells := hfollowing.follow_toggles_tell
  obtain ⟨before, z, after, deed, hpast, htold, -, hends⟩ :=
    htells.told 2 _ (following_told following_toggles) (outer_status _)
  have hgone : false = deed.there := (told_inj (by decide)).mp htold
  refine ⟨w, hfollowing, htells.single.1, before, z, after, hpast, fun w₁ hw₁ => ?_⟩
  cases hends w₁ hw₁ with
  | removed hnone => exact hnone
  | added | found => exact absurd hgone (by decide)

theorem edge_found_and_lost : ∃ w, Following cityServer (fun _ => following) .nil removedId strangers
      (overlapping ++ [lastCommit]) w ∧
    (cityServer.handle following).Runs (own 1 (overlapping ++ [lastCommit]))
      (some (cityServer.told following .nil removedId true)) ∧
    (cityServer.told following .nil removedId true).status = 200 ∧
    (Follower.seat .nil removedId).rows w.tables = ∅ := by
  obtain ⟨w, hw, hnone⟩ := overlapping_unfolds
  exact ⟨w, overlapping_following hw, following_told (missing_toggles 0), outer_status _, hnone⟩

end Server

end Api

end CityGuide
