import CityGuide.Proofs.Api.Parallel
import CityGuide.Proofs.Store.Breaking

namespace CityGuide

namespace Store

def Command.isListed : Command → Bool
  | .run (.select s) => s.isListed
  | _ => false

end Store

namespace Api

open Http (Request Response Body)
open Store Store.Action Handling

variable {personal : Prop} {α : Type} {t : List Step}

def errorJson (why : String) : Json := .record [("error", .text why)]

def codeAnswer : String → Response
  | "23505" => .json 409 (errorJson "conflict: resource already exists")
  | "23503" => .json 400 (errorJson "bad request: invalid reference to a related resource")
  | "23514" => .json 400 (errorJson "bad request: value out of allowed range")
  | _ => .json 500 (errorJson "internal server error")

def failureAnswer (code : String) : Command → Response
  | .run (.activeSession _ _) => .json 503 (errorJson "unable to verify token status")
  | .run .probe => .json 503 (healthJson "unhealthy" false)
  | .run (.select s) =>
      if s.isListed then .json 500 (errorJson "internal server error") else codeAnswer code
  | _ => codeAnswer code

theorem codeAnswer_eq (code : String) :
    codeAnswer code = Stop.response (.error (.ofFailure (.refused code))) := by
  fun_cases codeAnswer code with
  | case1 | case2 | case3 => rfl
  | case4 _ hunique hforeign hcheck =>
    have hother : Violation.ofCode code = .other := by
      rw [Violation.ofCode] <;> assumption
    simp only [Stop.response, Error.ofFailure, Failure.violation, hother]
    rfl

theorem failureAnswer_plain {c : Command} (hc : c.isPlain = true) (code : String) :
    failureAnswer code c = Stop.response (.error (.ofFailure (.refused code))) := by
  rw [← codeAnswer_eq]
  cases c with
  | run st =>
    cases st with
    | activeSession | probe => simp [Command.isPlain, Sql.Statement.isPlain] at hc
    | select s =>
      have hlisted : s.isListed = false := by simpa [Command.isPlain, Sql.Statement.isPlain] using hc
      simp [failureAnswer, hlisted]
    | _ => rfl
  | _ => rfl

theorem failureAnswer_listed {c : Command} (hc : c.isListed = true) (code : String) :
    failureAnswer code c = Stop.response (.error .database) := by
  cases c with
  | run st =>
    cases st with
    | select s => exact if_pos hc
    | _ => simp [Command.isListed] at hc
  | _ => simp [Command.isListed] at hc

def Concludes (a : Handling Response) : Prop :=
  Program.Breaks True (fun c f o => ∀ code, f = .refused code →
    settle Stop.response o = failureAnswer code c) (ExceptT.run a)

namespace Concludes

variable {E : Command → Failure → Stop → Prop}

theorem bind {a : Handling α} {k : α → Handling Response} (ha : Action.Breaks True E a)
    (hE : ∀ c f stop, E c f stop → ∀ code, f = .refused code →
      stop.response = failureAnswer code c) (hk : ∀ x, Concludes (k x)) : Concludes (a >>= k) := by
  refine Program.Breaks.bind ha (fun o => ?_) ?_
  · cases o with
    | error e => exact .done _
    | ok x => exact hk x
  · rintro c f _ ⟨e, rfl, he⟩
    exact ⟨.error e, rfl, hE c f e he⟩

theorem gate {r : Except Stop α} {k : α → Handling Response} (hk : ∀ x, Concludes (k x)) :
    Concludes (Action.ofExcept r >>= k) :=
  bind (E := fun _ _ _ => False) (.ofExcept r) (fun _ _ _ h => h.elim) hk

end Concludes

def Unlisted (c : Command) (_ : Failure) (u : ListFailure) : Prop :=
  c.isListed = true ∧ listError u = .database

theorem fetchPage_breaks {source : Listing.Source} {base : Sql.Select} {read : Row → Option α}
    (request : Listing.Request) : Action.Breaks True Unlisted (fetchPage source base read request) := by
  have hpass {β : Type} {a : Action Failure β} {c : Command} (hc : c.isListed = true)
      (h : Action.Breaks True (Breaks.Passing (· = c)) a) :
      Action.Breaks True Unlisted (a.mapError ListFailure.store) :=
    h.mapError fun d f e hd => ⟨hd.1 ▸ hc, rfl⟩
  cases hcompiled : source.compile base request with
  | error u =>
    simp only [fetchPage, hcompiled]
    exact .ofExcept _
  | ok compiled =>
    obtain ⟨p, order, -, -, rfl⟩ := Listing.Source.compile_eq_ok.mp hcompiled
    simp only [fetchPage, hcompiled, Except.mapError, ofExcept_ok_bind, all_eq_ask, one_eq_ask]
    refine .bind (hpass rfl (.ask rfl)) fun items => ?_
    exact .bind (hpass rfl (.ask rfl)) fun n => .ofExcept _

theorem Talks.concludes {a : Handling Response} (h : Talks personal a) : Concludes a := by
  induction h with
  | answer _ => exact .done _
  | stop _ => exact .done _
  | gate _ _ ih => exact .gate ih
  | stored ha _ ih =>
    refine .bind (E := fun c f stop => c.isPlain = true ∧ stop = .error (.ofFailure f))
      (ha.breaks.mapError fun c f e he => ⟨he.1, by rw [he.2]⟩) ?_ ih
    rintro c _ _ ⟨hc, rfl⟩ code rfl
    exact (failureAnswer_plain hc code).symm
  | listed _ _ _ ih =>
    refine .bind (E := fun c _ stop => c.isListed = true ∧ stop = .error .database)
      ((fetchPage_breaks _).mapError fun c f u hu => ⟨hu.1, by rw [hu.2]⟩) ?_ ih
    rintro c _ _ ⟨hc, rfl⟩ code rfl
    exact (failureAnswer_listed hc code).symm
  | now _ ih => exact .bind (E := fun _ _ _ => False) .now (fun _ _ _ h => h.elim) ih
  | crash => exact Program.Breaks.bind (X := fun _ _ _ => False) .crash (fun _ => .done _) fun _ _ _ h => h.elim
  | probed i =>
    refine Program.Breaks.send (fun _ f => .done ?_) fun reply => ?_
    · intro code _
      rfl
    · cases reply <;> exact .done _

inductive Answered : Except Stop Response → Prop
  | served {status : Nat} {j : Json} (h : status ∈ [200, 201, 503]) :
      Answered (.ok (.json status j))
  | stopped {stop : Stop} (h : stop.Proper) : Answered (.error stop)

theorem Talks.answered {a : Handling Response} (h : Talks personal a) {o : Except Stop Response}
    (ht : a.Runs t (some o)) : Answered o := by
  induction h generalizing t with
  | answer hstatus =>
    obtain ⟨-, ho⟩ := runs_pure.mp ht
    obtain rfl := Option.some.inj ho
    exact .served (by rcases hstatus with rfl | rfl <;> decide)
  | stop hproper =>
    obtain ⟨-, ho⟩ := runs_ofExcept.mp ht
    obtain rfl := Option.some.inj ho
    exact .stopped hproper
  | @gate _ r k hr _ ih =>
    cases r with
    | error stop =>
      obtain ⟨-, ho⟩ := runs_ofExcept.mp ht
      obtain rfl := Option.some.inj ho
      exact .stopped (hr _ rfl)
    | ok x => exact ih x ht
  | stored _ _ ih | listed _ _ _ ih =>
    rcases runs_bind.mp ht with ⟨_, _, x, -, -, hw⟩ | ⟨stop, hstop, ho⟩ | ⟨-, ho⟩
    · exact ih x hw
    · obtain rfl := Option.some.inj ho
      obtain ⟨v?, -, hv⟩ := runs_mapError.mp hstop
      rcases v? with _ | e | x
      · simp at hv
      · obtain rfl := Except.error.inj (Option.some.inj hv)
        exact .stopped (Stop.proper_error _)
      · simp [Except.mapError] at hv
    · simp at ho
  | now _ ih =>
    obtain ⟨now, _, -, hw⟩ := Auth.runs_now_bind.mp ht
    exact ih now hw
  | crash =>
    obtain ⟨_, hv, ho⟩ := runs_lift.mp ht
    obtain ⟨-, rfl⟩ := Program.runs_crash.mp hv
    simp at ho
  | probed i =>
    obtain ⟨reply, _, -, hw⟩ := runs_attempt_send_bind ht
    cases reply with
    | error f | ok answer =>
      obtain ⟨-, ho⟩ := runs_pure.mp hw
      obtain rfl := Option.some.inj ho
      exact .served (by decide)

def Sealed (response : Response) : Prop :=
  response.status = 500 → response.body = .json (errorJson "internal server error")

theorem Stop.Proper.sealed {stop : Stop} (h : stop.Proper) : Sealed stop.response := by
  intro hstatus
  cases stop with
  | error e =>
    change Body.json (errorJson e.message) = _
    rw [e.message_of_status hstatus]
  | unreadable status =>
    have hlisted : ∀ status ∈ unreadableStatuses, status ≠ 500 := by decide
    exact absurd hstatus (hlisted status (h status rfl))

theorem Answered.sealed {o : Except Stop Response} (h : Answered o) :
    Sealed (settle Stop.response o) := by
  cases h with
  | @served status j hs =>
    have hlisted : ∀ status ∈ [200, 201, 503], status ≠ 500 := by decide
    exact fun hstatus => absurd hstatus (hlisted status hs)
  | stopped hproper => exact hproper.sealed

namespace Server

variable {s : Server} {r : Request}

theorem dispatch_breaks (s : Server) (r : Request) (c? : Option Caller) :
    Program.Breaks True (fun c f response => ∀ code, f = .refused code →
      response = failureAnswer code c) (s.dispatch r c?) := by
  cases hs : s.serving? r with
  | none =>
    obtain ⟨response, hd⟩ := dispatch_of_not_serving hs
    rw [hd]
    exact .done _
  | some found =>
    obtain ⟨e, handler, name?⟩ := found
    have htalks : Talks True (handler ⟨r, c?, name?⟩) :=
      (endpoints_serve (serving?_mem hs) fun _ => trivial).talks _
    rw [dispatch_of_serving hs, respond, settled_eq]
    exact .bind htalks.concludes (fun _ => .done _) fun c f o ho => ⟨_, rfl, ho⟩

theorem authenticate_breaks (s : Server) (token : String) :
    Action.Breaks True (fun c f response => ∀ code, f = .refused code →
      response = failureAnswer code c) (s.authenticate token) := by
  rw [authenticate_eq]
  refine .bind .now fun now => ?_
  rw [authenticateAt]
  split
  · exact .ofExcept _
  · rename_i sessionId userId _
    have hlook : Action.Breaks False (Breaks.Passing (· = .run (.activeSession sessionId userId)))
        (Session.activeUserType sessionId userId) := by
      rw [Session.activeUserType, optional_eq_ask]
      exact .ask rfl
    refine .attempt hlook (fun _ => .ofExcept _) ?_
    rintro _ f _ ⟨rfl, rfl⟩
    exact .done ⟨_, rfl, fun code _ => rfl⟩

inductive Dispatched : Response → Prop
  | handled {o : Except Stop Response} (h : Answered o) : Dispatched (settle Stop.response o)
  | unserved : Dispatched (.bare 405)

theorem dispatched_of_runs {c? : Option Caller} {response : Response}
    (ht : (s.dispatch r c?).Runs t (some response)) : Dispatched response := by
  cases hroute : routeOf s.policy r.target with
  | none =>
    simp only [dispatch, hroute] at ht
    obtain rfl := Option.some.inj (Program.runs_done.mp ht).2
    exact .handled (.stopped (Stop.proper_error .notFound))
  | some found =>
    obtain ⟨route, name?⟩ := found
    cases hk : route.handler? r.method with
    | none =>
      simp only [dispatch, hroute, hk] at ht
      obtain rfl := Option.some.inj (Program.runs_done.mp ht).2
      exact .unserved
    | some handler =>
      have hs : s.serving? r = some (⟨served r.method, route.pattern⟩, handler, name?) := by
        simp [serving?, hroute, hk]
      have htalks : Talks True (handler ⟨r, c?, name?⟩) :=
        (endpoints_serve (serving?_mem hs) fun _ => trivial).talks _
      rw [dispatch_of_serving hs] at ht
      obtain ⟨o?, ho, hv⟩ := runs_respond.mp ht
      obtain ⟨o, rfl, rfl⟩ := Option.map_eq_some_iff.mp hv.symm
      exact .handled (htalks.answered ho)

theorem Dispatched.sealed {response : Response} (h : Dispatched response) : Sealed response := by
  cases h with
  | handled h => exact h.sealed
  | unserved => exact fun hstatus => absurd hstatus (by decide)

theorem Answers.sealed {response : Response} (h : s.Answers r t (some response)) :
    Sealed response := by
  cases h with
  | preflight =>
    have hstatus : (s.cors.preflight r).status = 200 := by
      simp only [Http.Cors.preflight, Response.withHeader, allowOrigin_status]
      rfl
    exact fun h => absurd (hstatus.symm.trans h) (by decide)
  | anonymous _ _ hd => exact (dispatched_of_runs hd).sealed
  | turnedAway _ hb ha =>
    intro hstatus
    have hturned := ha.turnsAway hb
    rw [hstatus] at hturned
    cases hturned
  | known _ _ _ hd => exact (dispatched_of_runs hd).sealed

def shown (r : Request) (b : Body) : Body := if r.method = .head then .empty else b

theorem outer_body (response : Response) : (s.outer r response).body = shown r response.body := by
  have hallow : (s.cors.allowOrigin r response).body = response.body := by
    simp only [Http.Cors.allowOrigin]
    split <;> rfl
  have hdefault (x : Response) (name value : String) : (x.withDefault name value).body = x.body := by
    simp only [Response.withDefault]
    split <;> rfl
  have hfinished (x : Response) : (s.finished r x).body = shown r x.body := by
    by_cases hm : r.method = .head
    · simp only [finished, shown, if_pos hm]
    · simp only [finished, shown, if_neg hm]
      split
      · split
        · rfl
        · exact hdefault ..
      · rfl
  rw [outer, hfinished]
  split
  · rfl
  · rw [hallow]

theorem handle_breaks (s : Server) (r : Request) :
    Program.Breaks True (fun c f response => ∀ code, f = .refused code →
      response = s.outer r (failureAnswer code c)) (s.handle r) := by
  by_cases hm : r.method = .options
  · change Program.Breaks True _ (Program.bind (s.shared r) _)
    simp only [shared, if_pos hm]
    exact .done _
  · have hidentified : Program.Breaks True (fun c f response => ∀ code, f = .refused code →
        response = failureAnswer code c) (s.identified r) := by
      rw [identified]
      split
      · exact dispatch_breaks s r none
      · refine Program.Breaks.bind (authenticate_breaks s _) (fun o => ?_) ?_
        · cases o with
          | error response => exact .done _
          | ok caller => exact dispatch_breaks s r _
        · rintro c f _ ⟨response, rfl, h⟩
          exact ⟨response, rfl, h⟩
    change Program.Breaks True _ (Program.bind (s.shared r) _)
    simp only [shared, if_neg hm, outer_of_not_options hm]
    refine Program.Breaks.bind (X := fun c f response => ∀ code, f = .refused code →
      response = s.cors.allowOrigin r (failureAnswer code c)) ?_ (fun _ => .done _) ?_
    · refine Program.Breaks.bind hidentified (fun _ => .done _) fun c f response h =>
        ⟨_, rfl, fun code hf => ?_⟩
      rw [h code hf]
    · intro c f response h
      refine ⟨_, rfl, fun code hf => ?_⟩
      rw [h code hf, Function.comp]

end Server

def Illegible (c : Command) (row : Row) : Prop :=
  ∀ st, c = .run st → ∀ {β : Type} {read : Row → Option β}, Reads True st read → read row = none

def classes : Likeness where
  commands := Eq
  failures f f' := f.violation = f'.violation
  rows c row row' := row = row' ∨ Illegible c row ∧ Illegible c row'

theorem classes_faithful : classes.Faithful True where
  commands _ := rfl
  failures _ := rfl
  rows hread hrow := by
    rcases hrow with rfl | ⟨h, h'⟩
    · rfl
    · rw [h _ rfl hread, h' _ rfl hread]

theorem classes_indistinct : Indistinct classes := by
  intro f f' (h : f.violation = f'.violation)
  rw [Error.ofFailure, Error.ofFailure, h]

namespace Server

variable {s : Server} {r : Request} {v? : Option Response}

theorem handle_classes (s : Server) (r : Request) :
    Program.Parallel classes Eq (s.handle r) (s.handle r) := by
  refine handle_parallel classes_faithful fun c? => dispatch_parallel ?_
  intro e h name? hs
  exact Talks.parallel classes_faithful classes_indistinct
    ((endpoints_serve (serving?_mem hs) fun _ => trivial).talks _)

theorem failures_by_class (ht : (s.handle r).Runs t v?) :
    (∀ before c code after, t = before ++ .asked c (.error (.refused code)) :: after →
      c ≠ .rollback → Undoes after ∧ ∃ response, v? = some response ∧
        response.status = (failureAnswer code c).status ∧
        response.body = shown r (failureAnswer code c).body) ∧
    (∀ response, v? = some response → response.status = 500 →
      response.body = shown r (.json (errorJson "internal server error"))) ∧
    ∀ t' v?', (s.handle r).Runs t' v?' → classes.World t t' →
      v? = v?' ∧ List.Forall₂ classes.Steps t t' := by
  refine ⟨?_, ?_, ?_⟩
  · rintro before c code after rfl hc
    obtain ⟨hundoes, response, rfl, hresponse⟩ := (handle_breaks s r).runs ht hc
    refine ⟨hundoes, response, rfl, ?_⟩
    rw [hresponse code rfl, outer_status, outer_body]
    exact ⟨rfl, rfl⟩
  · rintro response rfl hstatus
    obtain ⟨_, hw, hresponse⟩ := runs_handle.mp ht
    obtain ⟨inner, rfl, rfl⟩ := Option.map_eq_some_iff.mp hresponse.symm
    rw [outer_status] at hstatus
    rw [outer_body, hw.sealed hstatus]
  · intro t' v?' ht' hw
    obtain ⟨hsteps, hv⟩ := (handle_classes s r).runs ht ht' hw
    cases hv with
    | some h => exact ⟨congrArg some h, hsteps⟩
    | none => exact ⟨rfl, hsteps⟩

def browsing (method : Http.Method) : Request :=
  ⟨method, "/v1/business-category/00000000-0000-0000-0000-000000000000", [], ""⟩

def browsedName : List Char := "00000000-0000-0000-0000-000000000000".toList

theorem browsing_reaches {method : Http.Method} (hm : method = .get ∨ method = .head) (s : Server) :
    s.Reaches (browsing method) (.named .get ["v1", "business-category"]) (some browsedName) := by
  have hs : (Http.Target.ofString (browsing .get).target).segments? =
      some ["v1".toList, "business-category".toList, browsedName] := by decide +kernel
  have hname : browsedName.isEmpty = false ∧ browsedName ≠ ['l', 'i', 's', 't'] := by
    decide +kernel
  have hf : findRoute (routes s.policy) ["v1".toList, "business-category".toList, browsedName] =
      some (named ["v1", "business-category"] [] [(.get, Categories.get),
        (.put, Categories.update), (.delete, Categories.delete)], some browsedName) := by
    simp [findRoute, routes, path, named, Route.matchSegments, hname]
  rcases hm with rfl | rfl <;> exact reaches_of_segments hs hf rfl

def lostTable : List Step :=
  [.asked (.run (.find Category.table .nil)) (.error (.refused "42P01"))]

theorem browsing_runs {method : Http.Method} (hm : method = .get ∨ method = .head) (s : Server) :
    (s.handle (browsing method)).Runs lostTable
      (some (s.outer (browsing method) (Stop.response (.error .internal)))) := by
  have hmem : (Endpoint.named .get ["v1", "business-category"], Categories.get) ∈
      endpoints s.policy := by
    simp [endpoints, Route.endpoints, routes, path, named, Endpoint.named]
  have hid : (⟨browsing method, none, some browsedName⟩ : Incoming).id = .ok .nil := by
    have hread : ((some browsedName).bind Http.segmentText?).bind Uuid.ofText? = some .nil := by
      decide +kernel
    simp only [Incoming.id, hread]
  have hget : (Categories.get ⟨browsing method, none, some browsedName⟩).Runs lostTable
      (some (.error (.error .internal))) := by
    rw [Categories.get, hid]
    exact .send (.done _)
  exact (browsing_reaches hm s).runs_of_nobody hmem rfl hget

theorem browsing_fails : ∃ response,
    ((⟨⟨[], 0⟩, .anyone, 30⟩ : Server).handle (browsing .get)).Runs lostTable (some response) ∧
      response.status = 500 ∧ response.body = .json (errorJson "internal server error") := by
  have hruns := browsing_runs (.inl rfl) ⟨⟨[], 0⟩, .anyone, 30⟩
  obtain ⟨hfailed, -, -⟩ := failures_by_class hruns
  obtain ⟨-, response, hresponse, hstatus, hbody⟩ := hfailed [] _ "42P01" [] rfl (by simp)
  exact ⟨response, hresponse ▸ hruns, hstatus, hbody⟩

theorem head_fails_silently : ∃ response,
    ((⟨⟨[], 0⟩, .anyone, 30⟩ : Server).handle (browsing .head)).Runs lostTable (some response) ∧
      response.status = 500 ∧ response.body ≠ .json (errorJson "internal server error") := by
  refine ⟨_, browsing_runs (.inr rfl) _, outer_status _, ?_⟩
  rw [outer_body]
  simp [shown, browsing]

end Server

end Api

end CityGuide
