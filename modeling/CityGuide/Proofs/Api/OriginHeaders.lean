import CityGuide.Proofs.Api.AllowedOrigins
import CityGuide.Proofs.Api.Failures
import CityGuide.Proofs.Store.Deadlines
import CityGuide.Proofs.Text.Items

namespace CityGuide

open Http (Request Response)
open Config (wildcard)
open Store

def Http.originHeader : String := "access-control-allow-origin"

namespace Http.Response

variable {name other value : String}

def values (r : Response) (name : String) : List String :=
  (r.headers.filter (·.1 = name)).map (·.2)

theorem values_withHeader (r : Response) (name value : String) :
    (r.withHeader name value).values name = r.values name ++ [value] := by
  simp [values, withHeader]

theorem values_withHeader_of_ne (r : Response) (h : other ≠ name) :
    (r.withHeader other value).values name = r.values name := by
  simp [values, withHeader, h]

theorem values_withDefault_of_ne (r : Response) (h : other ≠ name) :
    (r.withDefault other value).values name = r.values name := by
  rw [withDefault]
  split
  · rfl
  · exact r.values_withHeader_of_ne h

theorem values_of_headers {r : Response} (h : r.headers = []) : r.values name = [] := by
  rw [values, h]
  rfl

end Http.Response

namespace Http.Cors

variable {origins : List String}

theorem values_allowOrigin (c : Cors) (request : Request) (response : Response) :
    (c.allowOrigin request response).values originHeader =
      response.values originHeader ++ (c.allowedOrigin (request.header? "origin")).toList := by
  rw [allowOrigin]
  cases c.allowedOrigin (request.header? "origin") with
  | none => exact (List.append_nil _).symm
  | some origin => exact response.values_withHeader _ origin

theorem values_preflight (c : Cors) (request : Request) :
    (c.preflight request).values originHeader =
      (c.allowedOrigin (request.header? "origin")).toList := by
  have hmethods : "access-control-allow-methods" ≠ originHeader := by decide
  have hheaders : "access-control-allow-headers" ≠ originHeader := by decide
  rw [preflight, Response.values_withHeader_of_ne _ hheaders,
    Response.values_withHeader_of_ne _ hmethods, values_allowOrigin]
  rfl

theorem allowedOrigin_only (origins : List String) (o : String) :
    ((only (origins.filter isHeaderValue)).allowedOrigin (some o)).toList =
      if o ∈ origins ∧ isHeaderValue o = true then [o] else [] := by
  have hmem : (origins.filter isHeaderValue).contains o = true ↔
      o ∈ origins ∧ isHeaderValue o = true := by
    rw [List.contains_iff_mem, List.mem_filter]
  rw [allowedOrigin]
  split
  · next h => rw [Option.filter_some_pos (hmem.mpr h), Option.toList_some]
  · next h => rw [Option.filter_some_neg (Bool.eq_false_iff.mpr (h ∘ hmem.mp)), Option.toList_none]

theorem ofOrigins_of_named (h : wildcard ∉ origins) :
    ofOrigins origins = some (only (origins.filter isHeaderValue)) := by
  have hlone : origins ≠ [wildcard] := by
    rintro rfl
    exact h (List.mem_singleton_self _)
  have husable : (origins.filter isHeaderValue).contains wildcard = false := by
    rw [Bool.eq_false_iff]
    intro hmem
    exact h (List.mem_of_mem_filter (List.contains_iff_mem.mp hmem))
  simp only [ofOrigins, if_neg hlone, husable, Bool.false_eq_true, if_false]

end Http.Cors

namespace Api.Server

open Http (originHeader)

variable {s : Server} {r : Request} {t : List Step} {response : Response}

theorem Dispatched.headers (h : Dispatched response) : response.headers = [] := by
  cases h with
  | handled h =>
    cases h with
    | served => rfl
    | @stopped stop => cases stop <;> rfl
  | unserved => rfl

theorem Authentication.unshared {token : String}
    (h : Authentication s token t (.error response)) : response.values originHeader = [] := by
  have hname : "www-authenticate" ≠ originHeader := by decide
  have hinvalid (why : String) : (invalidToken why).values originHeader = [] := by
    rw [invalidToken, Response.values_withHeader_of_ne _ hname]
    rfl
  generalize ho : (Except.error response : Except Response Caller) = o at h
  cases h with
  | unnamed =>
    obtain rfl := Except.error.inj ho
    exact hinvalid _
  | looked reply =>
    generalize sessionType reply = found at ho
    rcases found with e | _ | userType
    · obtain rfl := Except.error.inj ho
      rfl
    · obtain rfl := Except.error.inj ho
      exact hinvalid _
    · cases ho

theorem values_finished (response : Response) :
    (s.finished r response).values originHeader = response.values originHeader := by
  have hallow : "allow" ≠ originHeader := by decide
  have hbody (x : Response) :
      (if r.method = .head then { x with body := .empty } else x).values originHeader =
        x.values originHeader := by
    split <;> rfl
  rw [finished, hbody]
  split
  · split
    · rfl
    · exact response.values_withDefault_of_ne hallow
  · rfl

theorem Answers.values (h : s.Answers r t (some response)) :
    (s.outer r response).values originHeader =
      (s.cors.allowedOrigin (r.header? "origin")).toList := by
  have hshared (hm : r.method ≠ .options) (hinner : response.values originHeader = []) :
      (s.outer r response).values originHeader =
        (s.cors.allowedOrigin (r.header? "origin")).toList := by
    rw [outer_of_not_options hm, Function.comp, values_finished, Http.Cors.values_allowOrigin,
      hinner, List.nil_append]
  cases h with
  | preflight hm => rw [outer_of_options hm, values_finished, Http.Cors.values_preflight]
  | anonymous hm _ hd =>
    exact hshared hm (Response.values_of_headers (dispatched_of_runs hd).headers)
  | turnedAway hm _ ha => exact hshared hm ha.unshared
  | known hm _ _ hd =>
    exact hshared hm (Response.values_of_headers (dispatched_of_runs hd).headers)

theorem values_of_runs (h : (s.handle r).Runs t (some response)) :
    response.values originHeader = (s.cors.allowedOrigin (r.header? "origin")).toList := by
  obtain ⟨inner?, hw, hresponse⟩ := runs_handle.mp h
  obtain ⟨inner, rfl, rfl⟩ := Option.map_eq_some_iff.mp hresponse.symm
  exact hw.values

def InTime (s : Server) (pace : Pace) (t : List Step) : Prop := Store.InTime s.maxTicks pace 0 t

variable {pace : Pace}

theorem runs_answer {v? : Option Response} : (s.answer pace r).Runs t v? ↔
    ∃ o?, Program.Limited s.maxTicks pace (s.handle r) false 0 t o? ∧
      v? = o?.map fun response? => response?.getD overdue := by
  simp only [← Program.runs_within]
  exact Program.runs_map

theorem runs_answer_of_inTime (h : (s.handle r).Runs t (some response)) (hin : s.InTime pace t) :
    (s.answer pace r).Runs t (some response) :=
  runs_answer.mpr ⟨_, .inTime hin h, rfl⟩

theorem handle_of_answer (h : (s.answer pace r).Runs t (some response)) (hin : s.InTime pace t) :
    (s.handle r).Runs t (some response) := by
  obtain ⟨o?, hlimited, hresponse⟩ := runs_answer.mp h
  cases hlimited with
  | @inTime _ w? _ hruns =>
    cases w? with
    | none => cases hresponse
    | some inner =>
      obtain rfl := Option.some.inj hresponse
      exact hruns
  | givenUp hgiven => exact absurd hin hgiven.not_inTime

theorem overdue_of_answer (h : (s.answer pace r).Runs t (some response))
    (hlate : ¬s.InTime pace t) : response = overdue := by
  obtain ⟨o?, hlimited, hresponse⟩ := runs_answer.mp h
  cases hlimited with
  | inTime hin => exact absurd hin hlate
  | givenUp => exact Option.some.inj hresponse

/-- An answer in time names these origins, and a late one is bare. -/
structure Shares (s : Server) (pace : Pace) (t : List Step) (response : Response)
    (origins : List String) : Prop where
  inTime : s.InTime pace t → response.values originHeader = origins
  late : ¬s.InTime pace t → response = .bare 408

theorem shares_of_answer (h : (s.answer pace r).Runs t (some response)) :
    s.Shares pace t response (s.cors.allowedOrigin (r.header? "origin")).toList where
  inTime hin := values_of_runs (handle_of_answer h hin)
  late := overdue_of_answer h

end Api.Server

theorem Config.parseOrigins_written {origins : List String} {text : String} (hne : origins ≠ [])
    (hitems : ∀ o ∈ origins, Text.IsItem o) (hw : Text.Written origins text) :
    parseOrigins text = origins := by
  have hnamed : named text = origins := Text.items_of_written hw hitems
  rw [parseOrigins_eq, hnamed, if_neg hne]

namespace Api.Server

open Http (originHeader)
open Text (IsItem Written)

variable {env : Config.Environment} {c : Config} {origins : List String} {text : String}

theorem cors_of_config (hc : Config.ofEnvironment env = .ok c)
    (htext : env "CORS_ALLOWED_ORIGINS" = some text) (hne : origins ≠ [])
    (hitems : ∀ o ∈ origins, IsItem o) (hw : Written origins text) {cors : Http.Cors}
    (hcors : Http.Cors.ofOrigins origins = some cors) :
    ∃ s, ofConfig c = some s ∧ s.cors = cors := by
  have horigins : c.origins = origins := by
    rw [(Config.reads_of_ok hc).origins, htext]
    exact Config.parseOrigins_written hne hitems hw
  refine ⟨⟨⟨c.secretBytes, c.tokenLifetime⟩, cors, c.requestTimeout⟩, ?_, rfl⟩
  rw [ofConfig, horigins, hcors, Option.map_some]

theorem isItem_wildcard : IsItem wildcard := ⟨by decide, by decide +kernel, by decide⟩

theorem listed_origins_answered (hc : Config.ofEnvironment env = .ok c)
    (htext : env "CORS_ALLOWED_ORIGINS" = some text) :
    (∀ origins, origins ≠ [] → (∀ o ∈ origins, IsItem o ∧ o ≠ wildcard) → Written origins text →
      ∃ s, ofConfig c = some s ∧
        ∀ pace r t response o, (s.answer pace r).Runs t (some response) →
          r.header? "origin" = some o → s.Shares pace t response
            (if o ∈ origins ∧ Http.Cors.isHeaderValue o = true then [o] else [])) ∧
    (Written [wildcard] text → ∃ s, ofConfig c = some s ∧
      ∀ pace r t response, (s.answer pace r).Runs t (some response) →
        s.Shares pace t response [wildcard]) := by
  constructor
  · intro origins hne hlisted hw
    have hnamed : wildcard ∉ origins := fun h => (hlisted wildcard h).2 rfl
    obtain ⟨s, hs, hcors⟩ := cors_of_config hc htext hne (fun o ho => (hlisted o ho).1) hw
      (Http.Cors.ofOrigins_of_named hnamed)
    refine ⟨s, hs, ?_⟩
    intro pace r t response o hruns horigin
    have hshares := shares_of_answer hruns
    rwa [hcors, horigin, Http.Cors.allowedOrigin_only] at hshares
  · intro hw
    have hitem : ∀ o ∈ [wildcard], IsItem o := List.forall_mem_singleton.mpr isItem_wildcard
    obtain ⟨s, hs, hcors⟩ := cors_of_config hc htext (List.cons_ne_nil _ _) hitem hw
      (if_pos rfl : Http.Cors.ofOrigins [wildcard] = some .anyone)
    refine ⟨s, hs, ?_⟩
    intro pace r t response hruns
    have hshares := shares_of_answer hruns
    rwa [hcors] at hshares

def twoOrigins : List String := ["https://a.example", "https://b.example"]

def twoOriginsText : String := " https://a.example , https://b.example,"

theorem twoOrigins_written : Written twoOrigins twoOriginsText := by
  have hend : Text.Padded [] [""] := .blank rfl .nil
  have hsecond := hend.item (l := " ") (i := "https://b.example") (r := "") rfl rfl
  have hall := hsecond.item (l := " ") (i := "https://a.example") (r := " ") rfl rfl
  exact ⟨_, hall, by decide +kernel⟩

theorem twoOrigins_read :
    Config.ofEnvironment (Config.setting "CORS_ALLOWED_ORIGINS" twoOriginsText) =
      .ok { Config.least with origins := twoOrigins } :=
  Token.eq_ok_of_toOption (by decide +kernel)

theorem second_origin_admitted : "https://b.example" ∈ twoOrigins ∧
    Http.Cors.isHeaderValue "https://b.example" = true := by decide +kernel

def visiting : Request := { headerless with headers := [("origin", "https://b.example")] }

theorem second_origin_answered : ∃ c s response,
    Config.ofEnvironment (Config.setting "CORS_ALLOWED_ORIGINS" twoOriginsText) = .ok c ∧
    ofConfig c = some s ∧ (s.answer (fun _ => 0) visiting).Runs [] (some response) ∧
    response.status = 401 ∧ response.values originHeader = ["https://b.example"] := by
  have hlisted : ∀ o ∈ twoOrigins, IsItem o ∧ o ≠ wildcard := by
    have hchecks : ∀ o ∈ twoOrigins, o ≠ "" ∧ Text.trim o = o ∧ ',' ∉ o.toList ∧ o ≠ wildcard := by
      decide +kernel
    intro o ho
    obtain ⟨hfull, htrimmed, hwhole, hnamed⟩ := hchecks o ho
    exact ⟨⟨hfull, htrimmed, hwhole⟩, hnamed⟩
  obtain ⟨hanswered, -⟩ := listed_origins_answered twoOrigins_read rfl
  obtain ⟨s, hs, hshares⟩ := hanswered twoOrigins (by decide) hlisted twoOrigins_written
  have hreaches : s.Reaches visiting (.fixed .get ["v1", "user", "list"]) none :=
    headerless_reaches s
  have hclosed : Endpoint.fixed .get ["v1", "user", "list"] ∉ openEndpoints := by
    simp [openEndpoints, Endpoint.fixed, Endpoint.named]
  have hin : s.InTime (fun _ => 0) [] := fun _ _ => Nat.zero_le _
  have hruns := runs_answer_of_inTime (hreaches.runs_anonymous hclosed (by decide)) hin
  refine ⟨_, s, _, twoOrigins_read, hs, hruns, outer_status _, ?_⟩
  rw [(hshares _ visiting [] _ _ hruns rfl).inTime hin, if_pos second_origin_admitted]

def browsingFrom : Request :=
  { browsing .get with headers := [("origin", "https://b.example")] }

def noCategory : List Step := [.asked (.run (.find Category.table .nil)) (.ok ⟨[], 0⟩)]

theorem browsingFrom_runs (s : Server) :
    ∃ response, (s.handle browsingFrom).Runs noCategory (some response) := by
  have hmem : (Endpoint.named .get ["v1", "business-category"], Categories.get) ∈
      endpoints s.policy := by
    simp [endpoints, Route.endpoints, routes, path, named, Endpoint.named]
  have hreaches : s.Reaches browsingFrom (.named .get ["v1", "business-category"])
      (some browsedName) := browsing_reaches (.inl rfl) s
  have hid : (⟨browsingFrom, none, some browsedName⟩ : Incoming).id = .ok .nil := by
    have hread : ((some browsedName).bind Http.segmentText?).bind Uuid.ofText? = some .nil := by
      decide +kernel
    simp only [Incoming.id, hread]
  have hget : (Categories.get ⟨browsingFrom, none, some browsedName⟩).Runs noCategory
      (some (.error (.error .notFound))) := by
    rw [Categories.get, hid]
    exact .send (.done _)
  exact ⟨_, hreaches.runs_of_nobody hmem rfl hget⟩

def slow : Pace := fun n => if n = 0 then 0 else 31000

theorem late_answer_unshared : ∃ c s response,
    Config.ofEnvironment (Config.setting "CORS_ALLOWED_ORIGINS" twoOriginsText) = .ok c ∧
    ofConfig c = some s ∧ (s.answer slow browsingFrom).Runs noCategory (some response) ∧
    browsingFrom.header? "origin" = some "https://b.example" ∧
    "https://b.example" ∈ twoOrigins ∧ Http.Cors.isHeaderValue "https://b.example" = true ∧
    response.status = 408 ∧ response.values originHeader = [] := by
  let s : Server := ⟨⟨Config.least.secretBytes, Config.least.tokenLifetime⟩, .only twoOrigins, 30⟩
  have hcors : Http.Cors.ofOrigins twoOrigins = some (.only twoOrigins) := by decide +kernel
  have hs : ofConfig { Config.least with origins := twoOrigins } = some s := by
    rw [ofConfig, hcors]
    rfl
  obtain ⟨response, hhandle⟩ := browsingFrom_runs s
  have hgiven : Program.GivenUp s.maxTicks slow (s.handle browsingFrom) false 0 noCategory [] :=
    ⟨⟨[], some response, hhandle⟩, by decide, by decide, .nothing⟩
  have hruns : (s.answer slow browsingFrom).Runs noCategory (some overdue) :=
    runs_answer.mpr ⟨_, .givenUp hgiven, rfl⟩
  exact ⟨_, s, overdue, twoOrigins_read, hs, hruns, rfl, second_origin_admitted.1,
    second_origin_admitted.2, rfl, rfl⟩

end Api.Server

end CityGuide
