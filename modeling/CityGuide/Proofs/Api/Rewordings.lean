import CityGuide.Proofs.Api.Wordings

namespace CityGuide.Api

open Store Store.Action

open Handling Server

namespace Wording

variable {s : Server} {w : Wording} {o : Occasion} {x : String}

def others : Wording → Occasion → List (String × Json)
  | business, .creation => [("category_id", .uuid .nil)]
  | event, .creation => [("business_id", .uuid .nil), ("starts_at", .time ⟨0, 0⟩)]
  | report, .creation => [("business_id", .uuid .nil)]
  | review, .creation => [("business_id", .uuid .nil), ("rating", .int 1)]
  | notification, .creation => [("user_id", .uuid .nil)]
  | category, .creation => []
  | _, .change => []

def body (w : Wording) (o : Occasion) (x : String) : Json :=
  .record ((w.column, .text x) :: w.others o)

def named? : Occasion → Option (List Char)
  | .creation => none
  | .change => some removedName

def target (w : Wording) : Occasion → String
  | .creation => "/v1/" ++ w.resource
  | .change => "/v1/" ++ w.resource ++ "/11111111-1111-1111-1111-111111111111"

def asking (s : Server) (w : Wording) (o : Occasion) (x : String) : Http.Request :=
  carrying s.policy.secret visitorClaims
    ⟨(w.endpoint o).method, w.target o, [("content-type", "application/json")], (w.body o x).write⟩

def visiting (s : Server) (w : Wording) (o : Occasion) (x : String) : Incoming :=
  ⟨asking s w o x, some (visitor .admin), named? o⟩

theorem exact_body : (w.body o x).Exact := by
  cases w <;> cases o <;>
    simp [body, others, Json.Exact, Json.ExactMembers, Json.uuid, Json.time, Json.isWord]

theorem visiting_body {α : Type} {dec : Json.Decoder α} {a : α} {c? : Option Caller}
    {name? : Option (List Char)} (h : dec (.ofValue (w.body o x)) = .ok a) :
    (⟨asking s w o x, c?, name?⟩ : Incoming).body dec = .ok a :=
  body_of_written rfl rfl exact_body h

theorem visiting_id : (visiting s w .change x).id = .ok removedId := removing_id

theorem asking_gives (s : Server) (w : Wording) (o : Occasion) (x : String) :
    w.Gives (asking s w o x) x o := by
  cases w <;> cases o <;> exact ⟨_, visiting_body rfl, rfl⟩

def segments (w : Wording) (o : Occasion) : List (List Char) :=
  "v1".toList :: w.resource.toList :: (named? o).toList

theorem exists_route (w : Wording) (o : Occasion) (policy : TokenPolicy) :
    ∃ route, findRoute (routes policy) (w.segments o) = some (route, named? o) ∧
      route.handler? (w.endpoint o).method = some (w.handler o) ∧
      w.endpoint o = ⟨served (w.endpoint o).method, route.pattern⟩ := by
  cases w <;> cases o <;> exact ⟨_, rfl, rfl, rfl⟩

theorem asking_reaches (s : Server) (w : Wording) (o : Occasion) (x : String) :
    s.Reaches (asking s w o x) (w.endpoint o) (named? o) := by
  have hs : (Http.Target.ofString (w.target o)).segments? = some (w.segments o) := by
    cases w <;> cases o <;> decide +kernel
  obtain ⟨route, hfind, hhandler, he⟩ := w.exists_route o s.policy
  rw [he]
  exact reaches_of_segments hs hfind hhandler

def stamps : Row := [("created_at", .timestamp ⟨0, 0⟩), ("updated_at", .timestamp ⟨0, 0⟩)]

def row (x : String) : Wording → Row
  | category => [("id", .uuid removedId), ("name", .text x)] ++ stamps
  | business => [("id", .uuid removedId), ("name", .text x), ("description", .null),
      ("category_id", .uuid .nil), ("address", .text ""), ("latitude", .null),
      ("longitude", .null), ("contact_info", .json ContactInfo.none.toJson),
      ("hours_of_operation", .json Hours.none.toJson), ("owner_id", .uuid .nil)] ++ stamps
  | event => [("id", .uuid removedId), ("business_id", .uuid .nil), ("title", .text x),
      ("description", .text ""), ("location", .text ""), ("starts_at", .timestamp ⟨0, 0⟩),
      ("ends_at", .null)] ++ stamps
  | report => [("id", .uuid removedId), ("business_id", .uuid .nil), ("user_id", .uuid .nil),
      ("reason", .text x)] ++ stamps
  | review => [("id", .uuid removedId), ("business_id", .uuid .nil), ("user_id", .uuid .nil),
      ("rating", .int4 1), ("comment", .text x)] ++ stamps
  | notification => [("id", .uuid removedId), ("user_id", .uuid .nil), ("sender_id", .null),
      ("message", .text x), ("status", .text "unread")] ++ stamps

def attached (x : String) (w : Wording) : Row := row x w ++ [("attachments", .json (.list []))]

def shop (x : String) : Business :=
  ⟨removedId, x, none, .nil, "", none, none, .none, .none, .nil, ⟨0, 0⟩, ⟨0, 0⟩⟩

def reviewed (x : String) : Review := ⟨removedId, .nil, .nil, 1, x, ⟨0, 0⟩, ⟨0, 0⟩⟩

theorem businesses_owned (id : Uuid) : (Businesses.owned (visitor .admin) id).Yields () :=
  (existing_yields (a := shop "") (row "" business) rfl).bind (yields_of_eq rfl)

theorem reviews_owned (id : Uuid) : (Reviews.owned (visitor .admin) id).Yields () :=
  (existing_yields (a := reviewed "") (row "" review) rfl).bind (yields_of_eq rfl)

theorem category_created (hx : requireText "name" x = .ok ()) :
    (Categories.create (visiting s category .creation x)).Succeeds := by
  refine .gate rfl (.gate (visiting_body rfl) (.gate rfl (.check hx ?_)))
  exact .after (stored_yields (row x category) rfl) (.created _)

theorem category_changed (hx : requireText "name" x = .ok ()) :
    (Categories.update (visiting s category .change x)).Succeeds := by
  refine .gate rfl (.gate visiting_id (.gate (visiting_body rfl) (.gate rfl (.check hx ?_))))
  exact .after (existing_yields (row x category) rfl) (.ok _)

theorem business_created (hx : requireText "name" x = .ok ()) :
    (Businesses.create (visiting s business .creation x)).Succeeds := by
  let d : Business.Draft := ⟨x, none, .nil, "", none, none, .none, .none, none, []⟩
  refine .gate rfl (.gate (visiting_body (a := d) rfl) (.gate rfl
    (.check (bind_valid.mpr ⟨hx, rfl⟩) ?_)))
  have hstored : (ofStore (Business.create .nil d)).Yields ⟨shop x, []⟩ :=
    ⟨_, .freshId (u := .nil) (.send (r := made) (.send (r := made) (.send (r := made)
      (.send (r := made) (.send (r := single (attached x business)) (.done _))))))⟩
  exact .after hstored (.created _)

theorem business_changed (hx : requireText "name" x = .ok ()) :
    (Businesses.update (visiting s business .change x)).Succeeds := by
  let c : Business.Change := ⟨some x, none, none, none, none, none, none, none, none⟩
  refine .gate rfl (.gate visiting_id (.gate (visiting_body (a := c) rfl)
    (.after (businesses_owned _) (.check (bind_valid.mpr ⟨hx, rfl⟩) ?_))))
  have hstored : (existing (Business.update removedId c)).Yields ⟨shop x, []⟩ :=
    ⟨_, .send (r := made) (.send (r := single (row x business)) (.send (r := made)
      (.send (r := single (attached x business)) (.done _))))⟩
  exact .after hstored (.ok _)

theorem event_created (hx : requireText "title" x = .ok ()) :
    (Events.create (visiting s event .creation x)).Succeeds := by
  let d : Event.Draft := ⟨.nil, x, "", "", ⟨0, 0⟩, none⟩
  refine .gate rfl (.gate (visiting_body (a := d) rfl) (.gate rfl
    (.check (bind_valid.mpr ⟨hx, rfl⟩) (.after (businesses_owned _) ?_))))
  exact .after (stored_yields (row x event) rfl) (.created _)

theorem event_changed (hx : requireText "title" x = .ok ()) :
    (Events.update (visiting s event .change x)).Succeeds := by
  let c : Event.Change := ⟨some x, none, none, none, none⟩
  have howned : (Events.owned (visitor .admin) removedId).Yields
      ⟨removedId, .nil, "", "", "", ⟨0, 0⟩, none, ⟨0, 0⟩, ⟨0, 0⟩⟩ :=
    .bind (p := existing (Event.find removedId)) (existing_yields (row "" event) rfl)
      ((businesses_owned _).bind (yields_of_eq rfl))
  refine .gate rfl (.gate visiting_id (.gate (visiting_body (a := c) rfl)
    (.after howned (.check (bind_valid.mpr ⟨hx, rfl⟩) ?_))))
  exact .after (existing_yields (row x event) rfl) (.ok _)

theorem report_created (hx : requireText "reason" x = .ok ()) :
    (Reports.create (visiting s report .creation x)).Succeeds := by
  let d : Report.Draft := ⟨.nil, x⟩
  refine .gate rfl (.gate (visiting_body (a := d) rfl) (.gate rfl (.check hx ?_)))
  exact .after (stored_yields (row x report) rfl) (.created _)

theorem report_changed (hx : requireText "reason" x = .ok ()) :
    (Reports.update (visiting s report .change x)).Succeeds := by
  have howned : (Reports.owned (visitor .admin) removedId).Yields
      ⟨removedId, .nil, .nil, "", ⟨0, 0⟩, ⟨0, 0⟩⟩ :=
    .bind (p := existing (Report.find removedId)) (existing_yields (row "" report) rfl)
      (yields_of_eq rfl)
  refine .gate rfl (.gate visiting_id (.gate (visiting_body rfl)
    (.after howned (.check hx ?_))))
  exact .after (existing_yields (row x report) rfl) (.ok _)

theorem review_created : (Reviews.create (visiting s review .creation x)).Succeeds := by
  let d : Review.Draft := ⟨.nil, 1, x, []⟩
  refine .gate rfl (.gate (visiting_body (a := d) rfl) (.gate rfl (.check rfl ?_)))
  have hstored : (ofStore (Review.create .nil d)).Yields ⟨reviewed x, []⟩ :=
    ⟨_, .freshId (u := .nil) (.send (r := made) (.send (r := made) (.send (r := made)
      (.send (r := made) (.send (r := single (attached x review)) (.done _))))))⟩
  exact .after hstored (.created _)

theorem review_changed : (Reviews.update (visiting s review .change x)).Succeeds := by
  let c : Review.Change := ⟨none, some x, none⟩
  refine .gate rfl (.gate visiting_id (.gate (visiting_body (a := c) rfl)
    (.after (reviews_owned _) (.check rfl ?_))))
  have hstored : (existing (Review.update removedId c)).Yields ⟨reviewed x, []⟩ :=
    ⟨_, .send (r := made) (.send (r := single (row x review)) (.send (r := made)
      (.send (r := single (attached x review)) (.done _))))⟩
  exact .after hstored (.ok _)

theorem notification_created (hx : requireText "message" x = .ok ()) :
    (Notifications.create (visiting s notification .creation x)).Succeeds := by
  let d : Notification.Draft := ⟨.nil, x⟩
  refine .gate rfl (.gate (visiting_body (a := d) rfl) (.gate rfl (.check hx ?_)))
  exact .after (stored_yields (row x notification) rfl) (.created _)

theorem notification_changed (hx : requireText "message" x = .ok ()) :
    (Notifications.update (visiting s notification .change x)).Succeeds := by
  let c : Notification.Change := ⟨some x, none⟩
  have hparty : (Notifications.ofParty (visitor .admin) removedId).Yields
      ⟨removedId, .nil, none, "", "unread", ⟨0, 0⟩, ⟨0, 0⟩⟩ :=
    .bind (p := existing (Notification.find removedId))
      (existing_yields (row "" notification) rfl) (yields_of_eq rfl)
  refine .gate rfl (.gate visiting_id (.gate (visiting_body (a := c) rfl)
    (.after hparty (.gate rfl (.check hx ?_)))))
  exact .after (existing_yields (row x notification) rfl) (.ok _)

theorem succeeds (s : Server) (o : Occasion)
    (h : w.checked = true → Text.isBlankText x = false) :
    (w.handler o (visiting s w o x)).Succeeds := by
  have hx (field : String) (hw : w.checked = true) : requireText field x = .ok () :=
    requireText_eq_ok.mpr (h hw)
  cases w with
  | category =>
    cases o with
    | creation => exact category_created (hx _ rfl)
    | change => exact category_changed (hx _ rfl)
  | business =>
    cases o with
    | creation => exact business_created (hx _ rfl)
    | change => exact business_changed (hx _ rfl)
  | event =>
    cases o with
    | creation => exact event_created (hx _ rfl)
    | change => exact event_changed (hx _ rfl)
  | report =>
    cases o with
    | creation => exact report_created (hx _ rfl)
    | change => exact report_changed (hx _ rfl)
  | review =>
    cases o with
    | creation => exact review_created
    | change => exact review_changed
  | notification =>
    cases o with
    | creation => exact notification_created (hx _ rfl)
    | change => exact notification_changed (hx _ rfl)

end Wording

namespace Server

open Wording

variable {s : Server} {w : Wording} {o : Occasion} {x : String} {r : Http.Request} {t : List Step}

structure Takes (s : Server) (w : Wording) (o : Occasion) (x : String) (r : Http.Request)
    (t : List Step) : Prop where
  reaches : ∃ name?, s.Reaches r (w.endpoint o) name?
  gives : w.Gives r x o
  answered : ∃ response, (s.handle r).Runs t (some response) ∧ response.status < 400

theorem sets_of_sent {name? : Option (List Char)} {v? : Option Http.Response}
    {st : Sql.Statement} {reply : Reply} {assigned : List Sql.Assignment}
    (hr : s.Reaches r (w.endpoint o) name?) (hx : w.Gives r x o) (ht : (s.handle r).Runs t v?)
    (hsent : (.run st, reply) ∈ exchanges t) (hb : w.Binds o st assigned) :
    w.Sets o x assigned := by
  rcases sent_cases ht hsent with ⟨_, _, hl⟩ | ⟨_, _, _, hr', hf, -⟩
  · obtain rfl := Command.run.inj hl
    cases hb
  · obtain rfl := hr.endpoint_unique hr'
    exact Footprint.sets_text hf hx hb

theorem Takes.carries (h : s.Takes w o x r t) : ∃ y ∈ exchanges t, w.Carries o y := by
  obtain ⟨name?, hr⟩ := h.reaches
  obtain ⟨response, ht, hs⟩ := h.answered
  obtain ⟨lead, rest, c?, answer, rfl, -, hruns⟩ := hr.served (handler_mem w o _) ht hs
  have hensures : Ensures (w.Carries o) (w.handler o ⟨r, c?, name?⟩) := by
    cases o with
    | creation => exact ensures_creation w _
    | change => exact ensures_change w _
  obtain ⟨y, hy, hcarries⟩ := hensures rest answer hruns
  exact ⟨y, exchanges_append lead rest ▸ List.mem_append_right _ hy, hcarries⟩

theorem Takes.sets {st : Sql.Statement} {reply : Reply} {assigned : List Sql.Assignment}
    (h : s.Takes w o x r t) (hsent : (.run st, reply) ∈ exchanges t)
    (hb : w.Binds o st assigned) : w.Sets o x assigned := by
  obtain ⟨name?, hr⟩ := h.reaches
  obtain ⟨response, ht, -⟩ := h.answered
  exact sets_of_sent hr h.gives ht hsent hb

theorem Takes.binds (h : s.Takes w o x r t) :
    ∃ st reply assigned, (.run st, reply) ∈ exchanges t ∧ w.Binds o st assigned ∧
      assigned.lookup w.column = some (.text (w.kept o x)) := by
  obtain ⟨⟨_, reply⟩, hsent, st, assigned, rfl, hb⟩ := h.carries
  exact ⟨st, reply, assigned, hsent, hb, (h.sets hsent hb).text⟩

theorem takes_asking (s : Server) (o : Occasion)
    (h : w.checked = true → Text.isBlankText x = false) :
    ∃ t, s.Takes w o x (asking s w o x) t := by
  obtain ⟨answer, ⟨t, ht⟩, hs⟩ := succeeds s o h
  have hr := asking_reaches s w o x
  have hruns := hr.runs_of_caller (handler_mem w o _) (introduces_visitor s _ .admin) ht
  exact ⟨_, ⟨_, hr⟩, asking_gives s w o x, _, hruns, by rw [outer_status]; exact hs⟩

theorem wordings_agree (s : Server) (w : Wording) (x : String) :
    (∀ o, (∃ r t, s.Takes w o x r t) ↔ (w.checked = true → Text.isBlankText x = false)) ∧
    (∀ o r t, s.Takes w o x r t → ∃ y ∈ exchanges t, w.Carries o y) ∧
    (∀ o r t name? v? st reply assigned, s.Reaches r (w.endpoint o) name? → w.Gives r x o →
      (s.handle r).Runs t v? → (.run st, reply) ∈ exchanges t → w.Binds o st assigned →
      w.Sets o x assigned) ∧
    ∀ r t r' t' st st' reply reply' row changes, s.Takes w .creation x r t →
      s.Takes w .change x r' t' → (.run st, reply) ∈ exchanges t → w.Binds .creation st row →
      (.run st', reply') ∈ exchanges t' → w.Binds .change st' changes →
      row.lookup w.column = some (.text (Text.trim x)) ∧
        (changes.lookup w.column = row.lookup w.column ↔
          w ≠ .business ∧ w ≠ .notification ∨ Text.trim x = x) := by
  refine ⟨fun o => ⟨?refused, ?taken⟩, fun o r t h => h.carries,
    fun o r t name? v? st reply assigned hr hx ht hsent hb => sets_of_sent hr hx ht hsent hb,
    ?alike⟩
  case refused =>
    rintro ⟨r, t, h⟩
    obtain ⟨⟨_, reply⟩, hsent, st, assigned, rfl, hb⟩ := h.carries
    exact (h.sets hsent hb).present
  case taken =>
    intro h
    obtain ⟨t, ht⟩ := takes_asking s o h
    exact ⟨_, t, ht⟩
  case alike =>
    intro r t r' t' st st' reply reply' row changes h h' hsent hb hsent' hb'
    have hrow := (h.sets hsent hb).text
    have hkept : w.kept .creation x = Text.trim x := by cases w <;> rfl
    rw [(h'.sets hsent' hb').text, hrow, ← kept_eq_trim_iff, hkept]
    exact ⟨rfl, by simp⟩

def cafe : String := " Cafe "

theorem cafe_present (w : Wording) : w.checked = true → Text.isBlankText cafe = false :=
  fun _ => by decide

theorem cafe_category : ∃ t t' st st' reply reply' row changes,
    cityServer.Takes .category .creation cafe (asking cityServer .category .creation cafe) t ∧
    cityServer.Takes .category .change cafe (asking cityServer .category .change cafe) t' ∧
    (.run st, reply) ∈ exchanges t ∧ Binds .category .creation st row ∧
    (.run st', reply') ∈ exchanges t' ∧ Binds .category .change st' changes ∧
    row.lookup "name" = some (.text "Cafe") ∧ changes.lookup "name" = some (.text "Cafe") := by
  obtain ⟨t, h⟩ := takes_asking cityServer .creation (cafe_present .category)
  obtain ⟨t', h'⟩ := takes_asking cityServer .change (cafe_present .category)
  obtain ⟨st, reply, row, hsent, hb, -⟩ := h.binds
  obtain ⟨st', reply', changes, hsent', hb', -⟩ := h'.binds
  obtain ⟨-, -, -, halike⟩ := wordings_agree cityServer .category cafe
  obtain ⟨hrow, hchanges⟩ := halike _ _ _ _ _ _ _ _ _ _ h h' hsent hb hsent' hb'
  have hsame := hchanges.mpr (.inl (by decide))
  have htrim : Text.trim cafe = "Cafe" := by decide
  rw [htrim] at hrow
  exact ⟨t, t', st, st', reply, reply', row, changes, h, h', hsent, hb, hsent', hb', hrow,
    hsame.trans hrow⟩

theorem cafe_business : ∃ t t' st st' reply reply' row changes,
    cityServer.Takes .business .creation cafe (asking cityServer .business .creation cafe) t ∧
    cityServer.Takes .business .change cafe (asking cityServer .business .change cafe) t' ∧
    (.run st, reply) ∈ exchanges t ∧ Binds .business .creation st row ∧
    (.run st', reply') ∈ exchanges t' ∧ Binds .business .change st' changes ∧
    row.lookup "name" = some (.text "Cafe") ∧
    changes.lookup "name" = some (.text " Cafe ") := by
  obtain ⟨t, h⟩ := takes_asking cityServer .creation (cafe_present .business)
  obtain ⟨t', h'⟩ := takes_asking cityServer .change (cafe_present .business)
  obtain ⟨st, reply, row, hsent, hb, hrow⟩ := h.binds
  obtain ⟨st', reply', changes, hsent', hb', hchanges⟩ := h'.binds
  have htrim : kept .business .creation cafe = "Cafe" := by decide
  rw [htrim] at hrow
  exact ⟨t, t', st, st', reply, reply', row, changes, h, h', hsent, hb, hsent', hb', hrow,
    hchanges⟩

end Server

end CityGuide.Api
