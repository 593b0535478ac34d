import CityGuide.Proofs.Api.FreshRows
import CityGuide.Proofs.Api.Guarded
import CityGuide.Proofs.Store.Origins

namespace CityGuide

open Store

namespace Store

variable {table column : String}

theorem keptColumns_lookup (hk : (table, column) ∈ keptColumns) :
    keptColumns.lookup table = some column := by
  have hall : ∀ x ∈ keptColumns, keptColumns.lookup x.1 = some x.2 := by decide
  exact hall _ hk

section

variable (column? : Option String) (hk : keptColumns.lookup table = column?)

include hk

theorem keeping_insert {row : List Sql.Assignment} {ending : Sql.Ending}
    (h : ∀ column ∈ column?, ∃ id v, ("id", Sql.Value.uuid id) ∈ row ∧ (column, v) ∈ row) :
    Keeping (.insert table row ending) where
  assigns := nofun
  inserts := by
    rintro _ column _ hkept ⟨⟩
    obtain ⟨id, v, hid, hv⟩ := h column (hk.symm.trans (keptColumns_lookup hkept))
    exact ⟨id, v, ⟨_, _, _, rfl, List.mem_map_of_mem hkept, hid⟩, hid, hv⟩

theorem keeping_update {columns : List (String × Option Sql.Value)} {id : Uuid}
    (h : ∀ column ∈ column?, "id" ∉ columns.map Prod.fst ∧ column ∉ columns.map Prod.fst) :
    Keeping (.update table (Sql.present columns) id) where
  assigns := by
    rintro _ column _ hkept ⟨⟩
    obtain ⟨hid, hcolumn⟩ := h column (hk.symm.trans (keptColumns_lookup hkept))
    exact ⟨mt Sql.mem_present_names hid, mt Sql.mem_present_names hcolumn⟩
  inserts := nofun

end

theorem keeping_insertAll {columns : List String} {rows : List (List Sql.Value)}
    (hk : keptColumns.lookup table = none) : Keeping (.insertAll table columns rows) where
  assigns := nofun
  inserts := by
    rintro _ column _ hkept ⟨⟩
    simp [keptColumns_lookup hkept] at hk

theorem notification_not_kept : (Notification.table, column) ∉ keptColumns := by
  intro hkept
  have hnone : keptColumns.lookup Notification.table = none := by decide
  simp [keptColumns_lookup hkept] at hnone

theorem keeping_delete {naming : Sql.Naming} {keys : List Sql.Assignment} :
    Keeping (.delete naming table keys) where
  assigns := by
    rintro _ column _ hkept ⟨⟩
    exact absurd hkept notification_not_kept
  inserts := nofun

theorem keeping_mark {status : String} {user : Uuid} {ids : Option (List Uuid)} :
    Keeping (.markNotifications status user ids) where
  assigns := by
    rintro _ column _ hkept ⟨⟩
    exact absurd hkept notification_not_kept
  inserts := nofun

theorem keeping_look {st : Sql.Statement} (h : st.isWrite = false) : Keeping st where
  assigns := by
    rintro _ column _ hkept ⟨⟩ <;> simp [Sql.Statement.isWrite] at h
  inserts := by
    rintro _ column _ hkept ⟨⟩ <;> simp [Sql.Statement.isWrite] at h

end Store

theorem Attachment.Replacing.keeping {owner : AttachmentOwner} {ownerId : Uuid}
    {inputs : List Input} {st : Sql.Statement} (hr : Replacing owner ownerId inputs st) :
    Keeping st := by
  cases hr with
  | clear => exact keeping_delete
  | insertion => exact keeping_insertAll (by cases owner <;> decide)

namespace Api

open Store.Action (firstRow firstRow_eq_some)

theorem Footprint.keeping {i : Incoming} {e : Endpoint} {st : Sql.Statement}
    (hf : Footprint i e st) : Keeping st := by
  cases hf with
  | look hk => exact keeping_look hk.isWrite_eq_false
  | attachToNewBusiness _ _ _ hr | attachToBusiness _ _ _ _ _ hr | attachToNewReview _ _ _ hr
  | attachToReview _ _ _ _ _ hr => exact hr.keeping
  | register | login | createUser | createCategory | createNotification | join | follow =>
    exact keeping_insert none (by decide) (by simp)
  | updateSelf | updateUser | updateCategory | updateNotification =>
    exact keeping_update none (by decide) (by simp)
  | createBusiness =>
    exact keeping_insert (some "owner_id") (by decide) (by simp [Business.Draft.row])
  | createEvent =>
    exact keeping_insert (some "business_id") (by decide) (by simp [Event.Draft.row])
  | createReview | createReport | createBookmark | createPromotion =>
    exact keeping_insert (some "user_id") (by decide)
      (by simp [Review.Draft.row, Report.Draft.row, Bookmark.Draft.row, Promotion.Draft.row])
  | updateBusiness => exact keeping_update (some "owner_id") (by decide) (by simp)
  | updateEvent => exact keeping_update (some "business_id") (by decide) (by simp)
  | updateReview | updateReport | updateBookmark =>
    exact keeping_update (some "user_id") (by decide) (by simp)
  | markNotifications => exact keeping_mark
  | _ => exact keeping_delete

inductive Hits : Sql.Statement → String → Row → Prop
  | update {table : String} {changes : List Sql.Assignment} {id : Uuid} {row : Row}
      (h : row.Named id) : Hits (.update table changes id) table row
  | delete {naming : Sql.Naming} {table : String} {keys : List Sql.Assignment} {row : Row}
      (h : row.Holds keys) : Hits (.delete naming table keys) table row

inductive OwnedBy (T : Tables) (user : Uuid) : String → Row → Prop
  | row {table column : String} {row : Row} (hk : (table, column) ∈ ownerColumns)
      (h : row.cell? column = some (.uuid user)) : OwnedBy T user table row
  | event {row : Row} {id : Uuid} (h : row.cell? "business_id" = some (.uuid id))
      (hb : ∀ business ∈ T Business.table, business.Named id →
        business.cell? "owner_id" = some (.uuid user)) : OwnedBy T user Event.table row

inductive Governs : (Uuid → Question) → String → Prop
  | row (subject : Subject) {column : String} (hk : (subject.table, column) ∈ ownerColumns)
      (hp : ∀ row parties me, subject.parties row = some parties → me ∈ parties →
        row.cell? column = some (.uuid me)) : Governs (.row subject) subject.table
  | event : Governs .event Event.table

section Owners

variable {row : Row}

theorem Business.owner_cell {b : Business} (h : Business.ofRow row = some b) :
    row.cell? "owner_id" = some (.uuid b.ownerId) := by
  simp only [Business.ofRow, Option.bind_eq_bind, Option.bind_eq_some_iff, Option.some.injEq] at h
  obtain ⟨_, -, _, -, _, -, _, -, _, -, _, -, _, -, _, -, _, -, _, howner, _, -, _, -, rfl⟩ := h
  exact Row.get_uuid.mp howner

theorem Review.owner_cell {r : Review} (h : Review.ofRow row = some r) :
    row.cell? "user_id" = some (.uuid r.userId) := by
  simp only [Review.ofRow, Option.bind_eq_bind, Option.bind_eq_some_iff, Option.some.injEq] at h
  obtain ⟨_, -, _, -, _, howner, _, -, _, -, _, -, _, -, rfl⟩ := h
  exact Row.get_uuid.mp howner

theorem Report.owner_cell {r : Report} (h : Report.ofRow row = some r) :
    row.cell? "user_id" = some (.uuid r.userId) := by
  simp only [Report.ofRow, Option.bind_eq_bind, Option.bind_eq_some_iff, Option.some.injEq] at h
  obtain ⟨_, -, _, -, _, howner, _, -, _, -, _, -, rfl⟩ := h
  exact Row.get_uuid.mp howner

theorem Bookmark.owner_cell {b : Bookmark} (h : Bookmark.ofRow row = some b) :
    row.cell? "user_id" = some (.uuid b.userId) := by
  simp only [Bookmark.ofRow, Option.bind_eq_bind, Option.bind_eq_some_iff, Option.some.injEq] at h
  obtain ⟨_, -, _, howner, _, -, _, -, _, -, rfl⟩ := h
  exact Row.get_uuid.mp howner

theorem Promotion.owner_cell {p : Promotion} (h : Promotion.ofRow row = some p) :
    row.cell? "user_id" = some (.uuid p.userId) := by
  simp only [Promotion.ofRow, Option.bind_eq_bind, Option.bind_eq_some_iff, Option.some.injEq] at h
  obtain ⟨_, -, _, -, _, howner, _, -, _, -, _, -, _, -, _, -, _, -, rfl⟩ := h
  exact Row.get_uuid.mp howner

theorem Event.business_cell {e : Event} (h : Event.ofRow row = some e) :
    row.cell? "business_id" = some (.uuid e.businessId) := by
  simp only [Event.ofRow, Option.bind_eq_bind, Option.bind_eq_some_iff, Option.some.injEq] at h
  obtain ⟨_, -, _, hbusiness, _, -, _, -, _, -, _, -, _, -, _, -, _, -, rfl⟩ := h
  exact Row.get_uuid.mp hbusiness

theorem Subject.party_cell {α : Type} {table column : String} {read : Row → Option α}
    {owner : α → Uuid}
    (hcell : ∀ row a, read row = some a → row.cell? column = some (.uuid (owner a)))
    {parties : List Uuid} {me : Uuid}
    (hp : (of table read fun a => [owner a]).parties row = some parties) (hme : me ∈ parties) :
    row.cell? column = some (.uuid me) := by
  obtain ⟨a, ha, rfl⟩ := Option.map_eq_some_iff.mp hp
  rw [List.mem_singleton.mp hme]
  exact hcell row a ha

theorem Subject.business_cell {parties : List Uuid} {me : Uuid}
    (hp : Subject.business.parties row = some parties) (hme : me ∈ parties) :
    row.cell? "owner_id" = some (.uuid me) :=
  Subject.party_cell (fun _ _ => Business.owner_cell) hp hme

end Owners

theorem governs_business : Governs (.row .business) Business.table :=
  .row .business (by decide) fun _ _ _ => Subject.business_cell

theorem governs_review : Governs (.row .review) Review.table :=
  .row .review (by decide) fun _ _ _ =>
    Subject.party_cell fun _ _ => Review.owner_cell

theorem governs_report : Governs (.row .report) Report.table :=
  .row .report (by decide) fun _ _ _ =>
    Subject.party_cell fun _ _ => Report.owner_cell

theorem governs_bookmark : Governs (.row .bookmark) Bookmark.table :=
  .row .bookmark (by decide) fun _ _ _ =>
    Subject.party_cell fun _ _ => Bookmark.owner_cell

theorem governs_promotion : Governs (.row .promotion) Promotion.table :=
  .row .promotion (by decide) fun _ _ _ =>
    Subject.party_cell fun _ _ => Promotion.owner_cell

section

variable {table table' : String} {id : Uuid} {row : Row} {question : Uuid → Question}

theorem Hits.updated {changes : List Sql.Assignment}
    (hh : Hits (.update table changes id) table' row) (hg : Governs question table) :
    row.Named id ∧ Governs question table' := by
  cases hh with
  | update h => exact ⟨h, hg⟩

theorem Hits.deleted {naming : Sql.Naming}
    (hh : Hits (.delete naming table [("id", .uuid id)]) table' row)
    (hg : Governs question table) : row.Named id ∧ Governs question table' := by
  cases hh with
  | delete h => exact ⟨h _ (List.mem_singleton.mpr rfl), hg⟩

theorem Hits.not_replacing {owner : AttachmentOwner} {ownerId : Uuid}
    {inputs : List Attachment.Input} {st : Sql.Statement} (hh : Hits st table row)
    (hk : table ∈ keptColumns.map Prod.fst) : ¬Attachment.Replacing owner ownerId inputs st := by
  intro hr
  have hother : owner.table ∉ keptColumns.map Prod.fst := by cases owner <;> decide
  cases hr <;> cases hh
  exact hother hk

end

theorem Footprint.guards {i : Incoming} {e : Endpoint} {st : Sql.Statement} {table : String}
    {row : Row} (hf : Footprint i e st) (hh : Hits st table row)
    (hk : table ∈ keptColumns.map Prod.fst) :
    ∃ question id, (e, byName question) ∈ guarded ∧ i.id = .ok id ∧ row.Named id ∧
      Governs question table := by
  cases hf with
  | updateBusiness _ hi => exact ⟨_, _, by simp [guarded], hi, hh.updated governs_business⟩
  | updateReview _ hi => exact ⟨_, _, by simp [guarded], hi, hh.updated governs_review⟩
  | updateReport _ hi => exact ⟨_, _, by simp [guarded], hi, hh.updated governs_report⟩
  | updateBookmark _ hi => exact ⟨_, _, by simp [guarded], hi, hh.updated governs_bookmark⟩
  | updateEvent _ hi => exact ⟨_, _, by simp [guarded], hi, hh.updated .event⟩
  | deleteBusiness _ hi => exact ⟨_, _, by simp [guarded], hi, hh.deleted governs_business⟩
  | deleteReview _ hi => exact ⟨_, _, by simp [guarded], hi, hh.deleted governs_review⟩
  | deleteReport _ hi => exact ⟨_, _, by simp [guarded], hi, hh.deleted governs_report⟩
  | deleteBookmark _ hi => exact ⟨_, _, by simp [guarded], hi, hh.deleted governs_bookmark⟩
  | deletePromotion _ hi => exact ⟨_, _, by simp [guarded], hi, hh.deleted governs_promotion⟩
  | deleteEvent _ hi => exact ⟨_, _, by simp [guarded], hi, hh.deleted .event⟩
  | look hk =>
    have hl := hk.isWrite_eq_false
    cases hh <;> simp [Sql.Statement.isWrite] at hl
  | attachToNewBusiness _ _ _ hr | attachToBusiness _ _ _ _ _ hr | attachToNewReview _ _ _ hr
  | attachToReview _ _ _ _ _ hr => exact absurd hr (hh.not_replacing hk)
  | _ => cases hh <;> exact absurd hk (by decide)

section Looks

variable {me id : Uuid} {looks : List Step}

theorem Subject.owned_iff {subject : Subject} {reply : Reply} :
    subject.verdict me reply = .owned ↔
      ∃ parties, reply.bind (firstRow subject.parties) = .ok (some parties) ∧ me ∈ parties := by
  rw [verdict]
  rcases reply.bind (firstRow subject.parties) with f | _ | parties
  · simp
  · simp
  · by_cases hme : me ∈ parties <;> simp [hme]

theorem Judged.owned_row {subject : Subject} (h : Judged me (.row subject id) looks .owned) :
    ∃ answer, Step.asked (.run (.find subject.table id)) (.ok answer) ∈ looks ∧
      ∃ row ∈ answer.rows, ∃ parties, subject.parties row = some parties ∧ me ∈ parties := by
  generalize hv : Verdict.owned = verdict at h
  cases h with
  | row _ _ reply =>
    obtain ⟨parties, hparties, hme⟩ := Subject.owned_iff.mp hv.symm
    obtain ⟨answer, rfl, row, hrow, hread⟩ := firstRow_eq_some hparties
    exact ⟨answer, List.mem_cons_self, row, hrow, parties, hread, hme⟩

theorem Judged.owned_event (h : Judged me (.event id) looks .owned) :
    ∃ answer, Step.asked (.run (.find Event.table id)) (.ok answer) ∈ looks ∧
      ∃ row ∈ answer.rows, ∃ event, Event.ofRow row = some event ∧
        ∃ looks', looks' ⊆ looks ∧ Judged me (.row .business event.businessId) looks' .owned := by
  generalize hv : Verdict.owned = verdict at h
  cases h with
  | event he hb =>
    obtain ⟨answer, rfl, row, hrow, hread⟩ := firstRow_eq_some he
    exact ⟨answer, List.mem_cons_self, row, hrow, _, hread, _, List.subset_cons_self .., hv ▸ hb⟩
  | noEvent | unreadEvent => simp at hv

end Looks

section Histories

variable {κ : Type} [DecidableEq κ] {s : Server} {requests : κ → Http.Request}
  {past : List (κ × Step)} {w₀ w : World κ}

def Server.Serves (s : Server) (requests : κ → Http.Request) (past : List (κ × Step)) : Prop :=
  ∀ k, ∃ rest v?, (s.handle (requests k)).Runs (own k past ++ rest) v?

theorem Server.Serves.keeping (hs : s.Serves requests past) {k : κ} {st : Sql.Statement}
    {a : Answer} (hx : (k, .asked (.run st) (.ok a)) ∈ past) : Keeping st := by
  obtain ⟨rest, v?, ht⟩ := hs k
  have hmem : (Command.run st, Except.ok a) ∈ exchanges (own k past ++ rest) :=
    mem_exchanges.mpr (List.mem_append_left _ (mem_own.mpr hx))
  rcases sent_cases ht hmem with ⟨_, _, hlook⟩ | ⟨_, _, _, -, hsent, -⟩
  · obtain rfl := Command.run.inj hlook
    exact keeping_look rfl
  · exact Footprint.keeping hsent

theorem Server.Serves.drew (hs : s.Serves requests past) {k : κ} {st : Sql.Statement} {a : Answer}
    {id : Uuid} (hx : (k, .asked (.run st) (.ok a)) ∈ past) (hm : Mints (.run st) id) :
    (k, .drewId id) ∈ past := by
  obtain ⟨rest, v?, ht⟩ := hs k
  have hspends := (spends_append.mp (sparing ht).spends).1
  rcases hspends.drawn (mem_own.mpr hx) hm with hnone | hdrew
  · exact absurd hnone (Set.notMem_empty id)
  · exact mem_own.mp hdrew

theorem Server.Serves.honest (hs : s.Serves requests past) (hu : w₀.Unfolds past w) :
    Honest w₀.drawn past where
  keeping _ _ _ hx := hs.keeping hx
  once j k st st' a a' id hx hx' hm hm' := by
    obtain rfl := hu.drawn_once.2.2 j k id (hs.drew hx hm) (hs.drew hx' hm')
    obtain ⟨rest, v?, ht⟩ := hs j
    have hmem : ∀ st a, (j, Step.asked (.run st) (.ok a)) ∈ past →
        (Command.run st, Except.ok a) ∈ exchanges (own j past ++ rest) := fun st a hx =>
      mem_exchanges.mpr (List.mem_append_left _ (mem_own.mpr hx))
    exact Command.run.inj ((sparing ht).once _ (hmem _ _ hx) _ (hmem _ _ hx') _ _ hm hm')
  fresh k st a id hx hm := (hu.drawn_once.2.1 k id (hs.drew hx hm)).2

theorem ownedBy_of_looks {me id : Uuid} {looks : List Step} {k : κ} {question : Uuid → Question}
    {table : String} {row : Row} (hw : w₀.Quiet) (hu : w₀.Unfolds past w)
    (hp : Honest w₀.drawn past) (hg : Governs question table)
    (hj : Judged me (question id) looks .owned) (hlooks : ∀ x ∈ looks, (k, x) ∈ past)
    (hrow : row ∈ w.view k table) (hid : row.Named id) : OwnedBy (w.view k) me table row := by
  have hview := (hu.known hw.idle).view k
  -- What the look found and what is there now agree on the owner.
  have agrees : ∀ (subject : Subject) {column : String} {id : Uuid} {looks : List Step},
      (subject.table, column) ∈ ownerColumns →
      (∀ row parties me, subject.parties row = some parties → me ∈ parties →
        row.cell? column = some (.uuid me)) →
      Judged me (.row subject id) looks .owned → (∀ x ∈ looks, (k, x) ∈ past) →
      ∀ row ∈ w.view k subject.table, row.Named id → row.cell? column = some (.uuid me) := by
    intro subject column id looks hk hparties hj hlooks row hrow hid
    obtain ⟨answer, hmem, found, hfound, parties, hread, hme⟩ := hj.owned_row
    obtain ⟨hversion, hname⟩ := hu.found hw.idle (hlooks _ hmem) found hfound
    have hagree := Version.agree hw hp (List.mem_cons_of_mem _ hk) (hview _ row hrow) hversion
      hid hname
    rw [hagree]
    exact hparties found parties me hread hme
  cases hg with
  | row subject hk hparties => exact .row hk (agrees subject hk hparties hj hlooks row hrow hid)
  | event =>
    obtain ⟨answer, hmem, found, hfound, event, hread, looks', hsub, hj'⟩ := hj.owned_event
    obtain ⟨hversion, hname⟩ := hu.found hw.idle (hlooks _ hmem) found hfound
    have hkept : (Event.table, "business_id") ∈ keptColumns := List.mem_cons_self
    have hagree := Version.agree hw hp hkept (hview _ row hrow) hversion hid hname
    refine .event (hagree.trans (Event.business_cell hread)) fun business hbusiness hbid => ?_
    exact agrees .business (by decide) (fun _ _ _ => Subject.business_cell) hj'
      (fun x hx => hlooks x (hsub hx)) business hbusiness hbid

end Histories

namespace Server

variable {κ : Type} [DecidableEq κ] {s : Server} {requests : κ → Http.Request}
  {past : List (κ × Step)} {w₀ w w' : World κ} {k : κ} {x : Step}

theorem caller?_append {t : List Step} {c : Caller} (h : caller? t = some c) (u : List Step) :
    caller? (t ++ u) = some c := by
  obtain ⟨y, hy, hc⟩ := Option.bind_eq_some_iff.mp h
  rw [caller?, exchanges_append, List.head?_append, hy]
  exact hc

theorem own_snoc (k : κ) (past : List (κ × Step)) (x : Step) :
    own k (past ++ [(k, x)]) = own k past ++ [x] := by
  rw [own_append]
  simp [own]

theorem looks_before_write {e : Endpoint} {ask : Incoming → Incoming.Reading Question}
    {r : Http.Request} {name? : Option (List Char)} {before after : List Step} {c : Caller}
    {command : Command} {reply : Reply} {v? : Option Http.Response} (hg : (e, ask) ∈ guarded)
    (hr : s.Reaches r e name?) (ht : (s.handle r).Runs (before ++ .asked command reply :: after) v?)
    (hc : caller? before = some c) (hn : c.userType ≠ .admin) (hw : isWrite command = true) :
    ∃ lead looks mid q, before = lead ++ looks ++ mid ∧ ask ⟨r, some c, name?⟩ = .ok q ∧
      Judged c.userId q looks .owned := by
  have hx : (command, reply) ∈ exchanges (before ++ .asked command reply :: after) :=
    mem_exchanges.mpr (by simp)
  obtain ⟨lead, looks, rest, q, hsplit, hlead, hq, hj, -⟩ :=
    writes_own hg hr ht (caller?_append hc _) hn hx hw
  have hquiet := no_writes_append hlead.no_writes (Judged.no_writes hj)
  rw [← List.append_assoc] at hsplit
  rcases List.append_eq_append_iff.mp hsplit with ⟨mid, hlooks, hafter⟩ | ⟨mid, hbefore, -⟩
  · cases mid with
    | nil => exact ⟨lead, looks, [], q, by simpa using hlooks.symm, hq, hj⟩
    | cons y mid =>
      obtain ⟨rfl, -⟩ := List.cons.inj hafter
      have hnot := hquiet (command, reply) (mem_exchanges.mpr (hlooks ▸ by simp))
      exact absurd hw (by simp [hnot])
  · exact ⟨lead, looks, mid, q, hbefore, hq, hj⟩

theorem Serves.init {future : List (κ × Step)} (hs : s.Serves requests (past ++ future)) :
    s.Serves requests past := by
  intro j
  obtain ⟨rest, v?, ht⟩ := hs j
  refine ⟨own j future ++ rest, v?, ?_⟩
  rwa [own_append, List.append_assoc] at ht

theorem Serves.owned {c : Caller} {st : Sql.Statement} {a : Answer} {table : String} {row : Row}
    (hw : w₀.Quiet) (hu : w₀.Unfolds past w)
    (hs : s.Serves requests (past ++ [(k, .asked (.run st) (.ok a))]))
    (hc : caller? (own k past) = some c) (hn : c.userType ≠ .admin)
    (hk : table ∈ keptColumns.map Prod.fst) (hrow : row ∈ w.view k table) (hh : Hits st table row) :
    OwnedBy (w.view k) c.userId table row := by
  obtain ⟨rest, v?, ht⟩ := hs k
  rw [own_snoc, List.append_assoc, List.singleton_append] at ht
  have hwrite : st.isWrite = true := by cases hh <;> rfl
  have hx : (Command.run st, Except.ok a) ∈
      exchanges (own k past ++ .asked (.run st) (.ok a) :: rest) := mem_exchanges.mpr (by simp)
  rcases sent_cases ht hx with ⟨_, _, hlook⟩ | ⟨e, name?, c?, hr, hsent, -⟩
  · obtain rfl := Command.run.inj hlook
    simp [Sql.Statement.isWrite] at hwrite
  · obtain ⟨question, id, hg, hi, hid, hgoverns⟩ := Footprint.guards hsent hh hk
    obtain ⟨lead, looks, mid, q, hbefore, hq, hj⟩ := looks_before_write hg hr ht hc hn hwrite
    obtain rfl : question id = q := by
      have hask : byName question ⟨requests k, some c, name?⟩ = .ok (question id) := by
        rw [byName, show Incoming.id ⟨requests k, some c, name?⟩ = .ok id from hi]
        rfl
      exact Except.ok.inj (hask.symm.trans hq)
    refine ownedBy_of_looks hw hu (hs.init.honest hu) hgoverns hj (fun y hy => ?_) hrow hid
    exact mem_own.mp (hbefore ▸ by simp [hy])

theorem check_then_write (hw : w₀.Quiet) (hu : w₀.Unfolds past w) (hm : w.Moves k x w')
    (hs : s.Serves requests (past ++ [(k, x)])) :
    (∀ c st a table row, caller? (own k past) = some c → c.userType ≠ .admin →
        x = .asked (.run st) (.ok a) → table ∈ keptColumns.map Prod.fst →
        row ∈ w.view k table → Hits st table row → OwnedBy (w.view k) c.userId table row) ∧
      ∀ i j table column id old new, (table, column) ∈ keptColumns → old ∈ w.view i table →
        new ∈ w'.view j table → old.Named id → new.Named id →
        new.cell? column = old.cell? column := by
  constructor
  · rintro c st a table row hc hn rfl hk hrow hh
    exact hs.owned hw hu hc hn hk hrow hh
  · intro i j table column id old new hk hold hnew hid hid'
    have hafter := World.Unfolds.step hu hm
    have hversion := (hu.known hw.idle).view i table old hold
    exact Version.agree hw (hs.honest hafter) hk ((hafter.known hw.idle).view j table new hnew)
      (hversion.mono (List.subset_append_left ..)) hid' hid

def droppedRow : Row :=
  [("id", .uuid .nil), ("user_id", .uuid .nil), ("business_id", .uuid .nil),
    ("created_at", .timestamp ⟨0, 0⟩), ("updated_at", .timestamp ⟨0, 0⟩)]

def droppedWorld : World Bool := ⟨only Bookmark.table {droppedRow}, fun _ => .free, Set.univ⟩

def droppedLook : Step := .asked (.run (.find Bookmark.table .nil)) (.ok ⟨[droppedRow], 1⟩)

def droppedWrite : Step :=
  .asked (.run (.delete .quoted Bookmark.table [("id", .uuid .nil)])) (.ok ⟨[], 1⟩)

def droppedPast : List (Bool × Step) :=
  [(true, .readClock ⟨0, 0⟩), (false, .readClock ⟨0, 0⟩),
    (true, .asked (.run (.activeSession .nil .nil)) (typeReply .user)),
    (false, .asked (.run (.activeSession .nil .nil)) (typeReply .user)),
    (true, droppedLook), (false, droppedLook)]

theorem dropping_id :
    Incoming.id ⟨dropping, some (visitor .user), some droppedName⟩ = .ok .nil :=
  Token.eq_ok_of_toOption (by decide +kernel)

theorem droppingRun_eq : droppingRun = [droppedLook, droppedWrite] := by
  simp only [droppingRun, Bookmarks.delete, dropping_id]
  rfl

theorem droppedWorld_quiet : droppedWorld.Quiet where
  idle _ := rfl
  unique table row hrow row' hrow' _ _ _ := by
    rw [(mem_only.mp hrow).2, (mem_only.mp hrow').2]
  known _ _ _ _ _ := Set.mem_univ _

theorem droppedRow_mem : droppedRow ∈ droppedWorld.tables Bookmark.table := by
  change droppedRow ∈ only Bookmark.table {droppedRow} Bookmark.table
  exact mem_only.mpr ⟨rfl, rfl⟩

theorem droppedPast_unfolds : droppedWorld.Unfolds droppedPast droppedWorld := by
  have clock (k : Bool) : droppedWorld.Moves k (.readClock ⟨0, 0⟩) droppedWorld := .readClock _
  have session (k : Bool) := World.Moves.looked (w := droppedWorld) (k := k) rfl
    (.activeSession .nil .nil ⟨[[("user_type", .text UserType.user.name)]], 1⟩)
  have look (k : Bool) : droppedWorld.Moves k droppedLook droppedWorld := by
    refine .looked rfl (.find fun row hrow => ?_)
    rw [List.mem_singleton.mp hrow]
    exact ⟨droppedRow_mem, rfl⟩
  exact .step (.step (.step (.step (.step (.step .start (clock _)) (clock _)) (session _))
    (session _)) (look _)) (look _)

theorem dropped_served :
    Serves ⟨⟨[], 0⟩, .anyone, 30⟩ (fun _ : Bool => dropping)
      (droppedPast ++ [(true, droppedWrite)]) := by
  have hh : (Endpoint.named .delete ["v1", "bookmark"], Bookmarks.delete) ∈
      endpoints ⟨[], 0⟩ := by
    simp [endpoints, Route.endpoints, routes, path, named, Endpoint.named]
  have hr := dropping_reaches ⟨⟨[], 0⟩, .anyone, 30⟩
  have hlead : Introduces ⟨⟨[], 0⟩, .anyone, 30⟩ dropping (visitorLead .user) (some (visitor .user)) :=
    introduces_visitor ..
  have ht := hr.runs_of_caller hh hlead (Program.runs_traceOn _ bookmarked)
  rw [show Program.traceOn _ bookmarked = droppingRun from rfl, droppingRun_eq] at ht
  intro k
  cases k with
  | true => exact ⟨[], _, ht⟩
  | false => exact ⟨[droppedWrite], _, ht⟩

theorem dropping_at_once :
    droppedRow ∈ droppedWorld.view true Bookmark.table ∧
      OwnedBy (droppedWorld.view true) .nil Bookmark.table droppedRow := by
  have hrow : droppedRow ∈ droppedWorld.view true Bookmark.table := droppedRow_mem
  have hdelete : Executes droppedWorld.tables (.delete .quoted Bookmark.table [("id", .uuid .nil)])
      ⟨[], 1⟩ ⟨Function.update (fun _ => ∅) Bookmark.table _, only Notification.table ∅⟩ :=
    .delete nofun
  have hmove : droppedWorld.Moves true droppedWrite _ := .made rfl hdelete
  have hsafe := (check_then_write droppedWorld_quiet droppedPast_unfolds hmove dropped_served).1
  refine ⟨hrow, hsafe (visitor .user) _ _ _ _ rfl (by decide) rfl (by decide) hrow (.delete ?_)⟩
  intro key hkey
  rw [List.mem_singleton.mp hkey]
  rfl

end Server

end Api

end CityGuide
