import CityGuide.Proofs.Api.Rewordings
import CityGuide.Proofs.Store.Attachments
import CityGuide.Proofs.Text.Boundaries

namespace CityGuide

open Store Store.Action Api

theorem Attachment.validateAll_eq_ok {inputs : List Attachment.Input} :
    Attachment.validateAll inputs = .ok () ↔ ∀ a ∈ inputs, a.validate = .ok () := by
  induction inputs with
  | nil => simp [validateAll]
  | cons a more ih => rw [validateAll, bind_valid, ih, List.forall_mem_cons]

namespace Json

open Text (encoded encoded_append)

theorem length_encoded_items (j : Json) (n : Nat) :
    (encoded (itemChars (List.replicate n j))).length =
      n * ((encoded (chars j)).length + 1) + 1 := by
  induction n with
  | zero =>
    rw [Nat.zero_mul]
    rfl
  | succ n ih =>
    have hitem : itemChars (List.replicate (n + 1) j) =
        [','] ++ (chars j ++ itemChars (List.replicate n j)) := by
      rw [List.replicate_succ, itemChars]
      rfl
    have hcomma : (encoded [',']).length = 1 := by decide
    rw [hitem, encoded_append, encoded_append, List.length_append, List.length_append, hcomma, ih,
      Nat.succ_mul]
    omega

end Json

namespace Attachment

open Json (chars itemChars)
open Text (encoded encoded_append)

def Input.json (a : Input) : Json :=
  .record [("filepath", .text a.filepath), ("content_type", .text a.contentType)]

def naming (inputs : List Input) : Json := .record [("attachments", .many Input.json inputs)]

theorem naming_exact (inputs : List Input) : (naming inputs).Exact := by
  have hitems : Json.ExactItems (inputs.map Input.json) := by
    induction inputs with
    | nil => trivial
    | cons a more ih => exact ⟨⟨trivial, trivial, trivial⟩, ih⟩
  exact ⟨hitems, trivial⟩

theorem decode_many (inputs : List Input) :
    Json.Decode.list Input.decode (.ofValue (.many Input.json inputs)) = .ok inputs := by
  change (Json.Document.ofValues (inputs.map Input.json)).mapM Input.decode = .ok inputs
  induction inputs with
  | nil => rfl
  | cons a more ih =>
    have ha : Input.decode (.ofValue a.json) = .ok a := rfl
    rw [List.map_cons, Json.Document.ofValues, List.mapM_cons, ha, ih]
    rfl

theorem size_naming (n : Nat) :
    (naming (List.replicate (n + 1) shortest)).write.utf8ByteSize = 36 * (n + 1) + 17 := by
  have hchars : chars (naming (List.replicate (n + 1) shortest)) =
      "\x7b\"attachments\":[".toList ++ (chars shortest.json ++
        (itemChars (List.replicate n shortest.json) ++ ['}'])) := by
    rw [naming, Json.many, List.map_replicate, List.replicate_succ]
    simp only [chars, Json.memberChars, Json.moreChars, List.append_assoc]
    rfl
  have hopening : (encoded "\x7b\"attachments\":[".toList).length = 16 := by decide
  have hone : (encoded (chars shortest.json)).length = 35 := by decide +kernel
  have hclosing : (encoded ['}']).length = 1 := by decide
  rw [Json.write, ← Text.length_encoded, hchars]
  simp only [encoded_append, List.length_append, Json.length_encoded_items, hopening, hone, hclosing]
  omega

theorem naming_whole_iff {n : Nat} :
    Http.Content.ofText (naming (List.replicate n shortest)).write =
      .whole (naming (List.replicate n shortest)).write ↔ n ≤ 58253 := by
  cases n with
  | zero => decide +kernel
  | succ n =>
    rw [Http.Content.ofText, size_naming, Http.Content.maxBytes]
    split
    · next h => simp only [true_iff]; omega
    · next h => simp only [reduceCtorEq, false_iff]; omega

end Attachment

namespace AttachmentOwner

def wording : AttachmentOwner → Wording
  | business => .business
  | review => .review

theorem endpoint_inj {p q : AttachmentOwner} {c d : Occasion}
    (h : p.wording.endpoint c = q.wording.endpoint d) : p = q ∧ c = d := by
  obtain ⟨hw, ho⟩ := Wording.endpoint_inj h
  refine ⟨?_, ho⟩
  cases p <;> cases q <;> first | rfl | cases hw

def names : AttachmentOwner → List String
  | business => Business.Change.names
  | review => Review.Change.names

def Changes (id : Uuid) : AttachmentOwner → Exchange → Prop
  | business => Exchange.Changes Business.table id Business.ofRow
  | review => Exchange.Changes Review.table id Review.ofRow

variable {owner : AttachmentOwner} {id : Uuid} {r : Http.Request} {c? : Option Caller}
  {name? : Option (List Char)} {t : List Step} {inputs : List Attachment.Input}
  {inputs? : Option (List Attachment.Input)} {x : Exchange}

theorem Changes.writes (h : owner.Changes id x) : x.Writes := by
  cases owner <;> exact Exchange.Changes.writes h

def Gives (owner : AttachmentOwner) (r : Http.Request)
    (inputs? : Option (List Attachment.Input)) : Prop :=
  ∃ doc, Bears r doc ∧
    Json.Decode.opt (Json.Decode.list Attachment.Input.decode)
      (doc.part owner.names "attachments") = .ok inputs?

def Present (owner : AttachmentOwner) (r : Http.Request) : Prop :=
  ∃ doc, Bears r doc ∧ (doc.part owner.names "attachments").isNull = false

theorem Gives.present_iff (h : owner.Gives r inputs?) : owner.Present r ↔ inputs?.isSome := by
  obtain ⟨doc, hdoc, hopt⟩ := h
  have hpresent : owner.Present r ↔ (doc.part owner.names "attachments").isNull = false := by
    constructor
    · rintro ⟨doc', hdoc', hnull⟩
      obtain rfl := hdoc.unique hdoc'
      exact hnull
    · exact fun hnull => ⟨doc, hdoc, hnull⟩
  rw [hpresent]
  cases hnull : (doc.part owner.names "attachments").isNull with
  | true =>
    rw [Json.Decode.opt_of_isNull hnull] at hopt
    obtain rfl := Except.ok.inj hopt
    simp
  | false =>
    rw [Json.Decode.opt_of_given hnull] at hopt
    cases hd : Json.Decode.list Attachment.Input.decode (doc.part owner.names "attachments") with
    | error flaw => simp [hd, Except.map] at hopt
    | ok given =>
      obtain rfl : some given = inputs? := by simpa [hd, Except.map] using hopt
      simp

theorem Gives.unique {inputs?' : Option (List Attachment.Input)} (h : owner.Gives r inputs?)
    (h' : owner.Gives r inputs?') : inputs? = inputs?' := by
  obtain ⟨doc, hdoc, hopt⟩ := h
  obtain ⟨doc', hdoc', hopt'⟩ := h'
  obtain rfl := hdoc.unique hdoc'
  exact Except.ok.inj (hopt.symm.trans hopt')

theorem gives_of_business {change : Business.Change} {i : Incoming}
    (h : i.body Business.Change.decode = .ok change) :
    Gives .business i.request change.attachments := by
  obtain ⟨doc, hdoc, hdec⟩ := Incoming.body_eq_ok h
  obtain ⟨-, -, -, -, -, -, -, -, hattachments⟩ := Business.Change.reads hdec
  exact ⟨doc, hdoc, hattachments⟩

theorem gives_of_review {change : Review.Change} {i : Incoming}
    (h : i.body Review.Change.decode = .ok change) :
    Gives .review i.request change.attachments := by
  obtain ⟨doc, hdoc, hdec⟩ := Incoming.body_eq_ok h
  obtain ⟨-, -, hattachments⟩ := Review.Change.reads hdec
  exact ⟨doc, hdoc, hattachments⟩

theorem gives_naming (owner : AttachmentOwner)
    (hbody : r.body = .whole (Attachment.naming inputs).write) : owner.Gives r (some inputs) := by
  have hread : Json.Document.ofChars (Attachment.naming inputs).write.toList =
      (.ofValue (Attachment.naming inputs), true) := by
    rw [Json.write, String.toList_ofList,
      Json.Document.ofChars_chars (Attachment.naming_exact inputs)]
  have hpart : (Json.Document.ofValue (Attachment.naming inputs)).part owner.names "attachments" =
      .ofValue (.many Attachment.Input.json inputs) := by
    cases owner <;> rfl
  refine ⟨_, ⟨_, hbody, hread⟩, ?_⟩
  rw [hpart]
  exact congrArg (Except.map some) (Attachment.decode_many inputs)

theorem gives_shortest (owner : AttachmentOwner) {n : Nat} (hfew : n ≤ 58253)
    (hbody : r.body = .ofText (Attachment.naming (List.replicate n Attachment.shortest)).write) :
    owner.Gives r (some (List.replicate n Attachment.shortest)) :=
  owner.gives_naming (hbody.trans (Attachment.naming_whole_iff.mpr hfew))

def Names (r : Http.Request) (inputs : List Attachment.Input) :
    AttachmentOwner → Occasion → Prop
  | business, .creation =>
      ∃ d, (⟨r, none, none⟩ : Incoming).body Business.Draft.decode = .ok d ∧
        d.attachments = inputs
  | review, .creation =>
      ∃ d, (⟨r, none, none⟩ : Incoming).body Review.Draft.decode = .ok d ∧ d.attachments = inputs
  | owner, .change => owner.Gives r (some inputs)

theorem Names.unique {o : Occasion} {inputs' : List Attachment.Input}
    (h : owner.Names r inputs o) (h' : owner.Names r inputs' o) : inputs = inputs' := by
  cases o with
  | change => cases owner <;> exact Option.some.inj (Gives.unique h h')
  | creation =>
    cases owner <;>
    · obtain ⟨d, hd, rfl⟩ := h
      obtain ⟨d', hd', rfl⟩ := h'
      rw [Except.ok.inj (hd.symm.trans hd')]

end AttachmentOwner

namespace Api

open Handling

variable {owner : AttachmentOwner} {o : Occasion} {r : Http.Request} {c? : Option Caller}
  {name? : Option (List Char)} {t : List Step}

theorem Footprint.attaches {st : Sql.Statement} {other : AttachmentOwner}
    (hf : Footprint ⟨r, c?, name?⟩ (owner.wording.endpoint o) st)
    (ha : st.altered? = some other.table) :
    ∃ inputs, owner.Names r inputs o ∧ Attachment.validateAll inputs = .ok () := by
  generalize he : owner.wording.endpoint o = e at hf
  cases hf with
  | look hk => simpa [hk.isWrite_eq_false] using Sql.Statement.isWrite_of_altered ha
  | attachToNewBusiness _ hb hv =>
    obtain ⟨rfl, rfl⟩ := AttachmentOwner.endpoint_inj (q := .business) (d := .creation) he
    exact ⟨_, ⟨_, hb, rfl⟩, (bind_valid.mp (bind_valid.mp hv).2).2⟩
  | attachToNewReview _ hb hv =>
    obtain ⟨rfl, rfl⟩ := AttachmentOwner.endpoint_inj (q := .review) (d := .creation) he
    exact ⟨_, ⟨_, hb, rfl⟩, (bind_valid.mp hv).2⟩
  | @attachToBusiness _ _ change inputs _ _ _ hb hv hgiven =>
    obtain ⟨rfl, rfl⟩ := AttachmentOwner.endpoint_inj (q := .business) (d := .change) he
    have hnames := hgiven ▸ AttachmentOwner.gives_of_business hb
    exact ⟨_, hnames, given_eq_ok.mp (bind_valid.mp (bind_valid.mp hv).2).2 _ hgiven⟩
  | @attachToReview _ _ change inputs _ _ _ hb hv hgiven =>
    obtain ⟨rfl, rfl⟩ := AttachmentOwner.endpoint_inj (q := .review) (d := .change) he
    have hnames := hgiven ▸ AttachmentOwner.gives_of_review hb
    exact ⟨_, hnames, given_eq_ok.mp (bind_valid.mp hv).2 _ hgiven⟩
  | _ => exact absurd (Option.some.inj ha) (by cases other <;> decide)

def Attends (owner : AttachmentOwner) (i : Incoming) (a : Handling Http.Response) : Prop :=
  ∀ t o?, a.Runs t o? →
    ((∀ x ∈ exchanges t, ¬x.Writes) ∧ ∀ answer, o? ≠ some (.ok answer)) ∨
      ∃ id inputs?, i.id = .ok id ∧ owner.Gives i.request inputs? ∧
        Attended owner (owner.Changes id) id inputs? t ∧
        ∀ answer, o? = some (.ok answer) → ∃ x ∈ exchanges t, owner.Changes id x

namespace Attends

variable {α : Type} {i : Incoming} {id : Uuid} {inputs? : Option (List Attachment.Input)}

theorem gate {r : Except Stop α} {k : α → Handling Http.Response}
    (h : ∀ a, r = .ok a → Attends owner i (k a)) :
    Attends owner i (Action.ofExcept r >>= k) := by
  intro t o? ht
  cases r with
  | error stop =>
    obtain ⟨rfl, rfl⟩ := runs_ofExcept.mp ht
    exact .inl ⟨by simp, by simp⟩
  | ok a => exact h a rfl t o? ht

theorem look {table : String} {id : Uuid} {read : Row → Option α} {k : α → Handling Http.Response}
    (h : ∀ a, Attends owner i (k a)) :
    Attends owner i (existing (Action.optional (.find table id) read) >>= k) := by
  have hlook : ∀ reply, ∀ x ∈ exchanges [.asked (.run (.find table id)) reply], ¬x.Writes :=
    fun _ => forall_exchanges_asked.mpr (Exchange.Looks.not_writes ⟨_, rfl, rfl⟩)
  intro t o? ht
  rcases runs_bind.mp ht with ⟨_, w, a, rfl, hu, hw⟩ | ⟨stop, he, rfl⟩ | ⟨hn, rfl⟩
  · obtain ⟨reply, rfl, -⟩ := runs_look.mp hu
    rcases h a w o? hw with ⟨hquiet, ho⟩ | ⟨id, inputs?, hi, hg, hattended, ho⟩
    · refine .inl ⟨?_, ho⟩
      rw [exchanges_append, List.forall_mem_append]
      exact ⟨hlook reply, hquiet⟩
    · have hpreceded := hattended.preceded (fun x => AttachmentOwner.Changes.writes) (hlook reply)
      refine .inr ⟨id, inputs?, hi, hg, hpreceded, fun answer hanswer => ?_⟩
      obtain ⟨x, hx, hchanges⟩ := ho answer hanswer
      exact ⟨x, exchanges_append _ w ▸ List.mem_append_right _ hx, hchanges⟩
  · obtain ⟨reply, rfl, -⟩ := runs_look.mp he
    exact .inl ⟨hlook reply, by simp⟩
  · obtain ⟨reply, rfl, -⟩ := runs_look.mp hn
    exact .inl ⟨hlook reply, by simp⟩

theorem changed {a : Action Failure (Option α)} {f : α → Http.Response} (hi : i.id = .ok id)
    (hg : owner.Gives i.request inputs?)
    (h : ∀ t o?, a.Runs t o? → Attended owner (owner.Changes id) id inputs? t ∧
      ∀ x, o? = some (.ok (some x)) → ∃ y ∈ exchanges t, owner.Changes id y) :
    Attends owner i (existing a >>= fun x => pure (f x)) := by
  intro t o? ht
  obtain ⟨_, hexisting, rfl⟩ := runs_bind_ofExcept.mp ht
  obtain ⟨v?, hruns, rfl⟩ := runs_existing.mp hexisting
  obtain ⟨hattended, ho⟩ := h t v? hruns
  refine .inr ⟨id, inputs?, hi, hg, hattended, fun answer hanswer => ?_⟩
  rcases v? with _ | _ | _ | x
  · simp at hanswer
  · simp [existed, Except.bind] at hanswer
  · simp [existed, Except.bind] at hanswer
  · exact ho x rfl

end Attends

theorem Businesses.update_attends (i : Incoming) : Attends .business i (update i) := by
  refine .gate fun c _ => .gate fun id hi => .gate fun change hb => ?_
  simp only [owned, bind_assoc]
  refine .look fun _ => .gate fun _ _ => .gate fun _ _ =>
    .changed hi (AttachmentOwner.gives_of_business hb) fun t o? ht => ?_
  rw [Business.update_eq] at ht
  exact attended_of_alteration (fun owner => by cases owner <;> decide) ht

theorem Reviews.update_attends (i : Incoming) : Attends .review i (update i) := by
  refine .gate fun c _ => .gate fun id hi => .gate fun change hb => ?_
  simp only [owned, bind_assoc]
  refine .look fun _ => .gate fun _ _ => .gate fun _ _ =>
    .changed hi (AttachmentOwner.gives_of_review hb) fun t o? ht => ?_
  rw [Review.update_eq] at ht
  exact attended_of_alteration (fun owner => by cases owner <;> decide) ht

theorem attends_change (owner : AttachmentOwner) (i : Incoming) :
    Attends owner i (owner.wording.handler .change i) := by
  cases owner with
  | business => exact Businesses.update_attends i
  | review => exact Reviews.update_attends i

def OwnerChanged (owner : AttachmentOwner) (r : Http.Request) (name? : Option (List Char))
    (t : List Step) : Prop :=
  ∃ id, (⟨r, none, name?⟩ : Incoming).id = .ok id ∧ ∃ x ∈ exchanges t, owner.Changes id x

/-- What a request to change an owner does to its attachments: it touches them if and only if the
owner is changed and the body has the field, and then it replaces them by what is given there. -/
structure Reattaches (owner : AttachmentOwner) (r : Http.Request) (name? : Option (List Char))
    (t : List Step) : Prop where
  attaches_iff : (∃ x ∈ exchanges t, x.Attaches) ↔ OwnerChanged owner r name? t ∧ owner.Present r
  replaces : (∃ x ∈ exchanges t, x.Attaches) → ∃ id inputs before mid after o?,
    (⟨r, none, name?⟩ : Incoming).id = .ok id ∧ owner.Gives r (some inputs) ∧
      t = before ++ mid ++ after ∧ Unattached before ∧
      Attachment.Replaced owner id inputs mid o? ∧ Unattached after

theorem reattaches_of_quiet (h : ∀ x ∈ exchanges t, ¬x.Writes) : Reattaches owner r name? t where
  attaches_iff := by
    constructor
    · rintro ⟨x, hx, ha⟩
      exact absurd ha.writes (h x hx)
    · rintro ⟨⟨id, -, x, hx, hchanges⟩, -⟩
      exact absurd hchanges.writes (h x hx)
  replaces := by
    rintro ⟨x, hx, ha⟩
    exact absurd ha.writes (h x hx)

theorem reattaches_of_attended {id : Uuid} {inputs? : Option (List Attachment.Input)}
    (hi : (⟨r, none, name?⟩ : Incoming).id = .ok id) (hg : owner.Gives r inputs?)
    (h : Attended owner (owner.Changes id) id inputs? t) : Reattaches owner r name? t where
  attaches_iff := by
    have howner : OwnerChanged owner r name? t ↔ ∃ x ∈ exchanges t, owner.Changes id x := by
      constructor
      · rintro ⟨id', hi', hx⟩
        rwa [Except.ok.inj (hi.symm.trans hi')]
      · exact fun hx => ⟨id, hi, hx⟩
    rw [h.attaches_iff, howner, hg.present_iff]
  replaces := by
    rintro ⟨x, hx, ha⟩
    cases h with
    | unchanged hu => exact absurd ha (hu x hx)
    | kept hu => exact absurd ha (hu x hx)
    | replaced hbefore hc hmid hafter =>
      exact ⟨id, _, _, _, _, _, hi, hg, rfl, hbefore, hmid, hafter⟩

namespace Server

variable {s : Server} {v? : Option Http.Response}

theorem quiet_of_session {t : List Step}
    (h : ∀ x ∈ exchanges t, ∃ sessionId userId, x.1 = .run (.activeSession sessionId userId)) :
    ∀ x ∈ exchanges t, ¬x.Writes := by
  intro x hx
  obtain ⟨sessionId, userId, hsession⟩ := h x hx
  exact Exchange.Looks.not_writes ⟨_, hsession, rfl⟩

theorem Reaches.reattaches (hr : s.Reaches r (owner.wording.endpoint .change) name?)
    (ht : (s.handle r).Runs t v?) : Reattaches owner r name? t := by
  rcases hr.runs_cases (Wording.handler_mem _ .change _) ht with
    ⟨lead, rest, c?, o?, rfl, hlead, ho, -⟩ | ⟨response, -, hturned⟩
  · have hquiet := quiet_of_session hlead.sends
    rcases attends_change owner _ rest o? ho with ⟨hrest, -⟩ | ⟨id, inputs?, hi, hg, h, -⟩
    · refine reattaches_of_quiet ?_
      rw [exchanges_append, List.forall_mem_append]
      exact ⟨hquiet, hrest⟩
    · have hpreceded := h.preceded (fun x => AttachmentOwner.Changes.writes) hquiet
      exact reattaches_of_attended hi hg hpreceded
  · exact reattaches_of_quiet (quiet_of_session hturned.sends)

theorem Reaches.ownerChanged {response : Http.Response}
    (hr : s.Reaches r (owner.wording.endpoint .change) name?)
    (ht : (s.handle r).Runs t (some response)) (hs : response.status < 400) :
    OwnerChanged owner r name? t := by
  obtain ⟨lead, rest, c?, answer, rfl, -, hruns⟩ :=
    hr.served (Wording.handler_mem _ .change _) ht hs
  rcases attends_change owner _ rest _ hruns with ⟨-, hno⟩ | ⟨id, inputs?, hi, -, -, ho⟩
  · exact absurd rfl (hno answer)
  · obtain ⟨x, hx, hchanges⟩ := ho answer rfl
    exact ⟨id, hi, x, exchanges_append lead rest ▸ List.mem_append_right _ hx, hchanges⟩

theorem Reaches.names_valid {x : Exchange} (hr : s.Reaches r (owner.wording.endpoint o) name?)
    (ht : (s.handle r).Runs t v?) (hx : x ∈ exchanges t) (ha : x.Attaches) :
    ∃ inputs, owner.Names r inputs o ∧ Attachment.validateAll inputs = .ok () := by
  obtain ⟨st, hst, other, halters⟩ := ha
  rcases sent_cases ht hx with ⟨sessionId, userId, hsession⟩ | ⟨e, name', c?, hr', hsent, -⟩
  · obtain rfl := Command.run.inj (hst.symm.trans hsession)
    simp [Sql.Statement.altered?] at halters
  · obtain rfl := hr.endpoint_unique hr'
    rw [hst] at hsent
    exact Footprint.attaches hsent halters

theorem attachments_replaced (s : Server) (owner : AttachmentOwner) :
    (∀ ownerId inputs t o?, (Attachment.replace owner ownerId inputs).Runs t o? ↔
      Attachment.Replaced owner ownerId inputs t o?) ∧
    (∀ ownerId inputs t o? rows reply, Attachment.Replaced owner ownerId inputs t o? →
      (.run (Attachment.insertion owner rows), reply) ∈ exchanges t →
      rows.map List.head? = (draws t).map (fun id => some (.uuid id)) ∧
        ((draws t).Nodup → (rows.map List.head?).Nodup)) ∧
    (∀ ownerId rows,
      (Attachment.clear owner ownerId).prepared =
        ⟨"DELETE FROM " ++ Sql.quoteName owner.table ++ " WHERE " ++
          Sql.quoteName owner.ownerColumn ++ " = " ++ Sql.Part.mark 1, [.uuid ownerId]⟩ ∧
      (Attachment.insertion owner rows).prepared =
        ⟨"INSERT INTO " ++ Sql.quoteName owner.table ++ " (" ++ ", ".intercalate
          (["id", "filepath", "content_type", owner.ownerColumn].map Sql.quoteName) ++
          ") VALUES " ++ ", ".intercalate (Sql.Part.rowMarks 0 rows), rows.flatten⟩) ∧
    (∀ r name? t v?, s.Reaches r (owner.wording.endpoint .change) name? →
      (s.handle r).Runs t v? → Reattaches owner r name? t ∧
        ∀ response, v? = some response → response.status < 400 → OwnerChanged owner r name? t) ∧
    ∀ o r name? t v? inputs, s.Reaches r (owner.wording.endpoint o) name? →
      (s.handle r).Runs t v? → owner.Names r inputs o → (∃ a ∈ inputs, a.validate ≠ .ok ()) →
      Unattached t := by
  refine ⟨fun ownerId inputs t o? => Attachment.runs_replace, ?rows, ?texts, ?changed, ?invalid⟩
  case rows =>
    intro ownerId inputs t o? rows reply h hx
    have hheads := h.heads hx
    refine ⟨hheads, fun hn => ?_⟩
    rw [hheads]
    exact hn.map fun id id' heq => Sql.Value.uuid.inj (Option.some.inj heq)
  case texts =>
    exact fun ownerId rows => ⟨Attachment.prepared_clear .., Attachment.prepared_insertion ..⟩
  case changed =>
    intro r name? t v? hr ht
    refine ⟨hr.reattaches ht, ?_⟩
    rintro response rfl hs
    exact hr.ownerChanged ht hs
  case invalid =>
    rintro o r name? t v? inputs hr ht hnames ⟨a, ha, hinvalid⟩ x hx hattaches
    obtain ⟨inputs', hnames', hvalid⟩ := hr.names_valid ht hx hattaches
    obtain rfl := hnames.unique hnames'
    exact hinvalid (Attachment.validateAll_eq_ok.mp hvalid a ha)

def front : Attachment.Input := ⟨" front.png ", "image/png"⟩

def picture : Json := Attachment.naming [front]

def picturing (owner : AttachmentOwner) : Http.Request :=
  carrying cityServer.policy.secret visitorClaims
    ⟨.put, owner.wording.target .change, [("content-type", "application/json")], picture.write⟩

theorem business_picture {c? : Option Caller} {name? : Option (List Char)} :
    (⟨picturing .business, c?, name?⟩ : Incoming).body Business.Change.decode =
      .ok ⟨none, none, none, none, none, none, none, none, some [front]⟩ :=
  body_of_written rfl rfl (Attachment.naming_exact _) rfl

theorem review_picture {c? : Option Caller} {name? : Option (List Char)} :
    (⟨picturing .review, c?, name?⟩ : Incoming).body Review.Change.decode =
      .ok ⟨none, none, some [front]⟩ :=
  body_of_written rfl rfl (Attachment.naming_exact _) rfl

theorem picturing_reaches (owner : AttachmentOwner) :
    cityServer.Reaches (picturing owner) (owner.wording.endpoint .change) (some removedName) := by
  have hs : (Http.Target.ofString (owner.wording.target .change)).segments? =
      some (owner.wording.segments .change) := by cases owner <;> decide +kernel
  obtain ⟨route, hfind, hhandler, he⟩ := owner.wording.exists_route .change cityServer.policy
  rw [he]
  exact reaches_of_segments hs hfind hhandler

theorem business_pictured : (Businesses.update
    ⟨picturing .business, some (visitor .admin), some removedName⟩).Succeeds := by
  let c : Business.Change := ⟨none, none, none, none, none, none, none, none, some [front]⟩
  refine .gate rfl (.gate removing_id (.gate business_picture
    (.after (Wording.businesses_owned _) (.check rfl ?_))))
  have hstored : (existing (Business.update removedId c)).Yields ⟨Wording.shop "", []⟩ :=
    ⟨_, .send (r := made) (.send (r := single (Wording.row "" .business)) (.send (r := made)
      (.freshId (u := .nil) (.send (r := made) (.send (r := made)
        (.send (r := single (Wording.attached "" .business)) (.done _)))))))⟩
  exact .after hstored (.ok _)

theorem review_pictured : (Reviews.update
    ⟨picturing .review, some (visitor .admin), some removedName⟩).Succeeds := by
  let c : Review.Change := ⟨none, none, some [front]⟩
  refine .gate rfl (.gate removing_id (.gate review_picture
    (.after (Wording.reviews_owned _) (.check rfl ?_))))
  have hstored : (existing (Review.update removedId c)).Yields ⟨Wording.reviewed "", []⟩ :=
    ⟨_, .send (r := made) (.send (r := single (Wording.row "" .review)) (.send (r := made)
      (.freshId (u := .nil) (.send (r := made) (.send (r := made)
        (.send (r := single (Wording.attached "" .review)) (.done _)))))))⟩
  exact .after hstored (.ok _)

theorem picturing_succeeds (owner : AttachmentOwner) : (owner.wording.handler .change
    ⟨picturing owner, some (visitor .admin), some removedName⟩).Succeeds := by
  cases owner with
  | business => exact business_pictured
  | review => exact review_pictured

def Pictured (owner : AttachmentOwner) : Prop :=
  ∃ t response before mid after o?,
    (cityServer.handle (picturing owner)).Runs t (some response) ∧ response.status < 400 ∧
      t = before ++ mid ++ after ∧ Attachment.Replaced owner removedId [front] mid o?

theorem front_replaced : Pictured .business ∧ Pictured .review := by
  have pictured (owner : AttachmentOwner) : Pictured owner := by
    obtain ⟨answer, ⟨t, ht⟩, hs⟩ := picturing_succeeds owner
    have hruns := (picturing_reaches owner).runs_of_caller (Wording.handler_mem _ .change _)
      (introduces_visitor cityServer _ .admin) ht
    have hstatus : (cityServer.outer (picturing owner)
        (settle Stop.response (.ok answer))).status < 400 := by rwa [outer_status]
    obtain ⟨-, -, -, hchanged, -⟩ := attachments_replaced cityServer owner
    obtain ⟨hreattaches, howner⟩ := hchanged _ _ _ _ (picturing_reaches owner) hruns
    have hgives : owner.Gives (picturing owner) (some [front]) := owner.gives_naming rfl
    have hattaches := hreattaches.attaches_iff.mpr
      ⟨howner _ rfl hstatus, hgives.present_iff.mpr rfl⟩
    obtain ⟨id, inputs, before, mid, after, o?, hid, hgives', hsplit, -, hmid, -⟩ :=
      hreattaches.replaces hattaches
    obtain rfl := Option.some.inj (hgives.unique hgives')
    obtain rfl := Except.ok.inj (removing_id.symm.trans hid)
    exact ⟨_, _, before, mid, after, o?, hruns, hstatus, hsplit, hmid⟩
  exact ⟨pictured .business, pictured .review⟩

end Server

end Api

end CityGuide
