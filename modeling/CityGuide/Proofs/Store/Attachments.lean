import CityGuide.Proofs.Sql.Rows
import CityGuide.Proofs.Store.AccountRows
import CityGuide.Proofs.Store.Conversations

namespace CityGuide

open Store Store.Action

def Sql.Statement.altered? : Sql.Statement → Option String
  | insert table _ _ | insertAll table _ _ | update table _ _ | delete _ table _ => some table
  | markNotifications _ _ _ => some Notification.table
  | purgeSessions => some Session.table
  | select _ | find _ _ | findByEmail _ | activeSession _ _ | probe => none

theorem Sql.Statement.isWrite_of_altered {st : Sql.Statement} {table : String}
    (h : st.altered? = some table) : st.isWrite = true := by
  cases st <;> first | rfl | simp [altered?] at h

namespace Store

variable {t u : List Step}

theorem forall_exchanges_asked {P : Exchange → Prop} {c : Command} {r : Reply} :
    (∀ x ∈ exchanges [.asked c r], P x) ↔ P (c, r) := List.forall_mem_singleton

def Exchange.Attaches (x : Exchange) : Prop :=
  ∃ st, x.1 = .run st ∧ ∃ owner : AttachmentOwner, st.altered? = some owner.table

theorem Exchange.Attaches.writes {x : Exchange} (h : x.Attaches) : x.Writes := by
  obtain ⟨st, hst, owner, ha⟩ := h
  exact ⟨st, hst, Sql.Statement.isWrite_of_altered ha⟩

def Unattached (t : List Step) : Prop := ∀ x ∈ exchanges t, ¬x.Attaches

theorem unattached_append : Unattached (t ++ u) ↔ Unattached t ∧ Unattached u := by
  rw [Unattached, exchanges_append, List.forall_mem_append]
  rfl

theorem unattached_of_quiet (h : ∀ x ∈ exchanges t, ¬x.Writes) : Unattached t :=
  fun x hx ha => h x hx ha.writes

def Step.drawn? : Step → Option Uuid
  | drewId u => some u
  | asked _ _ | drewSalt _ | readClock _ => none

def draws (t : List Step) : List Uuid := t.filterMap Step.drawn?

theorem draws_append : draws (t ++ u) = draws t ++ draws u := List.filterMap_append

theorem draws_ids (ids : List Uuid) : draws (ids.map .drewId) = ids := by
  rw [draws, List.filterMap_map]
  exact List.filterMap_some

theorem exchanges_ids (ids : List Uuid) : exchanges (ids.map .drewId) = [] := by
  simp [exchanges, Step.exchange?, Function.comp_def]

end Store

namespace Attachment

variable {ε β : Type} {owner : AttachmentOwner} {ownerId : Uuid} {inputs : List Input}
  {t : List Step}

theorem clear_attaches (owner : AttachmentOwner) (ownerId : Uuid) (r : Reply) :
    Exchange.Attaches (.run (clear owner ownerId), r) := ⟨_, rfl, owner, rfl⟩

theorem prepared_clear (owner : AttachmentOwner) (ownerId : Uuid) :
    (clear owner ownerId).prepared =
      ⟨"DELETE FROM " ++ Sql.quoteName owner.table ++ " WHERE " ++
        Sql.quoteName owner.ownerColumn ++ " = " ++ Sql.Part.mark 1, [.uuid ownerId]⟩ := by
  rw [clear, Sql.Statement.prepared_delete]
  have hmarks : Sql.Part.marks 0 1 = [Sql.Part.mark 1] := rfl
  simp [Sql.Naming.write, hmarks, String.append_assoc]

theorem prepared_insertion (owner : AttachmentOwner) (rows : List (List Sql.Value)) :
    (insertion owner rows).prepared =
      ⟨"INSERT INTO " ++ Sql.quoteName owner.table ++ " (" ++
        ", ".intercalate (["id", "filepath", "content_type", owner.ownerColumn].map Sql.quoteName)
        ++ ") VALUES " ++ ", ".intercalate (Sql.Part.rowMarks 0 rows), rows.flatten⟩ :=
  Sql.Statement.prepared_insertAll ..

theorem runs_freshRows_bind {k : List (List Sql.Value) → Action ε β}
    {o? : Option (Except ε β)} :
    Runs (freshRows ownerId inputs >>= k) t o? ↔ ∃ ids w, ids.length = inputs.length ∧
      t = ids.map .drewId ++ w ∧ (k (List.zipWith (Input.row ownerId) ids inputs)).Runs w o? := by
  induction inputs generalizing k t with
  | nil =>
    rw [freshRows, pure_bind]
    constructor
    · exact fun h => ⟨[], t, rfl, rfl, h⟩
    · rintro ⟨ids, w, hl, rfl, h⟩
      obtain rfl := List.length_eq_zero_iff.mp hl
      exact h
  | cons input rest ih =>
    simp only [freshRows, bind_assoc, pure_bind, runs_newId_bind, ih]
    constructor
    · rintro ⟨id, _, rfl, ids, w, hl, rfl, h⟩
      exact ⟨id :: ids, w, by simp [hl], rfl, h⟩
    · rintro ⟨ids, w, hl, rfl, h⟩
      cases ids with
      | nil => simp at hl
      | cons id ids => exact ⟨id, _, rfl, ids, w, by simpa using hl, rfl, h⟩

inductive Replaced (owner : AttachmentOwner) (ownerId : Uuid) :
    List Input → List Step → Option (Except Failure Unit) → Prop
  | refused {inputs : List Input} (f : Failure) : Replaced owner ownerId inputs
      [.asked (.run (clear owner ownerId)) (.error f)] (some (.error f))
  | emptied (answer : Answer) : Replaced owner ownerId []
      [.asked (.run (clear owner ownerId)) (.ok answer)] (some (.ok ()))
  | filled {inputs : List Input} {ids : List Uuid} (answer : Answer) (reply : Reply)
      (hn : inputs ≠ []) (hl : ids.length = inputs.length) : Replaced owner ownerId inputs
      (.asked (.run (clear owner ownerId)) (.ok answer) :: (ids.map .drewId ++
        [.asked (.run (insertion owner (List.zipWith (fun id a => [.uuid id,
          .text (Text.trim a.filepath), .text (Text.trim a.contentType), .uuid ownerId])
          ids inputs))) reply]))
      (some (reply.map fun _ => ()))

theorem runs_replace {o? : Option (Except Failure Unit)} :
    (replace owner ownerId inputs).Runs t o? ↔ Replaced owner ownerId inputs t o? := by
  constructor
  · intro h
    rcases runs_send_bind h with ⟨f, rfl, rfl⟩ | ⟨answer, u, rfl, hu⟩
    · exact .refused f
    · by_cases hn : inputs = []
      · subst hn
        obtain ⟨rfl, rfl⟩ := runs_pure.mp hu
        exact .emptied answer
      · rw [if_neg (by simpa using hn), runs_freshRows_bind] at hu
        obtain ⟨ids, w, hl, rfl, hw⟩ := hu
        rcases runs_send_bind hw with ⟨f, rfl, rfl⟩ | ⟨answer', v, rfl, hv⟩
        · exact .filled answer (.error f) hn hl
        · obtain ⟨rfl, rfl⟩ := runs_pure.mp hv
          exact .filled answer (.ok answer') hn hl
  · rintro (f | answer | @⟨_, ids, answer, reply, hn, hl⟩)
    · exact .send (.done _)
    · exact .send (.done _)
    · refine .send ?_
      change Runs (if inputs.isEmpty then pure () else _) _ _
      rw [if_neg (by simpa using hn), runs_freshRows_bind]
      refine ⟨ids, _, hl, rfl, .send ?_⟩
      cases reply <;> exact .done _

theorem Replaced.attaches {o? : Option (Except Failure Unit)}
    (h : Replaced owner ownerId inputs t o?) : ∃ x ∈ exchanges t, x.Attaches := by
  cases h <;> exact ⟨_, .head _, clear_attaches ..⟩

theorem heads_zipWith {α γ : Type} {f : α → γ} {g : α → Input → List γ}
    (hg : ∀ a input, (g a input).head? = some (f a)) {as : List α}
    (hl : as.length = inputs.length) :
    (List.zipWith g as inputs).map List.head? = as.map fun a => some (f a) := by
  induction as generalizing inputs with
  | nil => rfl
  | cons a as ih =>
    cases inputs with
    | nil => simp at hl
    | cons input rest => simp [hg, ih (by simpa using hl)]

theorem Replaced.heads {o? : Option (Except Failure Unit)} {rows : List (List Sql.Value)}
    {reply : Reply} (h : Replaced owner ownerId inputs t o?)
    (hx : (.run (insertion owner rows), reply) ∈ exchanges t) :
    rows.map List.head? = (draws t).map fun id => some (.uuid id) := by
  cases h with
  | refused | emptied => simp [clear, insertion] at hx
  | @filled _ ids answer reply' hn hl =>
    have hdraws : ∀ c r c' r', draws (.asked c r :: (ids.map .drewId ++ [.asked c' r'])) = ids := by
      intro c r c' r'
      have hids := draws_append (t := ids.map .drewId) (u := [.asked c' r'])
      rw [draws_ids] at hids
      exact hids.trans (List.append_nil ids)
    simp only [exchanges_asked, exchanges_append, exchanges_ids, exchanges_nil, List.nil_append,
      List.mem_cons, List.not_mem_nil, or_false, Prod.mk.injEq, Command.run.injEq, clear,
      insertion, reduceCtorEq, false_and, false_or, Sql.Statement.insertAll.injEq] at hx
    obtain ⟨⟨-, -, rfl⟩, -⟩ := hx
    rw [hdraws]
    exact heads_zipWith (fun _ _ => rfl) hl

-- The number of values of a statement is sent in sixteen bits.
def maxValues : Nat := 65535

theorem length_rows {α γ : Type} {f : α → Input → List γ} {n : Nat}
    (hf : ∀ a input, (f a input).length = n) {as : List α} (hl : as.length = inputs.length) :
    (List.zipWith f as inputs).flatten.length = n * inputs.length := by
  induction as generalizing inputs with
  | nil => simp [← hl]
  | cons a as ih =>
    cases inputs with
    | nil => simp at hl
    | cons input rest =>
      rw [List.zipWith_cons_cons, List.flatten_cons, List.length_append, hf, ih (Nat.succ.inj hl),
        List.length_cons, Nat.mul_succ, Nat.add_comm]

theorem validateAll_replicate {a : Input} (ha : a.validate = .ok ()) (n : Nat) :
    validateAll (List.replicate n a) = .ok () := by
  induction n with
  | zero => rfl
  | succ n ih =>
    rw [List.replicate_succ, validateAll, ha]
    exact ih

theorem length_clear (owner : AttachmentOwner) (ownerId : Uuid) :
    (clear owner ownerId).prepared.values.length = 1 := by
  rw [prepared_clear]
  rfl

theorem length_insertion {ids : List Uuid} (hl : ids.length = inputs.length) :
    (insertion owner (List.zipWith (Input.row ownerId) ids inputs)).prepared.values.length =
      4 * inputs.length := by
  rw [insertion, Sql.Statement.values_insertAll]
  exact length_rows (n := 4) (fun _ _ => rfl) hl

theorem Replaced.lengths {o? : Option (Except Failure Unit)} {st : Sql.Statement} {reply : Reply}
    (h : Replaced owner ownerId inputs t o?) (hx : (.run st, reply) ∈ exchanges t) :
    st.prepared.values.length = 1 ∨ st.prepared.values.length = 4 * inputs.length := by
  cases h with
  | refused | emptied =>
    simp only [exchanges_asked, exchanges_nil, List.mem_singleton, Prod.mk.injEq,
      Command.run.injEq] at hx
    exact .inl (hx.1 ▸ length_clear owner ownerId)
  | filled answer reply' hn hl =>
    simp only [exchanges_asked, exchanges_append, exchanges_ids, exchanges_nil, List.nil_append,
      List.mem_cons, List.not_mem_nil, or_false, Prod.mk.injEq, Command.run.injEq] at hx
    rcases hx with ⟨rfl, -⟩ | ⟨rfl, -⟩
    · exact .inl (length_clear owner ownerId)
    · exact .inr (length_insertion hl)

theorem Replaced.inserts {o? : Option (Except Failure Unit)} {answer : Answer}
    (h : Replaced owner ownerId inputs t o?) (hn : inputs ≠ [])
    (hx : (.run (clear owner ownerId), .ok answer) ∈ exchanges t) :
    ∃ st reply, (.run st, reply) ∈ exchanges t ∧
      st.prepared.values.length = 4 * inputs.length := by
  cases h with
  | refused => simp at hx
  | emptied => exact absurd rfl hn
  | @filled _ ids answer' reply _ hl =>
    refine ⟨insertion owner (List.zipWith (Input.row ownerId) ids inputs), reply, ?_,
      length_insertion hl⟩
    rw [exchanges_asked, exchanges_append]
    exact .tail _ (List.mem_append_right _ (.head _))

theorem exists_cleared (owner : AttachmentOwner) (ownerId : Uuid) (hn : inputs ≠ []) :
    ∃ t o? answer, (replace owner ownerId inputs).Runs t o? ∧
      (.run (clear owner ownerId), .ok answer) ∈ exchanges t :=
  ⟨_, _, ⟨[], 0⟩, runs_replace.mpr (.filled _ (.ok ⟨[], 0⟩) hn (List.length_replicate (a := .nil))),
    .head _⟩

theorem replacement_fits_iff (owner : AttachmentOwner) (ownerId : Uuid) (inputs : List Input) :
    (∀ t o? st reply, (replace owner ownerId inputs).Runs t o? →
      (.run st, reply) ∈ exchanges t →
      st.prepared.values.length = 1 ∨ st.prepared.values.length = 4 * inputs.length) ∧
    ((∀ t o? st reply, (replace owner ownerId inputs).Runs t o? →
      (.run st, reply) ∈ exchanges t → st.prepared.values.length ≤ maxValues) ↔
        inputs.length ≤ 16383) := by
  have hlengths : ∀ t o? st reply, (replace owner ownerId inputs).Runs t o? →
      (.run st, reply) ∈ exchanges t →
      st.prepared.values.length = 1 ∨ st.prepared.values.length = 4 * inputs.length :=
    fun t o? st reply ht hx => (runs_replace.mp ht).lengths hx
  refine ⟨hlengths, fun hfits => ?few, fun hfew t o? st reply ht hx => ?fits⟩
  case few =>
    by_contra hmany
    have hn : inputs ≠ [] := by
      rintro rfl
      exact hmany (Nat.zero_le _)
    obtain ⟨t, o?, answer, ht, hcleared⟩ := exists_cleared owner ownerId hn
    obtain ⟨st, reply, hx, hlength⟩ := (runs_replace.mp ht).inserts hn hcleared
    have hle := hfits t o? st reply ht hx
    rw [hlength, maxValues] at hle
    omega
  case fits =>
    have hlength := hlengths t o? st reply ht hx
    rw [maxValues]
    omega

def shortest : Input := ⟨"a", "/"⟩

def tooMany : List Input := List.replicate 16384 shortest

theorem too_many_accepted : validateAll tooMany = .ok () ∧
    (∃ t o? answer, (replace .business .nil tooMany).Runs t o? ∧
      (.run (clear .business .nil), .ok answer) ∈ exchanges t) ∧
    ∀ t o? answer, (replace .business .nil tooMany).Runs t o? →
      (.run (clear .business .nil), .ok answer) ∈ exchanges t →
      ∃ st reply, (.run st, reply) ∈ exchanges t ∧ st.prepared.values.length = maxValues + 1 := by
  have hlength : tooMany.length = 16384 := List.length_replicate
  have hn : tooMany ≠ [] := List.ne_nil_of_length_pos (by omega)
  refine ⟨validateAll_replicate rfl _, exists_cleared _ _ hn, ?_⟩
  intro t o? answer ht hcleared
  obtain ⟨st, reply, hx, hvalues⟩ := (runs_replace.mp ht).inserts hn hcleared
  refine ⟨st, reply, hx, ?_⟩
  rw [hvalues, hlength, maxValues]

end Attachment

namespace Store

variable {α β : Type} {t : List Step} {table : String} {changes : List Sql.Assignment} {id : Uuid}
  {read : Row → Option α} {owner : AttachmentOwner} {inputs? : Option (List Attachment.Input)}

def Exchange.Changes (table : String) (id : Uuid) (read : Row → Option α) (x : Exchange) : Prop :=
  ∃ changes a, x.1 = .run (.update table changes id) ∧
    x.2.bind (firstRow read) = .ok (some a)

inductive Attended (owner : AttachmentOwner) (Changes : Exchange → Prop) (id : Uuid) :
    Option (List Attachment.Input) → List Step → Prop
  | unchanged {inputs? : Option (List Attachment.Input)} {t : List Step} (hu : Unattached t)
      (hc : ∀ x ∈ exchanges t, ¬Changes x) : Attended owner Changes id inputs? t
  | kept {t : List Step} (hu : Unattached t) (hc : ∃ x ∈ exchanges t, Changes x) :
      Attended owner Changes id none t
  | replaced {before after mid : List Step} {inputs : List Attachment.Input}
      {o? : Option (Except Failure Unit)} (hbefore : Unattached before)
      (hc : ∃ x ∈ exchanges before, Changes x)
      (hmid : Attachment.Replaced owner id inputs mid o?) (hafter : Unattached after) :
      Attended owner Changes id (some inputs) (before ++ mid ++ after)

theorem Exchange.Changes.writes {x : Exchange} (h : x.Changes table id read) : x.Writes := by
  obtain ⟨changes, a, hx, -⟩ := h
  exact ⟨_, hx, rfl⟩

theorem Attended.within {Changes : Exchange → Prop} {lead tail : List Step}
    (hw : ∀ x, Changes x → x.Writes) (hlead : ∀ x ∈ exchanges lead, ¬x.Writes)
    (htail : ∀ x ∈ exchanges tail, ¬x.Writes) (h : Attended owner Changes id inputs? t) :
    Attended owner Changes id inputs? (lead ++ t ++ tail) := by
  have hfirst := unattached_of_quiet hlead
  have hlast := unattached_of_quiet htail
  have hmem : ∀ {u x}, x ∈ exchanges u → x ∈ exchanges (lead ++ u) := fun hx =>
    exchanges_append lead _ ▸ List.mem_append_right _ hx
  cases h with
  | unchanged hu hc =>
    refine .unchanged ?_ ?_
    · simp only [unattached_append]
      exact ⟨⟨hfirst, hu⟩, hlast⟩
    · simp only [exchanges_append, List.forall_mem_append]
      exact ⟨⟨fun x hx => mt (hw x) (hlead x hx), hc⟩, fun x hx => mt (hw x) (htail x hx)⟩
  | kept hu hc =>
    obtain ⟨x, hx, hchanges⟩ := hc
    refine .kept ?_ ⟨x, exchanges_append _ tail ▸ List.mem_append_left _ (hmem hx), hchanges⟩
    simp only [unattached_append]
    exact ⟨⟨hfirst, hu⟩, hlast⟩
  | @replaced before after mid inputs o? hbefore hc hmid hafter =>
    obtain ⟨x, hx, hchanges⟩ := hc
    have hsplit : lead ++ (before ++ mid ++ after) ++ tail =
        (lead ++ before) ++ mid ++ (after ++ tail) := by simp only [List.append_assoc]
    rw [hsplit]
    exact .replaced (unattached_append.mpr ⟨hfirst, hbefore⟩) ⟨x, hmem hx, hchanges⟩ hmid
      (unattached_append.mpr ⟨hafter, hlast⟩)

theorem Attended.preceded {Changes : Exchange → Prop} {lead : List Step}
    (hw : ∀ x, Changes x → x.Writes) (hlead : ∀ x ∈ exchanges lead, ¬x.Writes)
    (h : Attended owner Changes id inputs? t) : Attended owner Changes id inputs? (lead ++ t) := by
  have hnone : ∀ x ∈ exchanges [], ¬x.Writes := by simp
  have hwithin := h.within hw hlead hnone
  rwa [List.append_nil] at hwithin

theorem Attended.followed {Changes : Exchange → Prop} {tail : List Step}
    (hw : ∀ x, Changes x → x.Writes) (htail : ∀ x ∈ exchanges tail, ¬x.Writes)
    (h : Attended owner Changes id inputs? t) : Attended owner Changes id inputs? (t ++ tail) := by
  have hnone : ∀ x ∈ exchanges [], ¬x.Writes := by simp
  exact h.within hw hnone htail

theorem Attended.attaches_iff {Changes : Exchange → Prop}
    (h : Attended owner Changes id inputs? t) :
    (∃ x ∈ exchanges t, x.Attaches) ↔ (∃ x ∈ exchanges t, Changes x) ∧ inputs?.isSome := by
  cases h with
  | unchanged hu hc =>
    constructor
    · rintro ⟨x, hx, ha⟩
      exact absurd ha (hu x hx)
    · rintro ⟨⟨x, hx, hchanges⟩, -⟩
      exact absurd hchanges (hc x hx)
  | kept hu hc =>
    constructor
    · rintro ⟨x, hx, ha⟩
      exact absurd ha (hu x hx)
    · rintro ⟨-, hsome⟩
      simp at hsome
  | replaced hbefore hc hmid hafter =>
    obtain ⟨x, hx, hchanges⟩ := hc
    obtain ⟨y, hy, ha⟩ := hmid.attaches
    simp only [exchanges_append]
    exact ⟨fun _ => ⟨⟨x, by simp [hx], hchanges⟩, rfl⟩, fun _ => ⟨y, by simp [hy], ha⟩⟩

namespace Action

theorem transaction_cases {body : Action Failure (Option α)}
    {o? : Option (Except Failure (Option α))} (ht : (transaction body).Runs t o?) :
    (∃ f, t = [.asked .begin (.error f)] ∧ o? = some (.error f)) ∨
      ∃ opened u v? ending, t = .asked .begin (.ok opened) :: (u ++ ending) ∧ body.Runs u v? ∧
        (∀ x ∈ exchanges ending, ¬x.1.isRun) ∧
        ∀ a, o? = some (.ok (some a)) → v? = some (.ok (some a)) := by
  cases transacted_of_runs ht with
  | unbegun f => exact .inl ⟨f, rfl, rfl⟩
  | @brokenOff opened u hu => exact .inr ⟨opened, u, _, [], by simp, hu, by simp, by simp⟩
  | abandoned reply hu ho =>
    exact .inr ⟨_, _, _, [_], rfl, hu, by simp [Command.isRun], fun a => id⟩
  | uncommitted f reply hu =>
    exact .inr ⟨_, _, _, [_, _], rfl, hu, by simp [Command.isRun], by simp⟩
  | committed hu => exact .inr ⟨_, _, _, [_], rfl, hu, by simp [Command.isRun], fun a => id⟩

theorem attended_of_change {v? : Option (Except Failure (Option α))}
    (htable : ∀ owner : AttachmentOwner, table ≠ owner.table)
    (hu : Runs (optional (.update table changes id) read >>= fun
      | none => pure none
      | some a =>
        match inputs? with
        | none => pure (some a)
        | some inputs => do
            Attachment.replace owner id inputs
            pure (some a)) t v?) :
    Attended owner (Exchange.Changes table id read) id inputs? t ∧
      ∀ a, v? = some (.ok (some a)) → ∃ x ∈ exchanges t, x.Changes table id read := by
  have hfirst : ∀ reply, Unattached [.asked (.run (.update table changes id)) reply] := by
    refine fun reply => forall_exchanges_asked.mpr ?_
    rintro ⟨st, hst, other, ha⟩
    obtain rfl := Command.run.inj hst
    exact htable other (Option.some.inj ha)
  rw [optional_eq_ask] at hu
  have hunchanged : ∀ reply, (∀ a, reply.bind (firstRow read) ≠ .ok (some a)) →
      Attended owner (Exchange.Changes table id read) id inputs?
        [.asked (.run (.update table changes id)) reply] := by
    intro reply hnone
    refine .unchanged (hfirst reply) (forall_exchanges_asked.mpr ?_)
    rintro ⟨_, a, -, ha⟩
    exact hnone a ha
  rcases runs_bind.mp hu with ⟨_, w, found?, rfl, hask, hw⟩ | ⟨e, he, rfl⟩ | ⟨hn, -⟩
  · obtain ⟨reply, rfl, hreply⟩ := runs_ask.mp hask
    have hfound := Option.some.inj hreply
    cases found? with
    | none =>
      obtain ⟨rfl, rfl⟩ := runs_pure.mp hw
      exact ⟨hunchanged reply (by simp [← hfound]), by simp⟩
    | some a =>
      have hmade : Exchange.Changes table id read (.run (.update table changes id), reply) :=
        ⟨changes, a, rfl, hfound.symm⟩
      cases inputs? with
      | none =>
        obtain ⟨rfl, rfl⟩ := runs_pure.mp hw
        exact ⟨.kept (hfirst reply) ⟨_, .head _, hmade⟩, fun _ _ => ⟨_, .head _, hmade⟩⟩
      | some inputs =>
        obtain ⟨_, hreplace, -⟩ := runs_bind_ofExcept.mp hw
        refine ⟨?_, fun _ _ => ⟨_, .head _, hmade⟩⟩
        have hnone : Unattached [] := fun x hx => absurd hx List.not_mem_nil
        have hattended := Attended.replaced (hfirst reply) ⟨_, .head _, hmade⟩
          (Attachment.runs_replace.mp hreplace) hnone
        rwa [List.append_nil] at hattended
  · obtain ⟨reply, rfl, hreply⟩ := runs_ask.mp he
    exact ⟨hunchanged reply (by simp [← Option.some.inj hreply]), by simp⟩
  · obtain ⟨_, -, hnone⟩ := runs_ask.mp hn
    simp at hnone

theorem attended_of_transaction {Changes : Exchange → Prop} {body : Action Failure (Option α)}
    {o? : Option (Except Failure (Option α))} (hw : ∀ x, Changes x → x.Writes)
    (hbody : ∀ u v?, body.Runs u v? → Attended owner Changes id inputs? u ∧
      ∀ a, v? = some (.ok (some a)) → ∃ x ∈ exchanges u, Changes x)
    (ht : (transaction body).Runs t o?) : Attended owner Changes id inputs? t ∧
      ∀ a, o? = some (.ok (some a)) → ∃ x ∈ exchanges t, Changes x := by
  have hbegin : ∀ reply, ∀ x ∈ exchanges [.asked .begin reply], ¬x.Writes := by
    refine fun reply => forall_exchanges_asked.mpr fun h => ?_
    simpa [Command.isRun] using h.isRun
  rcases transaction_cases ht with ⟨f, rfl, rfl⟩ | ⟨opened, u, v?, ending, rfl, hu, hending, ho⟩
  · exact ⟨.unchanged (unattached_of_quiet (hbegin _)) fun x hx => mt (hw x) (hbegin _ x hx),
      by simp⟩
  · obtain ⟨hattended, hchanged⟩ := hbody u v? hu
    refine ⟨hattended.within hw (hbegin (.ok opened)) fun x hx h => hending x hx h.isRun, ?_⟩
    intro a ha
    obtain ⟨x, hx, hchanges⟩ := hchanged a (ho a ha)
    exact ⟨x, by simp [hx], hchanges⟩

theorem attended_of_alteration {details : Sql.Select} {readDetails : Row → Option β}
    {o? : Option (Except Failure (Option β))}
    (htable : ∀ owner : AttachmentOwner, table ≠ owner.table)
    (ht : (alteration table changes id read owner inputs? details readDetails).Runs t o?) :
    Attended owner (Exchange.Changes table id read) id inputs? t ∧
      ∀ b, o? = some (.ok (some b)) → ∃ x ∈ exchanges t, x.Changes table id read := by
  have hw : ∀ x, Exchange.Changes table id read x → x.Writes := fun x => Exchange.Changes.writes
  rcases runs_bind.mp ht with ⟨u, w, updated, rfl, hu, hafter⟩ | ⟨e, he, rfl⟩ | ⟨hn, rfl⟩
  · obtain ⟨hattended, hchanged⟩ :=
      attended_of_transaction hw (fun _ _ => attended_of_change htable) hu
    cases updated with
    | none =>
      obtain ⟨rfl, rfl⟩ := runs_pure.mp hafter
      rw [List.append_nil]
      exact ⟨hattended, by simp⟩
    | some a =>
      rw [optional_eq_ask, runs_ask] at hafter
      obtain ⟨reply, rfl, -⟩ := hafter
      have hlook : ∀ x ∈ exchanges [.asked (.run (.select (details.byId id))) reply],
          ¬x.Writes := forall_exchanges_asked.mpr (Exchange.Looks.not_writes ⟨_, rfl, rfl⟩)
      refine ⟨hattended.followed hw hlook, fun b hb => ?_⟩
      obtain ⟨x, hx, hchanges⟩ := hchanged a rfl
      exact ⟨x, by simp [hx], hchanges⟩
  · exact ⟨(attended_of_transaction hw (fun _ _ => attended_of_change htable) he).1, by simp⟩
  · exact ⟨(attended_of_transaction hw (fun _ _ => attended_of_change htable) hn).1, by simp⟩

end Action

end Store

end CityGuide
