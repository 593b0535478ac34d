import CityGuide.Proofs.Store.Brackets
import CityGuide.Proofs.Store.Entities

namespace CityGuide

open Store Store.Action

namespace Attachment

variable {β : Type}

theorem freshRows_bind_orderly {ownerId : Uuid} {inputs : List Input}
    {k : List (List Sql.Value) → Action Failure (Option β)} (h : ∀ rows, Orderly (k rows)) :
    Orderly (freshRows ownerId inputs >>= k) := by
  induction inputs generalizing k with
  | nil =>
    rw [freshRows, pure_bind]
    exact h []
  | cons input rest ih =>
    simp only [freshRows, bind_assoc, pure_bind]
    exact .newId_bind fun id => ih fun rows => h _

theorem replace_bind_orderly {owner : AttachmentOwner} {ownerId : Uuid} {inputs : List Input}
    {k : Unit → Action Failure (Option β)} (h : Orderly (k ())) :
    Orderly (replace owner ownerId inputs >>= k) := by
  simp only [replace, bind_assoc]
  refine .run_bind (by simp [clear]) fun _ => ?_
  split
  · rwa [pure_bind]
  · simp only [bind_assoc, pure_bind]
    exact freshRows_bind_orderly fun rows => .run_bind (by simp [insertion]) fun _ => h

end Attachment

namespace Store

variable {α β γ : Type}

open Exchange

inductive Detailed : String → Sql.Select → Prop
  | business : Detailed Business.table Business.detailed
  | review : Detailed Review.table Review.detailed

inductive ReadsBack : Sql.Statement → Sql.Statement → Prop
  | inserted {table : String} {details : Sql.Select} {row : List Sql.Assignment}
      {ending : Sql.Ending} {id : Uuid} (hd : Detailed table details)
      (hid : row.lookup "id" = some (.uuid id)) :
      ReadsBack (.insert table row ending) (.select (details.byId id))
  | updated {table : String} {details : Sql.Select} {changes : List Sql.Assignment} {id : Uuid}
      (hd : Detailed table details) :
      ReadsBack (.update table changes id) (.select (details.byId id))

def ReadBack (inner after : List Exchange) : Prop :=
  after = [] ∨ ∃ st back before reply, (.run st, before) ∈ inner ∧ ReadsBack st back ∧
    after = [(.run back, reply)]

theorem ReadBack.looks {inner after : List Exchange} (h : ReadBack inner after) :
    ∀ x ∈ after, x.Looks := by
  rcases h with rfl | ⟨st, back, before, reply, -, hback, rfl⟩
  · simp
  · rw [List.forall_mem_singleton]
    refine ⟨back, rfl, ?_⟩
    cases hback <;> rfl

inductive Outcome where
  | failed
  | missing
  | settled
  deriving DecidableEq, Repr

def outcome : Except Failure (Option α) → Outcome
  | .error _ => .failed
  | .ok none => .missing
  | .ok (some _) => .settled

def Sound (inner : List Exchange) : Prop := ∀ x ∈ inner, x.1.isRun ∧ ¬x.Fails ∧ ¬x.Rowless

inductive Conversation : List Exchange → Outcome → Prop
  | unbegun (f : Failure) : Conversation [(.begin, .error f)] .failed
  | abandoned {opened : Answer} {inner : List Exchange} {o : Outcome} (reply : Reply)
      (hr : ∀ x ∈ inner, x.1.isRun) (ho : o ≠ .settled)
      (hm : (∃ x ∈ inner, x.Rowless) → o = .missing) :
      Conversation ((.begin, .ok opened) :: (inner ++ [(.rollback, reply)])) o
  | uncommitted {opened : Answer} {inner : List Exchange} (f : Failure) (reply : Reply)
      (hi : Sound inner) :
      Conversation ((.begin, .ok opened) :: (inner ++ [(.commit, .error f), (.rollback, reply)]))
        .failed
  | committed {opened answer : Answer} {inner after : List Exchange} {o : Outcome}
      (hi : Sound inner) (ha : ReadBack inner after) :
      Conversation ((.begin, .ok opened) :: (inner ++ (.commit, .ok answer) :: after)) o

namespace Action

theorem Settled.sound {xs : List Exchange} {a : α} (h : Settled xs (.ok (some a))) : Sound xs := by
  refine fun x hx => ⟨h.runs x hx, fun hf => ?_, fun hr => ?_⟩
  · obtain ⟨f, hf⟩ := h.fails x hx hf
    simp at hf
  · simpa using h.rowless.mp ⟨x, hx, hr⟩

theorem Settled.missing {xs : List Exchange} {o : Except Failure (Option α)} (h : Settled xs o)
    (hr : ∃ x ∈ xs, x.Rowless) : outcome o = .missing := by
  rw [h.rowless.mp hr]
  rfl

theorem conversation_of_runs {body : Action Failure (Option α)} {k : Option α → Action Failure β}
    {f : β → Option γ} (hb : Orderly body)
    (hnone : ∀ u, body.Runs u (some (.ok none)) → ∃ b, k none = pure b ∧ f b = none)
    (hsome : ∀ a u w o?, body.Runs u (some (.ok (some a))) → (k (some a)).Runs w o? →
      (∃ o, o? = some o) ∧ ReadBack (exchanges u) (exchanges w))
    {t : List Step} {o? : Option (Except Failure β)} (ht : (transaction body >>= k).Runs t o?) :
    ∃ o, o? = some o ∧ Conversation (exchanges t) (outcome (o.map f)) := by
  rcases runs_bind.mp ht with ⟨_, w, found?, rfl, hbegun, hw⟩ | ⟨e, he, rfl⟩ | ⟨hn, -⟩
  · generalize ho : some (Except.ok found?) = r? at hbegun
    cases transacted_of_runs hbegun with
    | unbegun | brokenOff | uncommitted => simp at ho
    | abandoned reply hu hne =>
      obtain rfl := Option.some.inj ho
      cases found? with
      | some a => exact absurd rfl (hne a)
      | none =>
        obtain ⟨b, hk, hf⟩ := hnone _ hu
        rw [hk, runs_pure] at hw
        obtain ⟨rfl, rfl⟩ := hw
        obtain ⟨_, hsettled, hs⟩ := hb _ _ hu
        refine ⟨_, rfl, ?_⟩
        simp only [List.append_nil, exchanges_append, exchanges_asked, exchanges_nil,
          List.cons_append, Except.map, hf]
        exact .abandoned reply hs.runs (by simp [outcome]) fun _ => rfl
    | committed hu =>
      obtain rfl := Except.ok.inj (Option.some.inj ho)
      obtain ⟨_, hsettled, hs⟩ := hb _ _ hu
      obtain rfl := Option.some.inj hsettled
      obtain ⟨⟨o, rfl⟩, hback⟩ := hsome _ _ _ _ hu hw
      refine ⟨o, rfl, ?_⟩
      simp only [exchanges_append, exchanges_asked, List.cons_append, List.append_assoc,
        List.nil_append]
      exact .committed hs.sound hback
  · refine ⟨_, rfl, ?_⟩
    generalize ho : some (Except.error e) = r? at he
    cases transacted_of_runs he with
    | unbegun => exact .unbegun _
    | brokenOff | committed => simp at ho
    | abandoned reply hu =>
      obtain rfl := Option.some.inj ho
      obtain ⟨_, hsettled, hs⟩ := hb _ _ hu
      obtain rfl := Option.some.inj hsettled
      simp only [exchanges_append, exchanges_asked, exchanges_nil, List.cons_append]
      exact .abandoned reply hs.runs (by simp [outcome, Except.map]) fun hr => hs.missing hr
    | uncommitted f reply hu =>
      obtain ⟨_, hsettled, hs⟩ := hb _ _ hu
      obtain rfl := Option.some.inj hsettled
      simp only [exchanges_append, exchanges_asked, exchanges_nil, List.cons_append]
      exact .uncommitted f reply hs.sound
  · generalize ho : none = r? at hn
    cases transacted_of_runs hn with
    | brokenOff hu =>
      obtain ⟨_, hsettled, -⟩ := hb _ _ hu
      simp at hsettled
    | unbegun | abandoned | uncommitted | committed => simp at ho

def Yields (P : α → Prop) (a : Action ε α) : Prop := ∀ t x, a.Runs t (some (.ok x)) → P x

theorem Yields.bind {P : β → Prop} {a : Action ε α} {k : α → Action ε β}
    (h : ∀ x, Yields P (k x)) : Yields P (a >>= k) := by
  intro t y ht
  rcases runs_bind.mp ht with ⟨_, w, x, -, -, hw⟩ | ⟨e, -, he⟩ | ⟨-, hn⟩
  · exact h x w y hw
  · simp at he
  · simp at hn

theorem Yields.pure {P : α → Prop} {a : α} (h : P a) : Yields P (Pure.pure a : Action ε α) := by
  intro t x ht
  obtain ⟨-, hx⟩ := runs_pure.mp ht
  exact Except.ok.inj (Option.some.inj hx) ▸ h

def creation (table : String) (row : Uuid → List Sql.Assignment) (owner : AttachmentOwner)
    (inputs : List Attachment.Input) (details : Sql.Select) (read : Row → Option α) :
    Action Failure α := do
  let id ← newId
  let _ ← transaction do
    let _ ← run (.insert table (row id) .nothing)
    Attachment.replace owner id inputs
    pure (some ())
  one (.select (details.byId id)) read

theorem conversation_of_creation {table : String} {row : Uuid → List Sql.Assignment}
    {owner : AttachmentOwner} {inputs : List Attachment.Input} {details : Sql.Select}
    {read : Row → Option α} (hd : Detailed table details)
    (hrow : ∀ id, (row id).lookup "id" = some (.uuid id)) {t : List Step}
    {o? : Option (Except Failure α)}
    (ht : (creation table row owner inputs details read).Runs t o?) :
    ∃ o, o? = some o ∧ Conversation (exchanges t) (outcome (o.map some)) := by
  change (Program.freshId _).Runs t o? at ht
  obtain ⟨id, u, rfl, hu⟩ := Program.runs_freshId.mp ht
  rw [exchanges_drewId]
  refine conversation_of_runs ?_ ?_ ?_ hu
  · exact .run_bind (by simp) fun _ => Attachment.replace_bind_orderly (.found ())
  · intro w hw
    have hfound : Yields (· ≠ none) (do
        let _ ← run (.insert table (row id) .nothing)
        Attachment.replace owner id inputs
        pure (some ())) := .bind fun _ => .bind fun _ => .pure (by simp)
    exact absurd rfl (hfound _ _ hw)
  · intro _ w after o? hw hafter
    rw [one_eq_ask, runs_ask] at hafter
    obtain ⟨reply, rfl, rfl⟩ := hafter
    rcases runs_send_bind hw with ⟨f, -, hf⟩ | ⟨answer, rest, rfl, -⟩
    · simp at hf
    · exact ⟨⟨_, rfl⟩, .inr ⟨_, _, _, reply, .head _, .inserted hd (hrow id), rfl⟩⟩

def alteration (table : String) (changes : List Sql.Assignment) (id : Uuid)
    (read : Row → Option α) (owner : AttachmentOwner) (inputs? : Option (List Attachment.Input))
    (details : Sql.Select) (readDetails : Row → Option β) : Action Failure (Option β) := do
  let updated ← transaction do
    match ← optional (.update table changes id) read with
    | none => pure none
    | some a => do
        match inputs? with
        | none => pure (some a)
        | some inputs => do
            Attachment.replace owner id inputs
            pure (some a)
  match updated with
  | none => pure none
  | some _ => optional (.select (details.byId id)) readDetails

theorem conversation_of_alteration {table : String} {changes : List Sql.Assignment} {id : Uuid}
    {read : Row → Option α} {owner : AttachmentOwner} {inputs? : Option (List Attachment.Input)}
    {details : Sql.Select} {readDetails : Row → Option β} (hd : Detailed table details)
    {t : List Step} {o? : Option (Except Failure (Option β))}
    (ht : (alteration table changes id read owner inputs? details readDetails).Runs t o?) :
    ∃ o, o? = some o ∧ Conversation (exchanges t) (outcome o) := by
  have hconversation := conversation_of_runs (f := fun b : Option β => b) ?_ ?_ ?_ ht
  · obtain ⟨o, rfl, ho⟩ := hconversation
    refine ⟨o, rfl, ?_⟩
    cases o <;> exact ho
  · refine .update_bind rfl fun a => ?_
    cases inputs? with
    | none => exact .found a
    | some inputs => exact Attachment.replace_bind_orderly (.found a)
  · exact fun u hu => ⟨none, rfl, rfl⟩
  · intro a u w o? hu hw
    rw [optional_eq_ask, runs_ask] at hw
    obtain ⟨reply, rfl, rfl⟩ := hw
    rw [optional_eq_ask] at hu
    rcases runs_bind.mp hu with ⟨_, rest, _, rfl, hask, -⟩ | ⟨e, -, he⟩ | ⟨-, hn⟩
    · obtain ⟨before, rfl, -⟩ := runs_ask.mp hask
      exact ⟨⟨_, rfl⟩, .inr ⟨_, _, before, reply, .head _, .updated hd, rfl⟩⟩
    · simp at he
    · simp at hn

end Action

end Store

theorem Business.create_eq (ownerId : Uuid) (d : Draft) : create ownerId d =
    creation table (d.row · ownerId) .business d.attachments detailed Details.ofRow := by
  simp only [create, creation, one]
  refine bind_congr fun id => bind_congr fun _ => bind_congr fun found => ?_
  cases found <;> rfl

theorem Business.update_eq (id : Uuid) (c : Change) : update id c =
    alteration table c.assignments id ofRow .business c.attachments detailed Details.ofRow := by
  rw [update, alteration]
  refine congr (congrArg _ (congrArg transaction (bind_congr fun found => ?_))) (funext fun o => ?_)
  · cases found with
    | none => rfl
    | some _ => cases c.attachments <;> rfl
  · cases o <;> rfl

theorem Review.create_eq (userId : Uuid) (d : Draft) : create userId d =
    creation table (d.row · userId) .review d.attachments detailed Details.ofRow := by
  simp only [create, creation, one]
  refine bind_congr fun id => bind_congr fun _ => bind_congr fun found => ?_
  cases found <;> rfl

theorem Review.update_eq (id : Uuid) (c : Change) : update id c =
    alteration table c.assignments id ofRow .review c.attachments detailed Details.ofRow := by
  rw [update, alteration]
  refine congr (congrArg _ (congrArg transaction (bind_congr fun found => ?_))) (funext fun o => ?_)
  · cases found with
    | none => rfl
    | some _ => cases c.attachments <;> rfl
  · cases o <;> rfl

theorem Follower.conversation_of_toggle {followerId followingId : Uuid} {t : List Step}
    {o? : Option (Except Failure Toggle)} (ht : (toggle followerId followingId).Runs t o?) :
    ∃ o, o? = some o ∧ Conversation (exchanges t) (outcome (o.map some)) := by
  refine conversation_of_runs ?_ ?_ ?_ ht
  · refine .touched_bind (by simp) fun removed => ?_
    split
    · exact .found false
    · exact .run_bind (by simp) fun _ => .found true
  · intro u hu
    have hfound : Yields (· ≠ none) (do
        let removed ← touched (.delete .plain table (keys followerId followingId))
        if removed then pure (some false)
        else do
          let _ ← run (.insert table (keys followerId followingId) .keepExisting)
          pure (some true)) := by
      refine .bind fun removed => ?_
      split
      · exact .pure (by simp)
      · exact .bind fun _ => .pure (by simp)
    exact absurd rfl (hfound _ _ hu)
  · intro a u w o? _ hw
    obtain ⟨rfl, rfl⟩ := runs_pure.mp hw
    exact ⟨⟨_, rfl⟩, .inl rfl⟩

end CityGuide
