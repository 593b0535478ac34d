import CityGuide.Proofs.Api.Ownership
import CityGuide.Proofs.Json.ReadBack
import CityGuide.Proofs.Store.Effects

namespace CityGuide

open Store Store.Action

-- Whichever row of the table is looked up, one is there, can be read, and is such.
def Store.Exchange.Shows {α : Type} (table : String) (read : Row → Option α) (P : α → Prop)
    (x : Exchange) : Prop :=
  ∀ id, x.1 = .run (.find table id) → ∃ a, x.2.bind (firstRow read) = .ok (some a) ∧ P a

namespace Store.Action

variable {ε ε' α β : Type} {F Q : Exchange → Prop} {P : α → Prop}

def Ensures (Q : Exchange → Prop) (a : Action ε α) : Prop :=
  ∀ t x, a.Runs t (some (.ok x)) → ∃ y ∈ exchanges t, Q y

namespace Ensures

theorem bind_left {a : Action ε α} {k : α → Action ε β} (h : Ensures Q a) :
    Ensures Q (a >>= k) := by
  intro t x ht
  rcases runs_bind.mp ht with ⟨u, w, y, rfl, hu, -⟩ | ⟨e, -, he⟩ | ⟨-, hn⟩
  · obtain ⟨z, hz, hq⟩ := h u y hu
    exact ⟨z, exchanges_append u w ▸ List.mem_append_left _ hz, hq⟩
  · simp at he
  · simp at hn

theorem bind_right {a : Action ε α} {k : α → Action ε β} (h : ∀ x, Ensures Q (k x)) :
    Ensures Q (a >>= k) := by
  intro t x ht
  rcases runs_bind.mp ht with ⟨u, w, y, rfl, -, hw⟩ | ⟨e, -, he⟩ | ⟨-, hn⟩
  · obtain ⟨z, hz, hq⟩ := h y w x hw
    exact ⟨z, exchanges_append u w ▸ List.mem_append_right _ hz, hq⟩
  · simp at he
  · simp at hn

theorem mapError {f : ε → ε'} {a : Action ε α} (h : Ensures Q a) : Ensures Q (a.mapError f) := by
  intro t x ht
  obtain ⟨v?, hv, hx⟩ := runs_mapError.mp ht
  match v?, hx with
  | some (.ok y), _ => exact h t y hv

theorem optional {st : Sql.Statement} {read : Row → Option α} (h : ∀ r, Q (.run st, r)) :
    Ensures Q (Action.optional st read) := by
  refine bind_left fun t x ht => ?_
  obtain ⟨r, rfl, -⟩ := runs_send.mp ht
  exact ⟨_, .head _, h r⟩

theorem transaction {body : Action Failure (Option α)} (h : Ensures Q body) :
    Ensures Q (Action.transaction body) := by
  refine bind_right fun _ => ?_
  intro t x ht
  rcases runs_attempt_bind.mp ht with ⟨u, w, o, rfl, hu, hw⟩ | ⟨-, hn⟩
  · cases o with
    | error e =>
      obtain ⟨_, -, he⟩ := runs_abandon_bind hw
      simp at he
    | ok y =>
      obtain ⟨z, hz, hq⟩ := h u y hu
      exact ⟨z, exchanges_append u w ▸ List.mem_append_left _ hz, hq⟩
  · simp at hn

end Ensures

def Leads (F Q : Exchange → Prop) (a : Action ε α) : Prop :=
  ∀ t v?, a.Runs t v? → (∀ x ∈ exchanges t, F x) → ∃ x ∈ exchanges t, Q x

def Clears (F : Exchange → Prop) (P : α → Prop) (a : Action ε α) : Prop :=
  ∀ t v?, a.Runs t v? → (∀ x ∈ exchanges t, F x) → ∃ x, v? = some (.ok x) ∧ P x

namespace Clears

theorem pure {x : α} (hx : P x) : Clears F P (Pure.pure x : Action ε α) := by
  rintro t v? ht -
  obtain ⟨-, rfl⟩ := runs_pure.mp ht
  exact ⟨x, rfl, hx⟩

theorem gate {r : Except ε α} {x : α} (hr : r = .ok x) (hx : P x) :
    Clears F P (ofExcept r) := by
  subst hr
  exact pure hx

theorem runs_bind {a : Action ε α} {k : α → Action ε β} {t : List Step}
    {v? : Option (Except ε β)} (ha : Clears F P a) (ht : (a >>= k).Runs t v?)
    (hF : ∀ x ∈ exchanges t, F x) :
    ∃ u w x, t = u ++ w ∧ P x ∧ (k x).Runs w v? ∧ ∀ y ∈ exchanges w, F y := by
  rcases Action.runs_bind.mp ht with ⟨u, w, x, rfl, hu, hw⟩ | ⟨e, he, -⟩ | ⟨hn, -⟩
  · rw [exchanges_append, List.forall_mem_append] at hF
    obtain ⟨_, hx, hp⟩ := ha u _ hu hF.1
    obtain rfl := Except.ok.inj (Option.some.inj hx)
    exact ⟨u, w, x, rfl, hp, hw, hF.2⟩
  · obtain ⟨_, hx, -⟩ := ha t _ he hF
    simp at hx
  · obtain ⟨_, hx, -⟩ := ha t _ hn hF
    simp at hx

theorem bind {P' : β → Prop} {a : Action ε α} {k : α → Action ε β} (ha : Clears F P a)
    (hk : ∀ x, P x → Clears F P' (k x)) : Clears F P' (a >>= k) := by
  intro t v? ht hF
  obtain ⟨u, w, x, rfl, hp, hw, hrest⟩ := ha.runs_bind ht hF
  exact hk x hp w v? hw hrest

end Clears

namespace Leads

theorem bind {a : Action ε α} {k : α → Action ε β} (h : Leads F Q a) : Leads F Q (a >>= k) := by
  intro t v? ht hF
  rcases runs_bind.mp ht with ⟨u, w, x, rfl, hu, -⟩ | ⟨e, he, -⟩ | ⟨hn, -⟩
  · rw [exchanges_append, List.forall_mem_append] at hF
    obtain ⟨y, hy, hq⟩ := h u _ hu hF.1
    exact ⟨y, exchanges_append u w ▸ List.mem_append_left _ hy, hq⟩
  · exact h t _ he hF
  · exact h t _ hn hF

theorem after {a : Action ε α} {k : α → Action ε β} (ha : Clears F P a)
    (hk : ∀ x, P x → Leads F Q (k x)) : Leads F Q (a >>= k) := by
  intro t v? ht hF
  obtain ⟨u, w, x, rfl, hp, hw, hrest⟩ := ha.runs_bind ht hF
  obtain ⟨y, hy, hq⟩ := hk x hp w v? hw hrest
  exact ⟨y, exchanges_append u w ▸ List.mem_append_right _ hy, hq⟩

theorem gate {r : Except ε α} {x : α} {k : α → Action ε β} (hr : r = .ok x)
    (h : Leads F Q (k x)) : Leads F Q (ofExcept r >>= k) := by
  subst hr
  exact h

theorem mapError {f : ε → ε'} {a : Action ε α} (h : Leads F Q a) : Leads F Q (a.mapError f) := by
  intro t v? ht hF
  obtain ⟨w?, hw, -⟩ := runs_mapError.mp ht
  exact h t w? hw hF

theorem optional {st : Sql.Statement} {read : Row → Option α} (h : ∀ r, Q (.run st, r)) :
    Leads F Q (Action.optional st read) := by
  refine bind fun t v? ht _ => ?_
  obtain ⟨r, rfl, -⟩ := runs_send.mp ht
  exact ⟨_, .head _, h r⟩

theorem transaction {body : Action Failure (Option α)}
    (hF : ∀ r, F (.begin, r) → ∃ answer, r = .ok answer) (h : Leads F Q body) :
    Leads F Q (Action.transaction body) := by
  intro t v? ht hx
  rcases runs_send_bind ht with ⟨f, rfl, -⟩ | ⟨answer, u, rfl, hu⟩
  · obtain ⟨_, hfailed⟩ := hF _ (hx _ (.head _))
    cases hfailed
  · rw [exchanges_asked, List.forall_mem_cons] at hx
    have hbody : Leads F Q (lift (ExceptT.run body) : Action Failure _) := by
      intro w w? hw hall
      obtain ⟨o?, ho, -⟩ := runs_lift.mp hw
      exact h w o? ho hall
    obtain ⟨y, hy, hq⟩ := hbody.bind u v? hu hx.2
    exact ⟨y, .tail _ hy, hq⟩

end Leads

end Store.Action

namespace Api

namespace Handling

variable {α β : Type} {a : α}

def Yields (p : Handling α) (a : α) : Prop := ∃ t, p.Runs t (some (.ok a))

def Succeeds (p : Handling Http.Response) : Prop := ∃ answer, p.Yields answer ∧ answer.status < 400

theorem Yields.bind {p : Handling α} {k : α → Handling β} {b : β} (hp : p.Yields a)
    (hk : (k a).Yields b) : (p >>= k).Yields b := by
  obtain ⟨t, ht⟩ := hp
  obtain ⟨u, hu⟩ := hk
  exact ⟨t ++ u, runs_bind.mpr (.inl ⟨t, u, a, rfl, ht, hu⟩)⟩

theorem yields_of_eq {r : Except Stop α} (h : r = .ok a) : Yields (Action.ofExcept r) a :=
  ⟨[], runs_ofExcept.mpr ⟨rfl, congrArg some h.symm⟩⟩

namespace Succeeds

variable {k : α → Handling Http.Response}

theorem ok (j : Json) : Succeeds (ok j) := ⟨_, ⟨[], .done _⟩, (by decide : 200 < 400)⟩

theorem created (j : Json) : Succeeds (created j) := ⟨_, ⟨[], .done _⟩, (by decide : 201 < 400)⟩

theorem after {p : Handling α} (hp : p.Yields a) (h : Succeeds (k a)) : Succeeds (p >>= k) := by
  obtain ⟨answer, hanswer, hs⟩ := h
  exact ⟨answer, hp.bind hanswer, hs⟩

theorem gate {r : Except Stop α} (hr : r = .ok a) (h : Succeeds (k a)) :
    Succeeds (Action.ofExcept r >>= k) := after (yields_of_eq hr) h

theorem check {v : Valid} {k : Unit → Handling Http.Response} (hv : v = .ok ())
    (h : Succeeds (k ())) : Succeeds (ofValid v >>= k) := gate (congrArg _ hv) h

end Succeeds

def single (row : Row) : Reply := .ok ⟨[row], 1⟩

def made : Reply := .ok ⟨[], 1⟩

variable {ofRow : Row → Option α}

theorem firstRow_single (row : Row) (h : ofRow row = some a) :
    firstRow ofRow ⟨[row], 1⟩ = .ok (some a) := by
  simp [firstRow, h, decode, Except.map]

theorem runs_single {st : Sql.Statement} (row : Row) (h : ofRow row = some a) :
    (Action.optional st ofRow).Runs [.asked (.run st) (single row)] (some (.ok (some a))) := by
  rw [optional_eq_ask, runs_ask]
  exact ⟨_, rfl, congrArg some (firstRow_single row h).symm⟩

theorem existing_yields {st : Sql.Statement} (row : Row) (h : ofRow row = some a) :
    (existing (Action.optional st ofRow)).Yields a :=
  ⟨_, runs_existing.mpr ⟨_, runs_single row h, rfl⟩⟩

def stored (ofRow : Row → Option α) (reply : Reply) : Except Stop α :=
  (reply.bind fun answer => (firstRow ofRow answer).bind atLeastOne).mapError fun f =>
    .error (.ofFailure f)

theorem runs_stored {st : Uuid → Sql.Statement} (id : Uuid) (reply : Reply) :
    (ofStore do
      let id ← Action.newId
      Action.one (st id) ofRow).Runs [.drewId id, .asked (.run (st id)) reply]
      (some (stored ofRow reply)) := by
  have hone : (Action.one (st id) ofRow).Runs [.asked (.run (st id)) reply] _ :=
    one_eq_ask (st id) ofRow ▸ runs_ask.mpr ⟨reply, rfl, rfl⟩
  exact runs_mapError.mpr ⟨_, .freshId hone, rfl⟩

theorem stored_yields {st : Uuid → Sql.Statement} (row : Row) (h : ofRow row = some a) :
    (ofStore do
      let id ← Action.newId
      Action.one (st id) ofRow).Yields a := by
  have hstored : stored ofRow (single row) = .ok a := by
    change ((firstRow ofRow ⟨[row], 1⟩).bind atLeastOne).mapError _ = .ok a
    rw [firstRow_single row h]
    rfl
  exact ⟨_, hstored ▸ runs_stored .nil (single row)⟩

section Looks

variable {table : String} {id : Uuid} {read : Row → Option α} {F : Exchange → Prop}
  {P : α → Prop} {check : α → Result Unit}

theorem clears_look (h : ∀ x, F x → x.Shows table read P) :
    Clears F P (existing (Action.optional (.find table id) read)) := by
  intro t v? ht hF
  obtain ⟨reply, rfl, rfl⟩ := runs_look.mp ht
  obtain ⟨a, ha, hp⟩ := h _ (hF _ (.head _)) id rfl
  exact ⟨a, by rw [existed_eq_ok.mpr ha], hp⟩

theorem clears_checked (h : ∀ x, F x → x.Shows table read fun a => check a = .ok ()) :
    Clears F (fun _ => True) (do
      let a ← existing (Action.optional (.find table id) read)
      ofResult (check a)) :=
  (clears_look h).bind fun _ hcheck => .gate (congrArg _ hcheck) trivial

theorem clears_kept (h : ∀ x, F x → x.Shows table read P) (hcheck : ∀ a, P a → check a = .ok ()) :
    Clears F P (do
      let a ← existing (Action.optional (.find table id) read)
      ofResult (check a)
      pure a) := by
  refine (clears_look h).bind fun a ha => ?_
  rw [kept_eq, hcheck a ha]
  exact .pure ha

end Looks

end Handling

theorem body_of_written {α : Type} {dec : Json.Decoder α} {a : α} {j : Json} {r : Http.Request}
    {c? : Option Caller} {name? : Option (List Char)}
    (htype : r.headerText? "content-type" = some "application/json") (hbody : r.body = .whole j.write)
    (hj : j.Exact) (h : dec (.ofValue j) = .ok a) :
    (⟨r, c?, name?⟩ : Incoming).body dec = .ok a := by
  have hjson : Http.MediaType.isJson "application/json" = true := by decide +kernel
  have htext : Json.decodeText dec j.write = .ok a := by
    rw [Json.decodeText, Json.write, String.toList_ofList, Json.decodeChars_chars dec hj, h]
  rw [Incoming.body, htype, hbody, Option.map_some, hjson]
  simp only [Option.getD_some, if_true, Incoming.decoded, htext]

end Api

end CityGuide
