import CityGuide.Proofs.Api.Composition
import CityGuide.Proofs.Listing.Conjuncts
import CityGuide.Proofs.Store.Parallel

namespace CityGuide.Api

open Http (Request Response)
open Store Handling

def Indistinct (L : Likeness) : Prop :=
  ∀ f f', L.failures f f' → Error.ofFailure f = Error.ofFailure f'

variable {personal : Prop} {L : Likeness} {α : Type}

theorem ofStore_parallel (hf : Indistinct L) {α' : Type} {R : α → α' → Prop} {a : Action Failure α}
    {a' : Action Failure α'} (h : Action.Parallel L L.failures R a a') :
    Action.Parallel L Eq R (ofStore a) (ofStore a') :=
  .mapError h fun f f' hff => by rw [hf f f' hff]

def Pages {α' : Type} (R : α → α' → Prop) (page : Listing.Page α) (page' : Listing.Page α') : Prop :=
  List.Forall₂ R page.items page'.items ∧ page.count = page'.count

theorem fetchPage_related (hL : L.Faithful personal) {source : Listing.Source} {base : Sql.Select}
    {α' : Type} {R : α → α' → Prop} {read : Row → Option α} {read' : Row → Option α'}
    (hb : base.isCount = false) (hr : ∀ s : Sql.Select, s.isCount = false → s.table = base.table →
      ∀ row row', L.rows (.run (.select s)) row row' → Option.Rel R (read row) (read' row'))
    (request : Listing.Request) :
    Action.Parallel L (fun u u' => listError u = listError u') (Pages R)
      (fetchPage source base read request) (fetchPage source base read' request) := by
  cases hcompiled : source.compile base request with
  | error u =>
    simp only [fetchPage, hcompiled]
    exact .ofExcept (.failed rfl)
  | ok compiled =>
    obtain ⟨p, order, -, -, rfl⟩ := Listing.Source.compile_eq_ok.mp hcompiled
    simp only [fetchPage, hcompiled, Except.mapError, Action.ofExcept_ok_bind]
    refine .bind (.mapError (.all (hL.commands _) hL.failures (hr _ hb rfl)) fun _ _ _ => rfl) ?_
    intro items items' hitems
    refine .bind (.mapError (hL.one (.counted rfl)) fun _ _ _ => rfl) fun n _ hn => hn ▸ ?_
    exact .ofExcept (.held ⟨hitems, rfl⟩)

theorem fetchPage_parallel (hL : L.Faithful personal) {source : Listing.Source}
    {base : Sql.Select} {read : Row → Option α} (hb : base.isCount = false)
    (hr : Selected personal base.table.name read) (request : Listing.Request) :
    Action.Parallel L (fun u u' => listError u = listError u') Eq
      (fetchPage source base read request) (fetchPage source base read request) := by
  have hread (s : Sql.Select) (hs : s.isCount = false) (htable : s.table = base.table) :=
    hL.read_related (.selected hs (htable ▸ hr))
  refine (fetchPage_related hL hb hread request).mono ?_
  rintro ⟨items, n⟩ ⟨items', n'⟩ ⟨hitems, hcount⟩
  rw [List.forall₂_eq_eq_eq] at hitems
  rw [show items = items' from hitems, show n = n' from hcount]

theorem Talks.parallel (hL : L.Faithful personal) (hf : Indistinct L) {a : Handling Response}
    (h : Talks personal a) : Action.Parallel L Eq Eq a a := by
  induction h with
  | answer _ => exact .pure rfl
  | stop _ => exact .ofExcept (.failed rfl)
  | gate _ _ ih => exact .gate (Outcomes.refl _) fun x _ hx => hx ▸ ih x
  | stored ha _ ih => exact .bind (ofStore_parallel hf (hL.stores ha)) fun x _ hx => hx ▸ ih x
  | listed hb hr _ ih =>
    refine .bind (.mapError (fetchPage_parallel hL hb hr _) fun u u' hu => ?_) fun x _ hx => hx ▸ ih x
    rw [hu]
  | now _ ih => exact .bind .now fun i _ hi => hi ▸ ih i
  | crash => exact .crash
  | probed i =>
    refine .attempt (.send (hL.commands _)) fun o o' ho => ?_
    cases ho with
    | failed => exact .pure rfl
    | held => exact .pure rfl

namespace Server

variable {s : Server} {r : Request} {body : Http.Content}

theorem sessionCaller_parallel {E : Failure → Failure → Prop} {sessionId userId : Uuid}
    {o o' : Except Failure (Option UserType)} (h : Outcomes E Eq o o') :
    sessionCaller sessionId userId o = sessionCaller sessionId userId o' := by
  cases h with
  | failed => rfl
  | held h => rw [h]

theorem authenticate_parallel (hL : L.Faithful personal) (token : String) :
    Action.Parallel L Eq Eq (s.authenticate token) (s.authenticate token) := by
  rw [authenticate_eq]
  refine .bind .now fun now _ hnow => hnow ▸ ?_
  rw [authenticateAt]
  split
  · exact .ofExcept (.failed rfl)
  · refine .attempt (hL.optional .session) fun o o' ho => ?_
    rw [sessionCaller_parallel ho]
    exact .ofExcept (Outcomes.refl _)

theorem handle_parallel (hL : L.Faithful personal)
    (hd : ∀ c?, Program.Parallel L Eq (s.dispatch r c?) (s.dispatch { r with body } c?)) :
    Program.Parallel L Eq (s.handle r) (s.handle { r with body }) := by
  refine .bind (R := Eq) ?_ fun x _ hx => hx ▸ .done rfl
  by_cases hm : r.method = .options
  · simp only [shared, if_pos hm]
    exact .done rfl
  · simp only [shared, if_neg hm]
    refine .bind (R := Eq) ?_ fun x _ hx => hx ▸ .done rfl
    have hbearer : bearer? { r with body } = bearer? r := rfl
    cases hb : bearer? r with
    | none =>
      simp only [identified, hbearer, hb]
      exact hd none
    | some token =>
      simp only [identified, hbearer, hb]
      refine .bind (authenticate_parallel hL token) fun o o' ho => ?_
      cases ho with
      | failed h => exact .done h
      | held h => exact h ▸ hd _

theorem dispatch_parallel {c? : Option Caller}
    (h : ∀ e h name?, s.serving? r = some (e, h, name?) →
      Action.Parallel L Eq Eq (h ⟨r, c?, name?⟩) (h ⟨{ r with body }, c?, name?⟩)) :
    Program.Parallel L Eq (s.dispatch r c?) (s.dispatch { r with body } c?) := by
  cases hroute : routeOf s.policy r.target with
  | none =>
    simp only [dispatch, hroute]
    exact .done rfl
  | some found =>
    obtain ⟨route, name?⟩ := found
    cases hk : route.handler? r.method with
    | none =>
      simp only [dispatch, hroute, hk]
      exact .done rfl
    | some handler =>
      simp only [dispatch, hroute, hk, respond, settled_eq]
      refine .bind (h ⟨served r.method, route.pattern⟩ handler name? ?_) fun o o' ho => .done ?_
      · simp [serving?, hroute, hk]
      · cases ho with
        | failed h => rw [h]
        | held h => rw [h]

end Server

end CityGuide.Api
