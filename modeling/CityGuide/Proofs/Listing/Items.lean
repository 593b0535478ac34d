import CityGuide.Account.User
import CityGuide.Guide.Bookmark
import CityGuide.Guide.Business
import CityGuide.Guide.Category
import CityGuide.Guide.Event
import CityGuide.Guide.Promotion
import CityGuide.Guide.Report
import CityGuide.Guide.Review
import CityGuide.Proofs.Listing.Meaning
import CityGuide.Proofs.Sql.Answers
import CityGuide.Social.Follow
import CityGuide.Social.Notification
import CityGuide.Store.Schema

namespace CityGuide

open Sql Text

def Sql.Database.IdsApart (db : Database) : Prop :=
  ∀ plan ∈ Store.Schema.scripts.flatten, Store.Schema.id ∈ plan.columns →
    (db plan.name).Pairwise fun t u => t "id" ≠ u "id"

namespace Listing

def catalogue : List (Source × Select) :=
  [(User.source, User.source.select [.everything]),
    (Category.source, Category.source.select [.everything]),
    (Business.source, Business.detailed),
    (Review.source, Review.detailed),
    (Report.source, Report.source.select [.everything]),
    (Notification.source, Notification.source.select [.everything]),
    (Event.source, Event.source.select [.everything]),
    (Participant.source, Participant.source.select Participant.fields),
    (Bookmark.source, Bookmark.source.select [.everything]),
    (Promotion.source, Promotion.source.select [.everything]),
    (Follower.source, Follower.source.select Follower.fields)]

theorem catalogue_joins : ∀ x ∈ catalogue, ∀ j ∈ x.1.joins, j.table = User.table := by decide

namespace Source

inductive Given (s : Source) : Select → Prop
  | plain {fields : List Field} (h : fields.any Field.gathers = false) : Given s (s.select fields)
  | detailed {owner : AttachmentOwner} {name : String} (plan : Store.TablePlan)
      (joins : s.joins = []) (own : s.qualifier ≠ name)
      (others : ∀ c ∈ s.columns, (s.reference c).qualifier ≠ name) (named : plan.name = s.table)
      (made : plan ∈ Store.Schema.scripts.flatten) (identified : Store.Schema.id ∈ plan.columns) :
      Given s (owner.detailed s name)

theorem given_of_mem {s : Source} {base : Select} (h : (s, base) ∈ catalogue) : s.Given base := by
  simp only [catalogue, List.mem_cons, Prod.mk.injEq, List.not_mem_nil, or_false] at h
  rcases h with ⟨rfl, rfl⟩ | ⟨rfl, rfl⟩ | ⟨rfl, rfl⟩ | ⟨rfl, rfl⟩ | ⟨rfl, rfl⟩ | ⟨rfl, rfl⟩ |
    ⟨rfl, rfl⟩ | ⟨rfl, rfl⟩ | ⟨rfl, rfl⟩ | ⟨rfl, rfl⟩ | ⟨rfl, rfl⟩
  case inr.inr.inl =>
    exact .detailed Store.Schema.businesses rfl (by decide) (by decide) rfl (by decide) (by decide)
  case inr.inr.inr.inl =>
    exact .detailed Store.Schema.reviews rfl (by decide) (by decide) rfl (by decide) (by decide)
  all_goals exact .plain rfl

variable (s : Source) (db : Database) (m : Matching)

noncomputable def rows : List Record :=
  Join.extendAll db s.innerJoins (Table.records db ⟨s.table, s.called?⟩)

open Classical in
noncomputable def items (fs : List Filter) : List Record :=
  (s.rows db).filter fun ρ => s.Admits m ρ fs

noncomputable def gathered (base : Select) (ρ : Record) : List Record :=
  Join.extendAll db (base.joins.drop s.joins.length) [ρ]

variable {s : Source} {db : Database} {m : Matching} {ρ σ : Record} {fs : List Filter}
  {p : Predicate} {base : Select} {r : Request} {compiled : Compiled}

theorem Admits.congr (h : s.Admits m ρ fs)
    (hsame : ∀ c ∈ s.columns, σ (s.reference c) = ρ (s.reference c)) : s.Admits m σ fs := by
  have hmem : ∀ {f : Filter} {c : ListColumn}, s.column? f.column = some c → c ∈ s.columns :=
    fun hc => List.mem_of_find?_eq_some hc
  constructor
  · intro f hf hk hv
    obtain ⟨c, v, w, hc, hd, hrow, hequal⟩ := h.equal f hf hk hv
    exact ⟨c, v, w, hc, hd, (hsame c (hmem hc)).trans hrow, hequal⟩
  · intro v hv hasked
    obtain ⟨f, hf, hk, hfv, c, x, hc, hrow, hlike⟩ := h.found v hv hasked
    exact ⟨f, hf, hk, hfv, c, x, hc, (hsame c (hmem hc)).trans hrow, hlike⟩

theorem admits_congr (hsame : ∀ c ∈ s.columns, σ (s.reference c) = ρ (s.reference c)) :
    s.Admits m σ fs ↔ s.Admits m ρ fs :=
  ⟨fun h => h.congr fun c hc => (hsame c hc).symm, fun h => h.congr hsame⟩

theorem admitted_eq_items {fields : List Field} {order : List (Column × Direction)}
    {window : Option Window} (h : s.predicate fs = .ok p) :
    Select.admitted db m
      { s.select fields with condition := p, order := order, window := window } =
        s.items db m fs :=
  List.filter_congr fun _ _ => decide_eq_decide.mpr (predicate_holds h)

theorem countOf_counts (h : s.predicate fs = .ok p) :
    (s.countOf p).counts db m = [(s.items db m fs).length] := by
  rw [Select.counts, Select.results_single rfl rfl, List.map_singleton]
  exact congrArg (fun ρs : List Record => [ρs.length]) (admitted_eq_items h)

theorem results_plain {fields : List Field} {order : List (Column × Direction)}
    {window : Option Window} (hf : fields.any Field.gathers = false)
    (h : s.predicate fs = .ok p) :
    Select.results db m { s.select fields with condition := p, order := order, window := window } =
      (s.items db m fs).map (s.gathered db (s.select fields)) := by
  have hgathered : s.gathered db (s.select fields) = fun ρ => [ρ] := by
    funext ρ
    have hjoins : (s.select fields).joins.drop s.joins.length = [] :=
      List.drop_eq_nil_of_le (by simp [select, innerJoins])
    rw [gathered, hjoins]
    rfl
  rw [Select.results_each rfl hf, admitted_eq_items h, hgathered]

section Detailed

variable {owner : AttachmentOwner} {name : String}

theorem gathered_detailed (hjoins : s.joins = []) :
    s.gathered db (owner.detailed s name) ρ = Join.extend db
      ⟨.left, ⟨owner.table, some name⟩, ⟨name, owner.ownerColumn⟩, ⟨s.qualifier, "id"⟩⟩ ρ := by
  simp [gathered, AttachmentOwner.detailed, innerJoins, hjoins, Join.extendAll]

theorem gathered_ne_nil (hjoins : s.joins = []) :
    s.gathered db (owner.detailed s name) ρ ≠ [] := by
  rw [gathered_detailed hjoins]
  exact Join.extend_ne_nil rfl

theorem gathered_elsewhere {c : Column} (hjoins : s.joins = [])
    (hσ : σ ∈ s.gathered db (owner.detailed s name) ρ) (hc : c.qualifier ≠ name) : σ c = ρ c := by
  rw [gathered_detailed hjoins] at hσ
  exact Join.extend_elsewhere hσ hc

theorem length_gathered (hjoins : s.joins = []) (hown : s.qualifier ≠ name) :
    (s.gathered db (owner.detailed s name) ρ).length = max 1 ((db owner.table).countP fun t =>
      @decide (∃ v w, t owner.ownerColumn = some v ∧ ρ ⟨s.qualifier, "id"⟩ = some w ∧
        v.compared = w.compared) (Classical.propDecidable _)) := by
  rw [gathered_detailed hjoins, Join.length_extend rfl, Join.met, List.filter_map,
    List.length_map, ← List.countP_eq_length_filter]
  refine congrArg (max 1) (List.countP_congr fun t _ => ?_)
  have hid : ρ.beside name t ⟨s.qualifier, "id"⟩ = ρ ⟨s.qualifier, "id"⟩ := Record.beside_of_ne hown
  simp only [Function.comp_apply, Table.qualifier, Option.getD_some, Record.beside_own, hid,
    decide_eq_true_eq]

theorem ids_apart (hjoins : s.joins = [])
    (hids : (db s.table).Pairwise fun t u => t "id" ≠ u "id") :
    (s.items db m fs).Pairwise fun ρ σ => ρ ⟨s.qualifier, "id"⟩ ≠ σ ⟨s.qualifier, "id"⟩ := by
  refine List.Pairwise.filter _ ?_
  have hrows : s.rows db = (db s.table).map (Record.empty.beside s.qualifier) := by
    rw [rows, innerJoins, hjoins]
    rfl
  rw [hrows, List.pairwise_map]
  refine hids.imp fun hne => ?_
  rwa [Record.beside_own, Record.beside_own]

open Classical in
theorem results_detailed {order : List (Column × Direction)} {window : Option Window}
    (hjoins : s.joins = []) (hown : s.qualifier ≠ name)
    (hothers : ∀ c ∈ s.columns, (s.reference c).qualifier ≠ name)
    (hids : (db s.table).Pairwise fun t u => t "id" ≠ u "id") (h : s.predicate fs = .ok p) :
    Select.results db m
      { owner.detailed s name with condition := p, order := order, window := window } =
        (s.items db m fs).map (s.gathered db (owner.detailed s name)) := by
  have hrows : Join.extendAll db (owner.detailed s name).joins
      (Table.records db ⟨s.table, s.called?⟩) =
        (s.rows db).flatMap (s.gathered db (owner.detailed s name)) := by
    rw [AttachmentOwner.detailed, Join.extendAll_append]
    exact List.flatMap_congr fun ρ _ => (gathered_detailed hjoins).symm
  have hadmitted : Select.admitted db m
      { owner.detailed s name with condition := p, order := order, window := window } =
        (s.items db m fs).flatMap (s.gathered db (owner.detailed s name)) := by
    rw [Select.admitted]
    refine (congrArg _ hrows).trans (filter_flatMap_of_constant fun ρ _ σ hσ => ?_)
    -- The condition judges an item with its attachments as it judges the item.
    refine decide_eq_decide.mpr ((predicate_holds h).trans (admits_congr fun c hc => ?_))
    exact gathered_elsewhere hjoins hσ (hothers c hc)
  rw [Select.results_grouped (List.cons_ne_nil _ _), hadmitted]
  refine grouped_flatMap (k := fun ρ => [ρ ⟨s.qualifier, "id"⟩]) (fun ρ _ => gathered_ne_nil hjoins)
    (fun ρ _ σ hσ => ?_) ?_
  · exact congrArg (fun x => [x]) (gathered_elsewhere hjoins hσ hown)
  · exact (ids_apart hjoins hids).imp fun hne heq => hne (List.singleton_inj.mp heq)

end Detailed

theorem count_counts_items (hs : (s, base) ∈ catalogue) (hids : db.IdsApart)
    (hc : s.compile base r = .ok compiled) :
    compiled.fetch.results db m = (s.items db m r.filters).map (s.gathered db base) ∧
      compiled.count.counts db m = [(compiled.fetch.results db m).length] ∧
      ∀ owner : AttachmentOwner, ∀ j ∈ compiled.count.joins, j.table.name ≠ owner.table := by
  obtain ⟨p, order, hp, -, rfl⟩ := compile_eq_ok.mp hc
  have hresults : Select.results db m
      { base with condition := p, order := order, window := some r.window } =
        (s.items db m r.filters).map (s.gathered db base) := by
    cases given_of_mem hs with
    | plain hf => exact results_plain hf hp
    | detailed plan hjoins hown hothers hnamed hmade hid =>
      exact results_detailed hjoins hown hothers (hnamed ▸ hids _ hmade hid) hp
  refine ⟨hresults, ?_, ?_⟩
  · rw [hresults, List.length_map]
    exact countOf_counts hp
  · intro owner j hj
    obtain ⟨join, hjoin, rfl⟩ := List.mem_map.mp hj
    have husers : join.table = User.table := catalogue_joins _ hs join hjoin
    cases owner <;> simp [husers, User.table, AttachmentOwner.table]

def street : Database
  | "businesses" => [row (nibble 1) none, row (nibble 2) none]
  | "business_attachments" => [row (nibble 3) (some (nibble 1)), row (nibble 4) (some (nibble 1))]
  | _ => []
where
  numbered (n : Fin 16) : Value := .uuid ⟨Vector.replicate 32 n⟩
  row (id : Fin 16) (business? : Option (Fin 16)) : Tuple
    | "id" => some (numbered id)
    | "business_id" => business?.map numbered
    | _ => none

theorem street.numbered_inj {n k : Fin 16} : numbered n = numbered k ↔ n = k := by
  constructor
  · intro h
    have hdigits := congrArg (fun d : Vector (Fin 16) 32 => d[0]) (Uuid.mk.inj (Value.uuid.inj h))
    simpa using hdigits
  · rintro rfl
    rfl

theorem street.numbered_compared (n : Fin 16) : (numbered n).compared = numbered n := rfl

theorem street_apart : street.IdsApart := by
  have hname : ∀ plan ∈ Store.Schema.scripts.flatten, plan.name = "businesses" ∨
      plan.name = "business_attachments" ∨ (street plan.name).isEmpty = true := by decide
  intro plan hplan _
  rcases hname plan hplan with h | h | h
  · simpa [h, street, street.row, street.numbered_inj] using (by decide : nibble 1 ≠ nibble 2)
  · simpa [h, street, street.row, street.numbered_inj] using (by decide : nibble 3 ≠ nibble 4)
  · simp [List.isEmpty_iff.mp h]

theorem street_gathered (business : Fin 16) (ρ : Record)
    (hρ : ρ ⟨"b", "id"⟩ = some (street.numbered business)) :
    (Business.source.gathered street Business.detailed ρ).length =
      if business = nibble 1 then 2 else 1 := by
  have hid : ρ ⟨Business.source.qualifier, "id"⟩ = some (street.numbered business) := hρ
  rw [Business.detailed, length_gathered rfl (by decide)]
  by_cases h : business = nibble 1
  · simp [street, street.row, AttachmentOwner.table, AttachmentOwner.ownerColumn, hid, h]
  · simp [street, street.row, AttachmentOwner.table, AttachmentOwner.ownerColumn, hid, h,
      street.numbered_compared, street.numbered_inj, Ne.symm h]

theorem street_counted :
    ∃ compiled, Business.source.compile Business.detailed (.ofPage 1 1) = .ok compiled ∧
      compiled.fetch.counts street (fun _ _ _ => False) = [2, 1] ∧
      compiled.count.counts street (fun _ _ _ => False) = [2] := by
  have hcompiled : Business.source.compile Business.detailed (.ofPage 1 1) = .ok _ := rfl
  obtain ⟨hresults, hcounts, -⟩ := count_counts_items (m := fun _ _ _ => False)
    (by simp [catalogue]) street_apart hcompiled
  let first : Record := Record.empty.beside "b" (street.row (nibble 1) none)
  let second : Record := Record.empty.beside "b" (street.row (nibble 2) none)
  have hitems : Business.source.items street (fun _ _ _ => False) [] = [first, second] := by
    refine List.filter_eq_self.mpr fun ρ _ => ?_
    simpa using ⟨by simp, by simp⟩
  have hfetched := congrArg (List.map List.length) (hresults.trans (congrArg _ hitems))
  have hfirst := street_gathered (nibble 1) first rfl
  have hsecond := street_gathered (nibble 2) second rfl
  simp only [List.map_cons, List.map_nil, hfirst, hsecond] at hfetched
  refine ⟨_, hcompiled, hfetched, ?_⟩
  rw [hcounts, hresults, List.length_map]
  exact congrArg (fun ρs : List Record => [ρs.length]) hitems

end Source

end Listing

end CityGuide
