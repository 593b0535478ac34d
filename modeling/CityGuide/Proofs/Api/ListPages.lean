import CityGuide.Proofs.Api.Lists
import CityGuide.Proofs.Listing.Ties

namespace CityGuide.Api

open Http (Response)
open Listing (Params Source)
open Sql (Ranking Record Matching)
open Store Handling

theorem Inquiry.request_page (q : Inquiry) (p : Params) (raw : Option String) :
    q.request { p with page := raw } =
      (q.request p).onPage (q.request { p with page := raw }).page := by
  rw [request_eq, request_eq]
  rfl

namespace Server

variable {s : Server} {r : Http.Request} {e : Endpoint} {name? : Option (List Char)}
  {lead looks : List Step} {c? : Option Caller} {p : Params} {q : Inquiry}
  {compiled : Listing.Compiled} {ι : Type} {row : ι → Record} {o : Ranking} {m : Matching}
  {rows : List ι}

theorem list_pages_partition_iff (hr : s.Reaches r e name?) (hlead : s.Introduces r lead c?)
    (hq : Lists ⟨r, c?, name?⟩ p e looks q)
    (hcompiled : q.source.compile q.base (q.request p) = .ok compiled)
    (hrows : compiled.count.Selects m row rows) (hfew : rows.length < 2 ^ 63) :
    (∀ rest v?, (s.handle r).Runs (lead ++ (looks ++ rest)) v? →
      ∃ reply more, rest = .asked (.run (.select compiled.fetch)) reply :: more) ∧
    (∀ raw, q.request { p with page := raw } =
      (q.request p).onPage (q.request { p with page := raw }).page) ∧
    (∃ pages, q.source.MayPage o m row q.base (q.request p) pages) ∧
    ((∀ pages, q.source.MayPage o m row q.base (q.request p) pages →
        (q.request p).Partitions rows pages) ↔
      (q.request p).Apart (fun i j => o.Ranks compiled.fetch.order (row i) (row j)) rows) := by
  refine ⟨fun rest v? ht => ?_, q.request_page p, ?_, ?_⟩
  · obtain ⟨handler, hmem, α, read, encode, hpage⟩ := hq.handled s.policy
    obtain ⟨o?, ho, -⟩ := (hr.runs_iff hmem hlead).mp ht
    obtain ⟨_, -, hpaged⟩ := (Inquiry.runs_page hcompiled).mp ((hpage rest o?).mp ho)
    cases hpaged with
    | failed | counted => exact ⟨_, _, rfl⟩
  · obtain ⟨l, hl⟩ := ((Source.selects_count hcompiled).mpr hrows).exists_arranges o
    exact ⟨_, (Source.mayPage_iff hcompiled).mpr ⟨fun _ => l, fun _ => hl, rfl⟩⟩
  · exact Source.pages_partition_iff hcompiled (q.request_bounded p) hrows hfew

def leafing : Http.Request := ⟨.get, "/v1/review/list?sort=-rating&limit=1", [], ""⟩

theorem leafing_reaches (s : Server) :
    s.Reaches leafing (.fixed .get ["v1", "review", "list"]) none :=
  ⟨Reviews.list, by
    simp [leafing, serving?, routeOf, Http.Target.ofString, Text.cutOnce,
      Http.Target.segments?, Text.splitOn, findRoute, routes, path, named, Route.matchSegments,
      Route.handler?, served, Endpoint.fixed]⟩

def leafingParams : Params := ⟨none, some "1", none, some "-rating"⟩

def bestReviews : Inquiry :=
  ⟨Review.source, Review.detailed, ["comment"], [("business_id", ""), ("user_id", "")]⟩

theorem leafing_lists :
    Lists ⟨leafing, none, none⟩ leafingParams (.fixed .get ["v1", "review", "list"]) []
      bestReviews := by
  have hpairs : (⟨leafing, none, none⟩ : Incoming).pairs =
      [("sort", "-rating"), ("limit", "1")] := by decide +kernel
  have hquery : Incoming.query ⟨leafing, none, none⟩ ["business_id", "user_id"] =
      .ok (leafingParams, Incoming.value? [("sort", "-rating"), ("limit", "1")]) := by
    simp [Incoming.query, hpairs, Incoming.listNames, Incoming.comesTwice, Incoming.value?,
      leafingParams]
  exact .reviews hquery

def bestReviewsOn (page : UInt64) : Listing.Compiled where
  fetch :=
    { Review.detailed with
      condition := []
      order := [(⟨"r", "rating"⟩, .desc)]
      window := some ((bestReviews.request leafingParams).onPage page).window }
  count := Review.source.countOf []

theorem bestReviews_compile (page : UInt64) :
    Review.source.compile Review.detailed ((bestReviews.request leafingParams).onPage page) =
      .ok (bestReviewsOn page) := by
  have hpredicate : Review.source.predicate (bestReviews.request leafingParams).filters = .ok [] :=
    Source.predicate_eq_ok.mpr ⟨[], by decide +kernel, Source.conjuncts_eq_nil.mpr rfl⟩
  have horder : Review.source.sorts (bestReviews.request leafingParams).order =
      .ok [(⟨"r", "rating"⟩, .desc)] := by decide +kernel
  exact Source.compile_eq_ok.mpr ⟨_, _, hpredicate, horder, rfl⟩

def reviewRow (stars : Bool → Int) (review : Bool) : Record := fun c =>
  if c = ⟨"r", "rating"⟩ then some (.int4 (stars review)) else none

def number : Option Sql.Value → Int
  | some (.int4 n) => n
  | _ => 0

def byNumber : Ranking where
  le _ x y := number x ≤ number y
  total _ _ _ := Int.le_total ..
  trans h h' := Int.le_trans h h'

theorem byNumber_ranks {stars : Bool → Int} {a b : Bool} :
    byNumber.Ranks [(⟨"r", "rating"⟩, .desc)] (reviewRow stars a) (reviewRow stars b) ↔
      stars b ≤ stars a := by
  simp [Ranking.Ranks, Ranking.Along, byNumber, reviewRow, number]

theorem reviews_arranged {stars : Bool → Int} {a b : Bool} (hne : a ≠ b) (h : stars b ≤ stars a)
    (m : Matching) : (bestReviewsOn 1).fetch.Arranges byNumber m (reviewRow stars) [a, b] where
  nodup := by simpa using hne
  rows i := by
    have hmem : i = a ∨ i = b := by cases a <;> cases b <;> cases i <;> simp_all
    simpa [bestReviewsOn, Sql.Predicate.Holds] using hmem
  ranked := by simpa [bestReviewsOn, byNumber_ranks] using h

theorem reviews_counted (stars : Bool → Int) (m : Matching) :
    (bestReviewsOn 1).count.Selects m (reviewRow stars) [true, false] where
  nodup := by decide
  rows i := by cases i <;> simp [bestReviewsOn, Source.countOf, Sql.Predicate.Holds]

theorem unequal_reviews_paged :
    (bestReviewsOn 1).count.Selects (fun _ _ _ => False)
        (reviewRow fun review => if review then 5 else 4) [true, false] ∧
      ∀ pages, Review.source.MayPage byNumber (fun _ _ _ => False)
          (reviewRow fun review => if review then 5 else 4) Review.detailed
          (bestReviews.request leafingParams) pages →
        (bestReviews.request leafingParams).Partitions [true, false] pages := by
  have hcounted := reviews_counted (fun review => if review then 5 else 4) fun _ _ _ => False
  obtain ⟨-, -, -, hapart⟩ := list_pages_partition_iff (o := byNumber)
    (leafing_reaches ⟨⟨[], 0⟩, .anyone, 30⟩) (.nobody rfl) leafing_lists (bestReviews_compile 1) hcounted
    (by decide)
  refine ⟨hcounted, hapart.mpr ?_⟩
  refine Listing.Request.apart_of_distinct (by decide) fun a _ b _ hab hba => ?_
  have hle := byNumber_ranks.mp hab
  have hge := byNumber_ranks.mp hba
  cases a <;> cases b <;> simp_all

def tiedReviews (page : UInt64) : List Bool := if page = 2 then [false, true] else [true, false]

theorem tiedReviews_arranged (page : UInt64) :
    (bestReviewsOn 1).fetch.Arranges byNumber (fun _ _ _ => False) (reviewRow fun _ => 5)
      (tiedReviews page) := by
  rw [tiedReviews]
  split
  · exact reviews_arranged (a := false) (b := true) (by decide) le_rfl _
  · exact reviews_arranged (a := true) (b := false) (by decide) le_rfl _

theorem equal_reviews_repeat :
    Lists ⟨leafing, none, none⟩ leafingParams (.fixed .get ["v1", "review", "list"]) []
        bestReviews ∧
      (bestReviewsOn 1).count.Selects (fun _ _ _ => False) (reviewRow fun _ => 5) [true, false] ∧
      ∃ pages, Review.source.MayPage byNumber (fun _ _ _ => False) (reviewRow fun _ => 5)
          Review.detailed (bestReviews.request leafingParams) pages ∧
        pages 1 = [true] ∧ pages 2 = [true] ∧
        ¬(bestReviews.request leafingParams).Partitions [true, false] pages := by
  refine ⟨leafing_lists, reviews_counted _ _, _,
    (Source.mayPage_iff (bestReviews_compile 1)).mpr ⟨tiedReviews, tiedReviews_arranged, rfl⟩, rfl,
    rfl, fun h => ?_⟩
  exact h.disjoint 1 2 (by decide) (by decide) (by decide) (a := true) (by decide) (by decide)

end Server

end CityGuide.Api
