import CityGuide.Proofs.Listing.Meaning
import CityGuide.Proofs.Sql.Like
import CityGuide.Proofs.Text.Trimming

namespace CityGuide.Listing

open Sql

variable {c : Char} {p s v : List Char}

def marked (k : Char) (cs : List Char) : List Char :=
  cs.flatMap fun c => if c = k then ['\\', c] else [c]

def containing (v : List Char) : List Char := '%' :: (v.flatMap likeEscaped ++ ['%'])

theorem likePattern_eq (v : List Char) : likePattern v = containing (withoutNul v) := rfl

theorem likeEscaped_of_special (h : isSpecial c = true) : likeEscaped c = ['\\', c] := by
  rw [likeEscaped, if_pos]
  simp only [isSpecial, Bool.or_eq_true, decide_eq_true_eq] at h
  tauto

theorem likeEscaped_of_plain (h : isSpecial c = false) : likeEscaped c = [c] := by
  rw [likeEscaped, if_neg]
  simp only [isSpecial, Bool.or_eq_false_iff, decide_eq_false_iff_not] at h
  tauto

theorem marked_in_turn (v : List Char) :
    marked '_' (marked '%' (marked '\\' v)) = v.flatMap likeEscaped := by
  simp only [marked, List.flatMap_assoc]
  refine List.flatMap_congr fun c _ => ?_
  by_cases hb : c = '\\'
  · subst hb
    decide
  by_cases hp : c = '%'
  · subst hp
    decide
  by_cases hu : c = '_'
  · subst hu
    decide
  simp [likeEscaped, hb, hp, hu]

theorem like_escaped_append :
    Like (v.flatMap likeEscaped ++ p) s ↔ ∃ t, s = v ++ t ∧ Like p t := by
  induction v generalizing s with
  | nil => simp
  | cons c v ih =>
    -- Either way the first character of the text is the first of the value.
    have hfirst : Like (likeEscaped c ++ (v.flatMap likeEscaped ++ p)) s ↔
        ∃ t, s = c :: t ∧ Like (v.flatMap likeEscaped ++ p) t := by
      cases hc : isSpecial c with
      | true => rw [likeEscaped_of_special hc]; exact Like.escaped_iff
      | false => rw [likeEscaped_of_plain hc]; exact Like.same_iff hc
    rw [List.flatMap_cons, List.append_assoc, hfirst]
    constructor
    · rintro ⟨t, rfl, h⟩
      obtain ⟨u, rfl, hu⟩ := ih.mp h
      exact ⟨u, rfl, hu⟩
    · rintro ⟨u, rfl, hu⟩
      exact ⟨v ++ u, rfl, ih.mpr ⟨u, rfl, hu⟩⟩

theorem like_any (s : List Char) : Like ['%'] s :=
  Like.percent_iff.mpr ⟨[], List.nil_suffix, .nil⟩

theorem like_containing : Like (containing v) s ↔ v <:+: s := by
  rw [containing, Like.percent_iff]
  constructor
  · rintro ⟨t, ⟨l, rfl⟩, h⟩
    obtain ⟨r, rfl, -⟩ := like_escaped_append.mp h
    exact ⟨l, r, List.append_assoc ..⟩
  · rintro ⟨l, r, rfl⟩
    exact ⟨v ++ r, ⟨l, (List.append_assoc ..).symm⟩, like_escaped_append.mpr ⟨r, rfl, like_any r⟩⟩

theorem whole_containing (v : List Char) : Whole (containing v) := by
  refine .cons (by decide) ?_
  induction v with
  | nil => exact .cons (by decide) .nil
  | cons c v ih =>
    rw [List.flatMap_cons, List.append_assoc]
    cases hc : isSpecial c with
    | true => rw [likeEscaped_of_special hc]; exact .escaped c ih
    | false =>
      rw [likeEscaped_of_plain hc]
      refine .cons ?_ ih
      rintro rfl
      simp [isSpecial] at hc

/-- Letters made alike, each on its own: what stands for others in a pattern stays as it is, and
nothing becomes that. -/
structure Folding where
  letters : Char → List Char
  special : ∀ {c}, isSpecial c = true → letters c = [c]
  plain : ∀ {c}, isSpecial c = false → ∀ d ∈ letters c, isSpecial d = false

namespace Folding

variable (f : Folding)

def fold (cs : List Char) : List Char := cs.flatMap f.letters

theorem fold_escaped (v : List Char) :
    f.fold (v.flatMap likeEscaped) = (f.fold v).flatMap likeEscaped := by
  simp only [fold, List.flatMap_assoc]
  refine List.flatMap_congr fun c _ => ?_
  cases hc : isSpecial c with
  | true =>
    have hbackslash : f.letters '\\' = ['\\'] := f.special rfl
    simp [likeEscaped_of_special hc, f.special hc, hbackslash]
  | false =>
    have hkept : (f.letters c).flatMap likeEscaped = (f.letters c).flatMap fun d => [d] :=
      List.flatMap_congr fun d hd => likeEscaped_of_plain (f.plain hc d hd)
    simp [likeEscaped_of_plain hc, hkept]

theorem fold_containing (v : List Char) : f.fold (containing v) = containing (f.fold v) := by
  have hpercent : f.letters '%' = ['%'] := f.special rfl
  have happend : ∀ as bs, f.fold (as ++ bs) = f.fold as ++ f.fold bs :=
    fun _ _ => List.flatMap_append
  have hend : f.fold ['%'] = ['%'] := by simp [fold, hpercent]
  rw [containing, containing, ← List.singleton_append, happend, happend, hend, fold_escaped]
  rfl

def matching (shown : Bool → Value → List Char) : Matching := fun cast v pattern =>
  Like (f.fold pattern.toList) (f.fold (shown cast v))

theorem toLower_of_isSpecial {c : Char} (h : isSpecial c = true) : c.toLower = c := by
  simp only [isSpecial, Bool.or_eq_true, decide_eq_true_eq] at h
  rcases h with (rfl | rfl) | rfl <;> rfl

theorem isSpecial_toLower {c : Char} (h : isSpecial c = false) : isSpecial c.toLower = false := by
  rcases Text.toLower_cases c with heq | ⟨hlow, hhigh, hlower⟩
  · rwa [heq]
  · rw [Bool.eq_false_iff]
    intro hs
    simp only [isSpecial, Bool.or_eq_true, decide_eq_true_eq] at hs
    rcases hs with (hs | hs) | hs <;> simp [hs] at hlower <;> omega

def ascii : Folding where
  letters c := [c.toLower]
  special h := congrArg (fun d => [d]) (toLower_of_isSpecial h)
  plain h := List.forall_mem_singleton.mpr (isSpecial_toLower h)

example : Like (ascii.fold (containing "100% Off".toList)) (ascii.fold "All 100% OFF!".toList) ∧
    ¬ Like (ascii.fold (containing "100% Off".toList)) (ascii.fold "All 1000 off!".toList) := by
  decide

end Folding

theorem withoutNul_eq (v : List Char) : withoutNul v = v.filter (· ≠ '\x00') := by
  simp [withoutNul, toNat_eq_zero_iff]

theorem nul_not_mem_containing (h : '\x00' ∉ v) : '\x00' ∉ containing v := by
  have hescaped : ∀ c ∈ v, '\x00' ∉ likeEscaped c := by
    intro c hc
    have hne : '\x00' ≠ c := fun heq => h (heq ▸ hc)
    cases hs : isSpecial c with
    | true => simp [likeEscaped_of_special hs, hne]
    | false => simp [likeEscaped_of_plain hs, hne]
  simpa [containing, List.mem_flatMap] using hescaped

theorem search_finds_contained (s : Source) (c : ListColumn) (value : String) :
    ∃ (pattern : String) (sought : List Char), sought = value.toList.filter (· ≠ '\x00') ∧
      Part.values (s.searching c value).parts = [.text pattern] ∧
      pattern.toList = '%' :: (marked '_' (marked '%' (marked '\\' sought)) ++ ['%']) ∧
      '\x00' ∉ pattern.toList ∧ Whole pattern.toList ∧
      (∀ t, Like pattern.toList t ↔ sought <:+: t) ∧
      (∀ (f : Folding) t, Whole (f.fold pattern.toList) ∧
        (Like (f.fold pattern.toList) (f.fold t) ↔ f.fold sought <:+: f.fold t)) ∧
      ∀ (f : Folding) shown ρ, (s.searching c value).Holds (f.matching shown) ρ ↔
        ∃ v, ρ (s.reference c) = some v ∧
          f.fold sought <:+: f.fold (shown (c.kind ≠ .text) v) := by
  have hpattern : (String.ofList (likePattern value.toList)).toList =
      containing (value.toList.filter (· ≠ '\x00')) := by
    rw [String.toList_ofList, likePattern_eq, withoutNul_eq]
  have hvalues : ∀ cast column pattern,
      Part.values (Term.like column cast pattern).parts = [.text pattern] := by
    rintro (_ | _) column pattern <;> rfl
  have hfolded : ∀ (f : Folding) t,
      Like (f.fold (String.ofList (likePattern value.toList)).toList) (f.fold t) ↔
        f.fold (value.toList.filter (· ≠ '\x00')) <:+: f.fold t := by
    intro f t
    rw [hpattern, f.fold_containing, like_containing]
  refine ⟨_, _, rfl, hvalues .., ?written, ?clean, ?whole, ?plain, ?folded, ?found⟩
  case written => rw [hpattern, marked_in_turn, containing]
  case clean =>
    rw [hpattern]
    exact nul_not_mem_containing (by simp)
  case whole => exact hpattern ▸ whole_containing _
  case plain =>
    intro t
    rw [hpattern, like_containing]
  case folded =>
    refine fun f t => ⟨?_, hfolded f t⟩
    rw [hpattern, f.fold_containing]
    exact whole_containing _
  case found =>
    intro f shown ρ
    simp only [Source.searching, Term.Holds, Folding.matching, hfolded]

end CityGuide.Listing
