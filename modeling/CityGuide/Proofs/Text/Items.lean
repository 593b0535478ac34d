import CityGuide.Proofs.Text.Trimming

namespace CityGuide.Text

theorem splitOn_of_notMem {sep : Char} {cs : List Char} (h : sep ∉ cs) :
    splitOn sep cs = [cs] := by
  induction cs with
  | nil => rfl
  | cons c cs ih =>
    obtain ⟨hc, hcs⟩ := List.ne_and_not_mem_of_not_mem_cons h
    simp [splitOn, Ne.symm hc, ih hcs]

theorem splitOn_append {sep : Char} {as bs : List Char} (h : sep ∉ as) :
    splitOn sep (as ++ sep :: bs) = as :: splitOn sep bs := by
  induction as with
  | nil => simp [splitOn]
  | cons a as ih =>
    obtain ⟨ha, has⟩ := List.ne_and_not_mem_of_not_mem_cons h
    simp [splitOn, Ne.symm ha, ih has]

theorem parts_append {p text : String} (h : ',' ∉ p.toList) :
    parts ',' (p ++ "," ++ text) = p :: parts ',' text := by
  have hlist : (p ++ "," ++ text).toList = p.toList ++ ',' :: text.toList := by simp
  rw [parts, hlist, splitOn_append h, List.map_cons, String.ofList_toList, parts]

theorem parts_intercalate {ps : List String} (hne : ps ≠ []) (h : ∀ p ∈ ps, ',' ∉ p.toList) :
    parts ',' (",".intercalate ps) = ps := by
  induction ps with
  | nil => exact absurd rfl hne
  | cons p ps ih =>
    obtain ⟨hp, hps⟩ := List.forall_mem_cons.mp h
    cases ps with
    | nil => rw [String.intercalate_singleton, parts, splitOn_of_notMem hp, List.map_singleton,
        String.ofList_toList]
    | cons q ps =>
      rw [String.intercalate_cons_cons, parts_append hp, ih (List.cons_ne_nil _ _) hps]

def items (text : String) : List String := ((parts ',' text).map trim).filter fun o => !o.isEmpty

structure IsItem (s : String) : Prop where
  full : s ≠ ""
  trimmed : trim s = s
  whole : ',' ∉ s.toList

inductive Padded : List String → List String → Prop
  | nil : Padded [] []
  | blank {b : String} {is ps : List String} (hb : isBlankText b = true) (h : Padded is ps) :
      Padded is (b :: ps)
  | item {l r i : String} {is ps : List String} (hl : isBlankText l = true)
      (hr : isBlankText r = true) (h : Padded is ps) : Padded (i :: is) ((l ++ i ++ r) :: ps)

def Written (is : List String) (text : String) : Prop :=
  ∃ ps, Padded is ps ∧ text = ",".intercalate ps

variable {is ps : List String} {text : String}

theorem comma_notMem_of_blank {b : String} (h : isBlankText b = true) : ',' ∉ b.toList := by
  intro hmem
  have hcomma : isBlank ',' = false := by decide
  rw [isBlankText_iff.mp h ',' hmem] at hcomma
  cases hcomma

theorem Padded.comma_notMem (h : Padded is ps) (his : ∀ i ∈ is, IsItem i) :
    ∀ p ∈ ps, ',' ∉ p.toList := by
  induction h with
  | nil => simp
  | blank hb _ ih => exact List.forall_mem_cons.mpr ⟨comma_notMem_of_blank hb, ih his⟩
  | item hl hr _ ih =>
    obtain ⟨hi, his⟩ := List.forall_mem_cons.mp his
    refine List.forall_mem_cons.mpr ⟨?_, ih his⟩
    simp [comma_notMem_of_blank hl, comma_notMem_of_blank hr, hi.whole]

theorem Padded.trimmed (h : Padded is ps) (his : ∀ i ∈ is, IsItem i) :
    (ps.map trim).filter (fun o => !o.isEmpty) = is := by
  induction h with
  | nil => rfl
  | blank hb _ ih => simpa [trim_of_isBlankText hb] using ih his
  | item hl hr _ ih =>
    obtain ⟨hi, his⟩ := List.forall_mem_cons.mp his
    simp [trim_append hl hr, hi.trimmed, hi.full, ih his]

theorem items_of_written (h : Written is text) (his : ∀ i ∈ is, IsItem i) : items text = is := by
  obtain ⟨ps, hps, rfl⟩ := h
  by_cases hne : ps = []
  · subst hne
    cases hps
    decide
  · rw [items, parts_intercalate hne (hps.comma_notMem his), hps.trimmed his]

end CityGuide.Text
