import CityGuide.Uuid

namespace CityGuide.Uuid

open Text

theorem hexChars_mapM (ds : List (Fin 16)) : (ds.map hexChar).mapM hexDigit? = some ds := by
  induction ds with
  | nil => rfl
  | cons d ds ih => simp [List.mapM_cons, hexDigit?_hexChar, ih]

theorem plain?_append_hyphen (as bs : List Char) : plain? (as ++ '-' :: bs) = none := by
  have h : (as ++ '-' :: bs).mapM hexDigit? = none := by
    induction as with
    | nil => rfl
    | cons a as ih => cases ha : hexDigit? a <;> simp [List.mapM_cons, ha, ih]
  rw [plain?, h]
  rfl

theorem ungroup_append {n m : Nat} {ns : List Nat} {as bs : List Char} (h : as.length = n) :
    ungroup (n :: m :: ns) (as ++ '-' :: bs) = (ungroup (m :: ns) bs).map (as ++ ·) := by
  subst h
  simp only [ungroup, List.drop_left, List.take_left]

theorem ungroup_last {n : Nat} {cs : List Char} (h : cs.length = n) : ungroup [n] cs = some cs := by
  rw [ungroup, if_pos h]

theorem take_drop_append (cs : List Char) (n m : Nat) :
    (cs.drop n).take m ++ cs.drop (n + m) = cs.drop n := by
  rw [← List.drop_drop, List.take_append_drop]

theorem ungroup_chars (u : Uuid) : ungroup groups u.chars = some (u.digits.toList.map hexChar) := by
  have hlen : (u.digits.toList.map hexChar).length = 32 := by simp
  simp only [groups, chars]
  generalize u.digits.toList.map hexChar = cs at hlen
  rw [ungroup_append (by simp [hlen]), ungroup_append (by simp [hlen]),
    ungroup_append (by simp [hlen]), ungroup_append (by simp [hlen]), ungroup_last (by simp [hlen])]
  simp only [Option.map_some, take_drop_append cs 16 4, take_drop_append cs 12 4,
    take_drop_append cs 8 4, List.take_append_drop]

theorem ofText?_text (u : Uuid) : ofText? u.text = some u := by
  have hplain : plain? u.chars = none := plain?_append_hyphen ..
  have hhyphenated : hyphenated? u.chars = some u := by
    rw [hyphenated?, ungroup_chars, Option.bind_some, plain?, hexChars_mapM]
    simp [ofDigits?, Vector.toList]
  simp only [ofText?, text, String.toList_ofList, hplain, hhyphenated]
  rfl

theorem text_isEmpty (u : Uuid) : u.text.isEmpty = false := by
  rw [Bool.eq_false_iff, ne_eq, String.isEmpty_iff]
  intro h
  have hchars : u.chars = [] := by simpa [text] using congrArg String.toList h
  simp [chars] at hchars

end CityGuide.Uuid
