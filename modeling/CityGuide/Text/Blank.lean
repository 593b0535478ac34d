namespace CityGuide.Text

/-- The Unicode property White_Space. -/
def isBlank (c : Char) : Bool :=
  let n := c.toNat
  (9 ≤ n && n ≤ 13) || n == 0x20 || n == 0x85 || n == 0xA0 || n == 0x1680 ||
    (0x2000 ≤ n && n ≤ 0x200A) || n == 0x2028 || n == 0x2029 || n == 0x202F ||
    n == 0x205F || n == 0x3000

def dropBlanks (cs : List Char) : List Char := cs.dropWhile isBlank

def trimChars (cs : List Char) : List Char := (dropBlanks (dropBlanks cs).reverse).reverse

def trim (s : String) : String := String.ofList (trimChars s.toList)

@[simp] theorem toList_trim (s : String) : (trim s).toList = trimChars s.toList := by
  simp [trim]

theorem dropBlanks_of_head {c : Char} {cs : List Char} (h : isBlank c = false) :
    dropBlanks (c :: cs) = c :: cs := by
  simp [dropBlanks, h]

theorem head_dropBlanks {cs : List Char} {c : Char} {r : List Char}
    (h : dropBlanks cs = c :: r) : isBlank c = false := by
  induction cs with
  | nil => simp [dropBlanks] at h
  | cons x xs ih =>
      by_cases hx : isBlank x = true
      · apply ih
        simpa [dropBlanks, hx] using h
      · simp only [dropBlanks, List.dropWhile_cons, hx, Bool.false_eq_true, if_false,
          List.cons.injEq] at h
        obtain ⟨rfl, -⟩ := h
        simpa using hx

theorem dropBlanks_dropBlanks (cs : List Char) : dropBlanks (dropBlanks cs) = dropBlanks cs := by
  cases h : dropBlanks cs with
  | nil => rfl
  | cons c r => exact dropBlanks_of_head (head_dropBlanks h)

def isBlankText (s : String) : Bool := s.toList.all isBlank

def splitOn (sep : Char) : List Char → List (List Char)
  | [] => [[]]
  | c :: cs =>
      if c = sep then [] :: splitOn sep cs
      else
        match splitOn sep cs with
        | [] => [[c]]
        | part :: parts => (c :: part) :: parts

def cutOnce (sep : Char) : List Char → Option (List Char × List Char)
  | [] => none
  | c :: cs =>
      if c = sep then some ([], cs)
      else (cutOnce sep cs).map fun (a, b) => (c :: a, b)

def cutLast (sep : Char) (cs : List Char) : Option (List Char × List Char) :=
  (cutOnce sep cs.reverse).map fun (a, b) => (b.reverse, a.reverse)

def parts (sep : Char) (s : String) : List String :=
  (splitOn sep s.toList).map String.ofList

end CityGuide.Text
