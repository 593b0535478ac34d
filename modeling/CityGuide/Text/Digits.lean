namespace CityGuide.Text

def digit? (c : Char) : Option Nat :=
  if '0' ≤ c ∧ c ≤ '9' then some (c.toNat - '0'.toNat) else none

def isDigit (c : Char) : Bool := (digit? c).isSome

def digitChar (d : Nat) : Char := Char.ofNat ('0'.toNat + d % 10)

theorem digit?_digitChar {d : Nat} (h : d < 10) : digit? (digitChar d) = some d := by
  have key : ∀ d : Fin 10, digit? (digitChar d.val) = some d.val := by decide
  exact key ⟨d, h⟩

theorem isDigit_digitChar (d : Nat) : isDigit (digitChar d) = true := by
  have h : digitChar d = digitChar (d % 10) := by simp [digitChar]
  rw [isDigit, h, digit?_digitChar (Nat.mod_lt d (by decide))]
  rfl

theorem digit?_lt {c : Char} {d : Nat} (h : digit? c = some d) : d < 10 := by
  rw [digit?, Option.ite_none_right_eq_some] at h
  obtain ⟨⟨-, hhigh⟩, heq⟩ := h
  have hnine : c.toNat ≤ 57 := hhigh
  have hzero : '0'.toNat = 48 := rfl
  have hd := Option.some.inj heq
  omega

theorem eq_digitChar {c : Char} {d : Nat} (h : digit? c = some d) : c = digitChar d := by
  have hd := digit?_lt h
  rw [digit?, Option.ite_none_right_eq_some] at h
  obtain ⟨⟨hlow, -⟩, heq⟩ := h
  have hfrom : '0'.toNat ≤ c.toNat := hlow
  have hd' : c.toNat - '0'.toNat = d := Option.some.inj heq
  have hcode : '0'.toNat + d % 10 = c.toNat := by
    rw [Nat.mod_eq_of_lt hd]
    omega
  rw [digitChar, hcode, Char.ofNat_toNat]

def natFrom (acc : Nat) : List Char → Option Nat
  | [] => some acc
  | c :: cs => (digit? c).bind fun d => natFrom (10 * acc + d) cs

theorem natFrom_append (acc : Nat) (cs ds : List Char) :
    natFrom acc (cs ++ ds) = (natFrom acc cs).bind fun n => natFrom n ds := by
  induction cs generalizing acc with
  | nil => rfl
  | cons c cs ih =>
      simp only [List.cons_append, natFrom]
      cases digit? c with
      | none => rfl
      | some d => simp [ih]

def nat? : List Char → Option Nat
  | [] => none
  | cs => natFrom 0 cs

def unsigned? (bound : Nat) (cs : List Char) : Option Nat :=
  let digits := match cs with
    | '+' :: r => r
    | cs => cs
  (nat? digits).filter (· ≤ bound)

def maxWord (bits : Nat) : Nat := Nat.pow 2 bits - 1

def signed? (bits : Nat) (cs : List Char) : Option Int :=
  match cs with
  | '-' :: r => ((nat? r).filter (· ≤ maxWord (bits - 1) + 1)).map fun n => -(n : Int)
  | cs => (unsigned? (maxWord (bits - 1)) cs).map fun n => (n : Int)

def decimal (n : Nat) : List Char :=
  if n < 10 then [digitChar n] else decimal (n / 10) ++ [digitChar (n % 10)]
termination_by n
decreasing_by omega

theorem decimal_ne_nil (n : Nat) : decimal n ≠ [] := by
  rw [decimal]
  split <;> simp

theorem isDigit_of_mem_decimal {n : Nat} {c : Char} (h : c ∈ decimal n) : isDigit c = true := by
  induction n using Nat.strongRecOn with
  | ind n ih =>
      rw [decimal] at h
      split at h
      · simp only [List.mem_singleton] at h
        exact h ▸ isDigit_digitChar n
      · rcases List.mem_append.1 h with h | h
        · exact ih (n / 10) (by omega) h
        · simp only [List.mem_singleton] at h
          exact h ▸ isDigit_digitChar _

theorem natFrom_decimal (n : Nat) : natFrom 0 (decimal n) = some n := by
  induction n using Nat.strongRecOn with
  | ind n ih =>
      rw [decimal]
      split
      · next h => simp [natFrom, digit?_digitChar h]
      · next h =>
          rw [natFrom_append, ih (n / 10) (by omega)]
          simp only [Option.bind_some, natFrom,
            digit?_digitChar (Nat.mod_lt n (by decide : 10 > 0))]
          congr 1
          omega

theorem nat?_decimal (n : Nat) : nat? (decimal n) = some n := by
  cases h : decimal n with
  | nil => exact absurd h (decimal_ne_nil n)
  | cons c cs => rw [nat?, ← h, natFrom_decimal]; simp

def intChars : Int → List Char
  | .ofNat n => decimal n
  | .negSucc n => '-' :: decimal (n + 1)

def padded (width : Nat) (n : Nat) : List Char :=
  match width with
  | 0 => []
  | w + 1 => padded w (n / 10) ++ [digitChar (n % 10)]

theorem padded_length (width n : Nat) : (padded width n).length = width := by
  induction width generalizing n with
  | zero => rfl
  | succ w ih => simp [padded, ih]

def atLeast (width : Nat) (n : Nat) : List Char :=
  if n < Nat.pow 10 width then padded width n else decimal n

end CityGuide.Text
