namespace CityGuide.Crypto

abbrev Bytes := List UInt8

def utf8 (s : String) : Bytes := s.toUTF8.toList

def zeros (n : Nat) : Bytes := List.replicate n 0

def littleEndian (width n : Nat) : Bytes :=
  match width with
  | 0 => []
  | w + 1 => UInt8.ofNat n :: littleEndian w (n / 256)

def bigEndian (width n : Nat) : Bytes := (littleEndian width n).reverse

def ofLittleEndian (bs : Bytes) : Nat := bs.foldr (fun b n => b.toNat + 256 * n) 0

def ofBigEndian (bs : Bytes) : Nat := ofLittleEndian bs.reverse

theorem littleEndian_length (width n : Nat) : (littleEndian width n).length = width := by
  induction width generalizing n with
  | zero => rfl
  | succ w ih => simp [littleEndian, ih]

def chunks {α : Type} (n : Nat) (xs : List α) : List (List α) :=
  match xs with
  | [] => []
  | x :: rest => (x :: rest.take n) :: chunks n (rest.drop n)
termination_by xs.length
decreasing_by simp only [List.length_cons, List.length_drop]; omega

end CityGuide.Crypto
