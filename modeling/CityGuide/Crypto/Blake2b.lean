import CityGuide.Crypto.Bytes

namespace CityGuide.Crypto.Blake2b

def start : List UInt64 :=
  [0x6a09e667f3bcc908, 0xbb67ae8584caa73b, 0x3c6ef372fe94f82b, 0xa54ff53a5f1d36f1,
   0x510e527fade682d1, 0x9b05688c2b3e6c1f, 0x1f83d9abfb41bd6b, 0x5be0cd19137e2179]

def orders : List (List Nat) :=
  [[0, 1, 2, 3, 4, 5, 6, 7, 8, 9, 10, 11, 12, 13, 14, 15],
   [14, 10, 4, 8, 9, 15, 13, 6, 1, 12, 0, 2, 11, 7, 5, 3],
   [11, 8, 12, 0, 5, 2, 15, 13, 10, 14, 3, 6, 7, 1, 9, 4],
   [7, 9, 3, 1, 13, 12, 11, 14, 2, 6, 5, 10, 4, 0, 15, 8],
   [9, 0, 5, 7, 2, 4, 10, 15, 14, 1, 11, 12, 6, 8, 3, 13],
   [2, 12, 6, 10, 0, 11, 8, 3, 4, 13, 7, 5, 15, 14, 1, 9],
   [12, 5, 1, 15, 14, 13, 4, 10, 0, 7, 6, 3, 9, 2, 8, 11],
   [13, 11, 7, 14, 12, 1, 3, 9, 5, 0, 15, 4, 8, 6, 2, 10],
   [6, 15, 14, 9, 11, 3, 0, 8, 12, 2, 13, 7, 1, 4, 10, 5],
   [10, 2, 8, 4, 7, 6, 1, 5, 15, 11, 9, 14, 3, 12, 13, 0],
   [0, 1, 2, 3, 4, 5, 6, 7, 8, 9, 10, 11, 12, 13, 14, 15],
   [14, 10, 4, 8, 9, 15, 13, 6, 1, 12, 0, 2, 11, 7, 5, 3]]

def rotate (x n : UInt64) : UInt64 := (x >>> n) ||| (x <<< (64 - n))

def lines : List (Nat × Nat × Nat × Nat) :=
  [(0, 4, 8, 12), (1, 5, 9, 13), (2, 6, 10, 14), (3, 7, 11, 15),
   (0, 5, 10, 15), (1, 6, 11, 12), (2, 7, 8, 13), (3, 4, 9, 14)]

def mix (v : Array UInt64) (line : Nat × Nat × Nat × Nat) (x y : UInt64) : Array UInt64 :=
  let (i, j, k, l) := line
  let a := v.getD i 0 + v.getD j 0 + x
  let d := rotate (v.getD l 0 ^^^ a) 32
  let c := v.getD k 0 + d
  let b := rotate (v.getD j 0 ^^^ c) 24
  let a := a + b + y
  let d := rotate (d ^^^ a) 16
  let c := c + d
  let b := rotate (b ^^^ c) 63
  (((v.setIfInBounds i a).setIfInBounds j b).setIfInBounds k c).setIfInBounds l d

def pairs {α : Type} : List α → List (α × α)
  | x :: y :: rest => (x, y) :: pairs rest
  | _ => []

def round (message v : Array UInt64) (order : List Nat) : Array UInt64 :=
  (lines.zip (pairs order)).foldl
    (fun v (line, x, y) => mix v line (message.getD x 0) (message.getD y 0)) v

def compress (h : List UInt64) (block : Bytes) (count : Nat) (last : Bool) : List UInt64 :=
  let message := (chunks 7 (block ++ zeros (128 - block.length))).map fun b =>
    UInt64.ofNat (ofLittleEndian b)
  let flag : UInt64 := if last then UInt64.ofNat (Nat.pow 2 64 - 1) else 0
  let tweak : List UInt64 :=
    [0, 0, 0, 0, UInt64.ofNat count, UInt64.ofNat (count / Nat.pow 2 64), flag, 0]
  let v := (h ++ List.zipWith (· ^^^ ·) start tweak).toArray
  let v := (orders.foldl (round message.toArray) v).toList
  List.zipWith (· ^^^ ·) h (List.zipWith (· ^^^ ·) (v.take 8) (v.drop 8))

def absorb (h : List UInt64) (count : Nat) : List Bytes → List UInt64
  | [] => compress h [] count true
  | [block] => compress h block (count + block.length) true
  | block :: more => absorb (compress h block (count + 128) false) (count + 128) more

def digest (size : Nat) (bs : Bytes) : Bytes :=
  let first : UInt64 := 0x01010000 ^^^ UInt64.ofNat size
  let h := List.zipWith (· ^^^ ·) start (first :: List.replicate 7 0)
  ((absorb h 0 (chunks 127 bs)).flatMap fun w => littleEndian 8 w.toNat).take size

def chain (size : Nat) (digestBefore : Bytes) : Bytes :=
  if size ≤ 64 then digest size digestBefore
  else
    let next := digest 64 digestBefore
    next.take 32 ++ chain (size - 32) next
termination_by size
decreasing_by omega

def long (size : Nat) (bs : Bytes) : Bytes := chain size (littleEndian 4 size ++ bs)

end CityGuide.Crypto.Blake2b
