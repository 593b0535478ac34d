import CityGuide.Crypto.Blake2b

namespace CityGuide.Crypto.Argon2

inductive Variant where
  | d
  | i
  | id
  deriving DecidableEq, Repr

def Variant.code : Variant → Nat
  | d => 0
  | i => 1
  | id => 2

inductive Version where
  | v16
  | v19
  deriving DecidableEq, Repr

def Version.number : Version → Nat
  | v16 => 16
  | v19 => 19

/-- Memory in kibibytes, passes over it, lanes, and bytes that are hashed along. -/
structure Params where
  variant : Variant
  version : Version
  memory : Nat
  passes : Nat
  lanes : Nat
  associated : Bytes
  deriving DecidableEq, Repr

namespace Params

def areSound (p : Params) : Bool :=
  8 ≤ p.memory && 8 * p.lanes ≤ p.memory && 1 ≤ p.passes && 1 ≤ p.lanes && p.lanes ≤ 0xFFFFFF

def segment (p : Params) : Nat := p.memory / (4 * p.lanes)

def laneLength (p : Params) : Nat := 4 * p.segment

end Params

abbrev Block := Array UInt64

def Block.zero : Block := Array.replicate 128 0

def Block.xor (a b : Block) : Block := Array.zipWith (· ^^^ ·) a b

def Block.ofBytes (bs : Bytes) : Block :=
  ((chunks 7 bs).map fun b => UInt64.ofNat (ofLittleEndian b)).toArray

def Block.bytes (b : Block) : Bytes := b.toList.flatMap fun w => littleEndian 8 w.toNat

structure Four where
  a : UInt64
  b : UInt64
  c : UInt64
  d : UInt64

def multiplyAdd (x y : UInt64) : UInt64 :=
  x + y + 2 * ((x &&& 0xFFFFFFFF) * (y &&& 0xFFFFFFFF))

def Four.mix (f : Four) : Four :=
  let a := multiplyAdd f.a f.b
  let d := Blake2b.rotate (f.d ^^^ a) 32
  let c := multiplyAdd f.c d
  let b := Blake2b.rotate (f.b ^^^ c) 24
  let a := multiplyAdd a b
  let d := Blake2b.rotate (d ^^^ a) 16
  let c := multiplyAdd c d
  ⟨a, Blake2b.rotate (b ^^^ c) 63, c, d⟩

def permute (place : Nat → Nat) (b : Block) : Block :=
  Blake2b.lines.foldl (fun b (i, j, k, l) =>
    let f := (Four.mk (b.getD (place i) 0) (b.getD (place j) 0) (b.getD (place k) 0)
      (b.getD (place l) 0)).mix
    (((b.setIfInBounds (place i) f.a).setIfInBounds (place j) f.b).setIfInBounds
      (place k) f.c).setIfInBounds (place l) f.d) b

def rowPlace (r i : Nat) : Nat := 16 * r + i

def columnPlace (c i : Nat) : Nat := 2 * c + 16 * (i / 2) + i % 2

def compress (x y : Block) : Block :=
  let r := x.xor y
  let rows := (List.range 8).foldl (fun b r => permute (rowPlace r) b) r
  r.xor ((List.range 8).foldl (fun b c => permute (columnPlace c) b) rows)

def sized (bs : Bytes) : Bytes := littleEndian 4 bs.length ++ bs

def seed (p : Params) (size : Nat) (password salt : Bytes) : Bytes :=
  Blake2b.digest 64 <|
    ([p.lanes, size, p.memory, p.passes, p.version.number, p.variant.code].flatMap (littleEndian 4))
      ++ sized password ++ sized salt ++ sized [] ++ sized p.associated

structure Place where
  pass : Nat
  slice : Nat
  lane : Nat
  index : Nat

def Place.isIndependent (v : Variant) (here : Place) : Bool :=
  match v with
  | .d => false
  | .i => true
  | .id => here.pass = 0 && here.slice < 2

def addresses (p : Params) (here : Place) (counter : Nat) : Block :=
  let blocks := p.lanes * p.laneLength
  let input := ([here.pass, here.lane, here.slice, blocks, p.passes, p.variant.code, counter].map
    UInt64.ofNat ++ List.replicate 121 0).toArray
  compress Block.zero (compress Block.zero input)

def reference (p : Params) (here : Place) (random : UInt64) : Nat × Nat :=
  let j1 := random.toNat % Nat.pow 2 32
  let j2 := random.toNat / Nat.pow 2 32
  let first := here.pass = 0 ∧ here.slice = 0
  let lane := if first then here.lane else j2 % p.lanes
  let same := lane = here.lane
  let finished := if here.pass = 0 then here.slice * p.segment else p.laneLength - p.segment
  let area :=
    if same then finished + here.index - 1
    else finished - (if here.index = 0 then 1 else 0)
  let back := area * (j1 * j1 / Nat.pow 2 32) / Nat.pow 2 32
  let start := if here.pass = 0 ∨ here.slice = 3 then 0 else (here.slice + 1) * p.segment
  (lane, (start + (area - 1 - back)) % p.laneLength)

structure Memory where
  blocks : Array Block
  addresses : Block

def step (p : Params) (m : Memory) (here : Place) : Memory :=
  let column := here.slice * p.segment + here.index
  if here.pass = 0 ∧ column < 2 then
    if here.index = 0 then { m with addresses := addresses p here 1 } else m
  else
    let row := here.lane * p.laneLength
    let before := m.blocks.getD (row + (column + p.laneLength - 1) % p.laneLength) Block.zero
    let independent := here.isIndependent p.variant
    let addressed :=
      if independent ∧ here.index % 128 = 0 then addresses p here (here.index / 128 + 1)
      else m.addresses
    let random := if independent then addressed.getD (here.index % 128) 0 else before.getD 0 0
    let (lane, place) := reference p here random
    let other := m.blocks.getD (lane * p.laneLength + place) Block.zero
    let fresh := compress before other
    let fresh :=
      if here.pass = 0 ∨ p.version = .v16 then fresh
      else fresh.xor (m.blocks.getD (row + column) Block.zero)
    ⟨m.blocks.setIfInBounds (row + column) fresh, addressed⟩

def fill (p : Params) (m : Memory) : Memory :=
  (List.range p.passes).foldl (fun m pass =>
    (List.range 4).foldl (fun m slice =>
      (List.range p.lanes).foldl (fun m lane =>
        (List.range p.segment).foldl (fun m index => step p m ⟨pass, slice, lane, index⟩) m) m) m) m

def firstBlocks (p : Params) (h : Bytes) (lane : Nat) : Array Block :=
  let block := fun (k : Nat) =>
    Block.ofBytes (Blake2b.long 1024 (h ++ littleEndian 4 k ++ littleEndian 4 lane))
  #[block 0, block 1] ++ Array.replicate (p.laneLength - 2) Block.zero

def hash (p : Params) (size : Nat) (password salt : Bytes) : Bytes :=
  let h := seed p size password salt
  let start := (List.range p.lanes).foldl (fun bs lane => bs ++ firstBlocks p h lane) #[]
  let m := fill p ⟨start, Block.zero⟩
  let last := (List.range p.lanes).foldl (fun b lane =>
    b.xor (m.blocks.getD (lane * p.laneLength + p.laneLength - 1) Block.zero)) Block.zero
  Blake2b.long size last.bytes

end CityGuide.Crypto.Argon2
