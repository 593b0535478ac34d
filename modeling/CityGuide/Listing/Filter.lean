import CityGuide.Sql.Select
import CityGuide.Text.Digits

namespace CityGuide.Listing

inductive FilterKind where
  | eq
  | search
  deriving DecidableEq, Repr

structure Filter where
  column : String
  kind : FilterKind
  value : String
  deriving DecidableEq, Repr

namespace Filter

def eq (column value : String) : Filter := ⟨column, .eq, value⟩

def search (column value : String) : Filter := ⟨column, .search, value⟩

def isEmpty (f : Filter) : Bool := f.value.isEmpty

-- No stored text holds a NUL, so a search made of nothing else asks for nothing.
def isSkipped (f : Filter) : Bool :=
  f.isEmpty || (f.kind = .search && f.value.toList.all (·.toNat = 0))

end Filter

export Sql (Direction)

structure OrderKey where
  column : String
  direction : Direction
  deriving DecidableEq, Repr

namespace OrderKey

def asc (column : String) : OrderKey := ⟨column, .asc⟩

def desc (column : String) : OrderKey := ⟨column, .desc⟩

end OrderKey

def defaultPage : UInt64 := 1

def defaultLimit : UInt64 := 10

def maxLimit : UInt64 := 100

def saturatingPred (n : UInt64) : UInt64 := if n = 0 then 0 else n - 1

def saturatingMul (a b : UInt64) : UInt64 :=
  if a.toNat * b.toNat ≤ Text.maxWord 64 then a * b else UInt64.ofNat (Text.maxWord 64)

structure Request where
  page : UInt64
  limit : UInt64
  filters : List Filter
  order : List OrderKey
  deriving DecidableEq, Repr

namespace Request

/-- A page and limit of zero mean the defaults; larger limits are capped. -/
def ofPage (page limit : UInt64) : Request where
  page := if page = 0 then defaultPage else page
  limit := if limit = 0 then defaultLimit else if limit > maxLimit then maxLimit else limit
  filters := []
  order := []

def firstPage : Request := ofPage defaultPage defaultLimit

def filter (r : Request) (f : Filter) : Request := { r with filters := r.filters ++ [f] }

def eq (r : Request) (column value : String) : Request := r.filter (.eq column value)

def search (r : Request) (columns : List String) (value : String) : Request :=
  { r with filters := r.filters ++ columns.map fun c => Filter.search c value }

def orderBy (r : Request) (keys : List OrderKey) : Request := { r with order := r.order ++ keys }

def offset (r : Request) : UInt64 :=
  min (saturatingMul (saturatingPred r.page) r.limit) (UInt64.ofNat (Text.maxWord 63))

def window (r : Request) : Sql.Window := ⟨r.limit, r.offset⟩

end Request

end CityGuide.Listing
