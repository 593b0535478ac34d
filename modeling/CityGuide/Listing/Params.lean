import CityGuide.Listing.Filter
import CityGuide.Text.Blank
import CityGuide.Text.Digits

namespace CityGuide.Listing

open Text

structure Params where
  page : Option String
  limit : Option String
  search : Option String
  sort : Option String
  deriving DecidableEq, Repr

namespace Params

def positive? (raw : Option String) : Option UInt64 :=
  raw.bind fun s =>
    ((unsigned? (maxWord 64) (trimChars s.toList)).filter (· > 0)).map UInt64.ofNat

def pageNumber (p : Params) : UInt64 := (positive? p.page).getD defaultPage

def rowLimit (p : Params) : UInt64 := (positive? p.limit).getD defaultLimit

def term (p : Params) : String := (p.search.map trim).getD ""

def orderKey (item : List Char) : OrderKey :=
  match item with
  | '-' :: column => .desc (String.ofList column)
  | '+' :: column => .asc (String.ofList column)
  | column => .asc (String.ofList column)

def sortItems (s : String) : List (List Char) :=
  ((splitOn ',' s.toList).map trimChars).filter fun item => !item.isEmpty

def sortOrder (p : Params) (fallback : OrderKey) : List OrderKey :=
  match (sortItems (p.sort.getD "")).map orderKey with
  | [] => [fallback]
  | keys => keys

def request (p : Params) : Request := Request.ofPage p.pageNumber p.rowLimit

def newestFirst : OrderKey := .desc "created_at"

def toRequest (p : Params) (searched : List String) : Request :=
  (p.request.search searched p.term).orderBy (p.sortOrder newestFirst)

end Params

end CityGuide.Listing
