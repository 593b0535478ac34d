import CityGuide.Json.Decode
import CityGuide.Listing.Params

namespace CityGuide.Listing

open Json (Decoder Shape Reading)
open Json.Decode Json.Shape

def FilterKind.name : FilterKind → String
  | eq => "eq"
  | search => "search"

def FilterKind.ofName? : String → Option FilterKind
  | "eq" => some .eq
  | "search" => some .search
  | _ => none

def directionName : Direction → String
  | .asc => "asc"
  | .desc => "desc"

def directionOfName? : String → Option Direction
  | "asc" => some .asc
  | "desc" => some .desc
  | _ => none

namespace Filter

def toJson (f : Filter) : Json :=
  .record [("column", .text f.column), ("type", .text f.kind.name), ("value", .text f.value)]

def shape : Shape Filter :=
  Filter.mk <$> required "column" text <*> required "type" (choice FilterKind.ofName?)
    <*> required "value" text

def decode : Decoder Filter := shape.decode

end Filter

namespace OrderKey

def toJson (k : OrderKey) : Json :=
  .record [("column", .text k.column), ("direction", .text (directionName k.direction))]

def shape : Shape OrderKey :=
  OrderKey.mk <$> required "column" text <*> required "direction" (choice directionOfName?)

def decode : Decoder OrderKey := shape.decode

end OrderKey

namespace Request

def toJson (r : Request) : Json :=
  .record [("page", .int r.page.toNat), ("limit", .int r.limit.toNat),
    ("filters", Json.many Filter.toJson r.filters), ("order_by", Json.many OrderKey.toJson r.order)]

def word64 : Decoder UInt64 := fun d => (word 64 d).map UInt64.ofNat

def shape : Shape Request :=
  Request.mk <$> required "page" word64 <*> required "limit" word64
    <*> defaulted "filters" [] (list Filter.decode)
    <*> defaulted "order_by" [] (list OrderKey.decode)

def decode : Decoder Request := shape.decode

end Request

def Params.decode : Decoder Params :=
  (Params.mk <$> optional "page" text <*> optional "limit" text <*> optional "search" text
    <*> optional "sort" text).decode

structure Page (α : Type) where
  items : List α
  count : Int

def Page.toJson {α : Type} (encode : α → Json) (p : Page α) : Json :=
  .record [("items", Json.many encode p.items), ("count", .int p.count)]

def Page.decode {α : Type} (dec : Decoder α) : Decoder (Page α) :=
  (Page.mk <$> required "items" (list dec) <*> required "count" (signedWord 64)).decode

end CityGuide.Listing
