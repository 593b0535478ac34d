import CityGuide.Guide.Attachment
import CityGuide.Listing.Source

namespace CityGuide

open Sql

def AttachmentOwner.detailed (owner : AttachmentOwner) (source : Listing.Source) (name : String) :
    Select :=
  let id : Column := ⟨source.qualifier, "id"⟩
  { source.select [.allOf source.qualifier, .raw (aggregate name) "attachments"] with
    joins := source.innerJoins ++ [⟨.left, ⟨owner.table, some name⟩, ⟨name, owner.ownerColumn⟩, id⟩]
    groups := [id] }

def Sql.Select.byId (s : Select) (id : Uuid) : Select :=
  { s with condition := [[.equals ⟨s.table.qualifier, "id"⟩ (.uuid id)]] }

end CityGuide
