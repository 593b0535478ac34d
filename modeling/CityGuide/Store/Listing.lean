import CityGuide.Listing.Page
import CityGuide.Listing.Source
import CityGuide.Store.Program

namespace CityGuide.Store

open Listing

inductive ListFailure where
  | unknown (u : Unknown)
  | store (f : Failure)

def fetchPage {α : Type} (source : Source) (base : Sql.Select) (read : Row → Option α)
    (r : Request) : Action ListFailure (Page α) := do
  let compiled ← Action.ofExcept ((source.compile base r).mapError .unknown)
  let items ← Action.mapError .store (Action.all (.select compiled.fetch) read)
  let count ← Action.mapError .store
    (Action.one (.select compiled.count) fun row => row.first Row.int8)
  pure ⟨items, count⟩

end CityGuide.Store
