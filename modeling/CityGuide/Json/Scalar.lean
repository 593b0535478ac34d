import CityGuide.Json.Value
import CityGuide.Time.Rfc3339
import CityGuide.Uuid

namespace CityGuide.Json

def uuid (u : Uuid) : Json := .text u.text

def time (i : Time.Instant) : Json := .text (Time.Rfc3339.text i)

end CityGuide.Json
