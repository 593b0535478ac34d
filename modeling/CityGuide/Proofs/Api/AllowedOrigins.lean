import CityGuide.Api.Server
import CityGuide.Proofs.Account.SignedToken
import CityGuide.Proofs.Settings

namespace CityGuide

open Config (wildcard)

theorem Http.Cors.isSome_ofOrigins (origins : List String) :
    (ofOrigins origins).isSome = true ↔ (wildcard ∈ origins → origins = [wildcard]) := by
  have hvalue : isHeaderValue wildcard = true := by decide
  rw [ofOrigins]
  by_cases halone : origins = [wildcard]
  · simp [halone]
  · by_cases hmem : wildcard ∈ origins <;> simp [halone, hmem, hvalue]

namespace Api.Server

theorem isSome_ofConfig (c : Config) :
    (ofConfig c).isSome = true ↔ (wildcard ∈ c.origins → c.origins = [wildcard]) := by
  rw [ofConfig, Option.isSome_map, Http.Cors.isSome_ofOrigins]

theorem origins_usable_iff (text : String) : Config.parseOrigins text ≠ [] ∧
    (∀ o ∈ Config.parseOrigins text, Text.isBlankText o = false ∧ Text.trim o = o) ∧
    ∀ env c, Config.ofEnvironment env = .ok c → env "CORS_ALLOWED_ORIGINS" = some text →
      c.origins = Config.parseOrigins text ∧
      ((ofConfig c).isSome = true ↔
        (wildcard ∈ Config.named text → Config.named text = [wildcard])) := by
  refine ⟨Config.parseOrigins_ne_nil text, fun o => Config.parseOrigins_trimmed, ?_⟩
  intro env c hc htext
  have horigins : c.origins = Config.parseOrigins text := by
    rw [(Config.reads_of_ok hc).origins, htext]
    rfl
  rw [isSome_ofConfig, horigins, Config.parseOrigins_alone_iff]
  exact ⟨rfl, Iff.rfl⟩

theorem two_origins_usable : ∃ c,
    Config.ofEnvironment (Config.setting "CORS_ALLOWED_ORIGINS"
      " https://a.example , https://b.example,") = .ok c ∧
    c.origins = ["https://a.example", "https://b.example"] ∧ (ofConfig c).isSome = true := by
  have hc : Config.ofEnvironment (Config.setting "CORS_ALLOWED_ORIGINS"
      " https://a.example , https://b.example,") =
      .ok { Config.least with origins := ["https://a.example", "https://b.example"] } :=
    Token.eq_ok_of_toOption (by decide +kernel)
  obtain ⟨-, -, hmade⟩ := origins_usable_iff " https://a.example , https://b.example,"
  exact ⟨_, hc, rfl, (hmade _ _ hc rfl).2.mpr (by decide +kernel)⟩

theorem wildcard_beside_origin : ∃ c,
    Config.ofEnvironment (Config.setting "CORS_ALLOWED_ORIGINS" "*,https://a.example") = .ok c ∧
    c.origins = ["*", "https://a.example"] ∧ ofConfig c = none := by
  have hc : Config.ofEnvironment (Config.setting "CORS_ALLOWED_ORIGINS" "*,https://a.example") =
      .ok { Config.least with origins := ["*", "https://a.example"] } :=
    Token.eq_ok_of_toOption (by decide +kernel)
  exact ⟨_, hc, rfl, by decide +kernel⟩

end Api.Server

end CityGuide
