import CityGuide.Config
import CityGuide.Proofs.Json.Parts
import CityGuide.Proofs.Text.Trimming

namespace CityGuide

theorem Text.unsigned?_le {bound n : Nat} {cs : List Char} (h : unsigned? bound cs = some n) :
    n ≤ bound := by
  have hle : decide (n ≤ bound) = true := (Option.filter_eq_some_iff.mp h).2
  exact of_decide_eq_true hle

namespace Config

variable {env : Environment} {c : Config} {text o : String}

theorem number_le {name : String} {default bits n : Nat} {fault : Fault}
    (hd : default ≤ Text.maxWord bits) (h : number env name default bits fault = .ok n) :
    n ≤ Text.maxWord bits := by
  rw [number] at h
  split at h
  · exact Except.ok.inj h ▸ hd
  · split at h
    · next hread => exact Except.ok.inj h ▸ Text.unsigned?_le hread
    · cases h

structure Reads (env : Environment) (c : Config) : Prop where
  lifetime :
    number env "ACCESS_TOKEN_TTL_SECS" 86400 64 .tokenLifetime = .ok c.tokenLifetime.toNat
  origins : c.origins = ((env "CORS_ALLOWED_ORIGINS").map parseOrigins).getD [wildcard]

theorem reads_of_ok (h : ofEnvironment env = .ok c) : Reads env c := by
  obtain ⟨port, -, h⟩ := Json.bind_eq_ok.mp h
  obtain ⟨databaseUrl, -, h⟩ := Json.bind_eq_ok.mp h
  obtain ⟨maxConnections, -, h⟩ := Json.bind_eq_ok.mp h
  obtain ⟨secret, -, h⟩ := Json.bind_eq_ok.mp h
  split at h
  · cases h
  obtain ⟨n, hn, h⟩ := Json.bind_eq_ok.mp h
  obtain ⟨requestTimeout, -, h⟩ := Json.bind_eq_ok.mp h
  obtain rfl := Except.ok.inj h
  have hword : n < UInt64.size := Nat.lt_succ_of_le (number_le (by decide) hn)
  have hkept : (UInt64.ofNat n).toNat = n := UInt64.toNat_ofNat_of_lt' hword
  exact ⟨hn.trans (congrArg Except.ok hkept.symm), rfl⟩

def named (text : String) : List String :=
  ((Text.parts ',' text).map Text.trim).filter fun o => !o.isEmpty

theorem parseOrigins_eq (text : String) :
    parseOrigins text = if named text = [] then [wildcard] else named text := by
  have hnamed : ((Text.parts ',' text).map Text.trim).filter (fun o => !o.isEmpty) = named text := rfl
  rw [parseOrigins, hnamed]
  cases named text <;> rfl

theorem named_trimmed (h : o ∈ named text) : Text.isBlankText o = false ∧ Text.trim o = o := by
  obtain ⟨hmem, hfull⟩ := List.mem_filter.mp h
  obtain ⟨part, -, rfl⟩ := List.mem_map.mp hmem
  refine ⟨?_, Text.trim_trim part⟩
  rw [← Text.isEmpty_trim, Text.trim_trim]
  simpa using hfull

theorem parseOrigins_ne_nil (text : String) : parseOrigins text ≠ [] := by
  rw [parseOrigins_eq]
  split
  · exact List.cons_ne_nil _ _
  · assumption

theorem parseOrigins_trimmed (h : o ∈ parseOrigins text) :
    Text.isBlankText o = false ∧ Text.trim o = o := by
  rw [parseOrigins_eq] at h
  split at h
  · obtain rfl := List.mem_singleton.mp h
    exact ⟨by decide, by decide⟩
  · exact named_trimmed h

theorem parseOrigins_alone_iff : (wildcard ∈ parseOrigins text → parseOrigins text = [wildcard]) ↔
    (wildcard ∈ named text → named text = [wildcard]) := by
  rw [parseOrigins_eq]
  split
  · next hnone => simp [hnone]
  · exact Iff.rfl

def setting (name value : String) : Environment := fun n =>
  if n = name then some value
  else match n with
    | "DATABASE_URL" => some "postgres://localhost/city"
    | "JWT_SECRET" => some "a secret of no less than 32 bytes"
    | _ => none

def least : Config :=
  ⟨3000, "postgres://localhost/city", 10, "a secret of no less than 32 bytes", 86400, [wildcard],
    30⟩

end Config

end CityGuide
