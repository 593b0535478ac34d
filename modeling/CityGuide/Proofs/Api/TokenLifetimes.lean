import CityGuide.Proofs.Api.LoginVerdicts
import CityGuide.Proofs.Settings

namespace CityGuide

open Store Store.Action

namespace Time.Instant

def lastSecond : Int := (⟨9999, 12, 31⟩ : Date).toDays * secondsPerDay + 86399

def Current (i : Instant) : Prop := 0 ≤ i.seconds ∧ i.seconds ≤ lastSecond

instance (i : Instant) : Decidable i.Current := inferInstanceAs (Decidable (_ ∧ _))

theorem plusSeconds_eq_some {i later : Instant} {n : Nat} (h : i.plusSeconds n = some later) :
    later.seconds = i.seconds + n := by
  rw [plusSeconds, Option.ite_none_right_eq_some] at h
  exact congrArg seconds (Option.some.inj h.2).symm

theorem isSome_plusSeconds {i : Instant} {n : Nat} (h : 0 ≤ i.seconds) :
    (i.plusSeconds n).isSome = true ↔ i.seconds + n ≤ latest := by
  have hearly : earliest ≤ 0 := by decide
  rw [plusSeconds, Option.isSome_ite]
  simp only [isRepresentable, Bool.and_eq_true, decide_eq_true_eq]
  omega

end Time.Instant

namespace Token

open Time

variable {lifetime : UInt64} {now : Instant}

theorem seconds_of_expiresAt {e : Instant} (h : expiresAt lifetime now = some e) :
    e.seconds = now.seconds + lifetime.toNat := by
  rw [expiresAt, Option.ite_none_right_eq_some] at h
  exact Instant.plusSeconds_eq_some h.2

theorem isSome_expiresAt (h : 0 ≤ now.seconds) : (expiresAt lifetime now).isSome = true ↔
    now.seconds + lifetime.toNat ≤ Instant.latest := by
  have hspan : Instant.latest ≤ longestSpan := by decide
  rw [expiresAt, ← Instant.isSome_plusSeconds h]
  split
  · exact Iff.rfl
  · rw [Instant.isSome_plusSeconds h]
    simp only [Option.isSome_none, Bool.false_eq_true, false_iff]
    omega

theorem always_expires_iff :
    (∀ now : Instant, now.Current → (expiresAt lifetime now).isSome = true) ↔
      Instant.lastSecond + lifetime.toNat ≤ Instant.latest := by
  have hlate : 0 ≤ Instant.lastSecond := by decide
  constructor
  · exact fun h => (isSome_expiresAt hlate).mp (h ⟨Instant.lastSecond, 0⟩ ⟨hlate, le_refl _⟩)
  · intro h now ⟨hfirst, hlast⟩
    exact (isSome_expiresAt hfirst).mpr (by omega)

end Token

namespace Api

open Http (Request Response)
open Handling Auth

namespace Auth

variable {t : List Step} {policy : TokenPolicy} {i : Incoming}

theorem openedAt_none {r : Request} {user : User} {now : Time.Instant} :
    (openedAt policy r user now).Runs t none ↔
      t = [] ∧ Token.expiresAt policy.lifetime now = none := by
  cases hexpires : Token.expiresAt policy.lifetime now with
  | none => simp [openedAt, hexpires, Action.crash, runs_lift]
  | some expiresAt => simp [runs_openedAt hexpires]

structure Stranded (lifetime : UInt64) (r : Request) (c : Credentials) (user : User)
    (now : Time.Instant) (reply : Reply) : Prop where
  read : (⟨r, none, none⟩ : Incoming).body Credentials.decode = .ok c
  found : reply.bind (firstRow User.ofRow) = .ok (some user)
  accepted : user.acceptsPassword c.password = true
  active : user.isActive = true
  endless : Token.expiresAt lifetime now = none

theorem login_none : (login policy i).Runs t none ↔ ∃ c user now reply,
    Stranded policy.lifetime i.request c user now reply ∧ t = [look c reply, .readClock now] := by
  constructor
  · intro h
    obtain ⟨c, hread⟩ : ∃ c, i.body Credentials.decode = .ok c := by
      cases hbody : i.body Credentials.decode with
      | ok c => exact ⟨c, rfl⟩
      | error stop =>
        rw [login_eq, hbody] at h
        cases (runs_ofExcept.mp h).2
    obtain ⟨reply, rest, rfl, hcontinues⟩ := (runs_login hread).mp h
    generalize hfound : reply.bind (firstRow User.ofRow) = found at hcontinues
    -- only a login that is opened reads the clock, and only there a run can end without an outcome
    generalize ho : (none : Option (Except Stop Response)) = o? at hcontinues
    cases hcontinues with
    | failed | rejected | blocked => cases ho
    | @opened user now rest _ haccepted hactive hopened =>
      subst ho
      obtain ⟨rfl, hexpires⟩ := openedAt_none.mp hopened
      exact ⟨c, user, now, reply, ⟨hread, hfound, haccepted, hactive, hexpires⟩, rfl⟩
  · rintro ⟨c, user, now, reply, h, rfl⟩
    refine (runs_login h.read).mpr ⟨reply, _, rfl, ?_⟩
    rw [h.found]
    exact .opened h.accepted h.active (openedAt_none.mpr ⟨rfl, h.endless⟩)

end Auth

namespace Server

variable {s : Server} {r : Request} {t : List Step}

theorem login_unanswered {name? : Option (List Char)}
    (hr : s.Reaches r (.fixed .post ["v1", "auth", "login"]) name?) :
    (s.handle r).Runs t none ↔ ∃ lead c? c user now reply, s.Introduces r lead c? ∧
      Stranded s.policy.lifetime r c user now reply ∧
      t = lead ++ [look c reply, .readClock now] := by
  constructor
  · intro ht
    rcases hr.runs_cases (login_mem _) ht with
      ⟨lead, rest, c?, o?, rfl, hlead, ho, hv⟩ | ⟨_, hv, -⟩
    · obtain rfl := Option.map_eq_none_iff.mp hv.symm
      obtain ⟨c, user, now, reply, h, rfl⟩ := login_none.mp ho
      exact ⟨lead, c?, c, user, now, reply, hlead, h, rfl⟩
    · cases hv
  · rintro ⟨lead, c?, c, user, now, reply, hlead, h, rfl⟩
    have hlogin (i : Incoming) (hi : i.request = r) :
        (login s.policy i).Runs [look c reply, .readClock now] none :=
      login_none.mpr ⟨c, user, now, reply, hi ▸ h, rfl⟩
    cases c? with
    | some caller => exact hr.runs_of_caller (login_mem _) hlead (hlogin _ rfl)
    | none =>
      cases hlead with
      | nobody hb => exact hr.runs_of_nobody (login_mem _) hb (hlogin _ rfl)

theorem lifetime_of_config {c : Config} (h : ofConfig c = some s) :
    s.policy.lifetime = c.tokenLifetime := by
  obtain ⟨cors, -, rfl⟩ := Option.map_eq_some_iff.mp h
  rfl

theorem lifetime_ends_iff {env : Config.Environment} {c : Config}
    (hc : Config.ofEnvironment env = .ok c) : ∃ n : Nat,
    Config.number env "ACCESS_TOKEN_TTL_SECS" 86400 64 .tokenLifetime = .ok n ∧
    (∀ now : Time.Instant, now.Current →
      ((Token.expiresAt c.tokenLifetime now).isSome = true ↔
        now.seconds + n ≤ Time.Instant.latest)) ∧
    (∀ now e, Token.expiresAt c.tokenLifetime now = some e → e.seconds = now.seconds + n) ∧
    ((∀ now : Time.Instant, now.Current → (Token.expiresAt c.tokenLifetime now).isSome = true) ↔
      Time.Instant.lastSecond + n ≤ Time.Instant.latest) ∧
    ∀ s, ofConfig c = some s → ∀ r name? t,
      s.Reaches r (.fixed .post ["v1", "auth", "login"]) name? →
      ((s.handle r).Runs t none ↔ ∃ lead c? credentials user now reply, s.Introduces r lead c? ∧
        Stranded c.tokenLifetime r credentials user now reply ∧
        t = lead ++ [look credentials reply, .readClock now]) := by
  refine ⟨c.tokenLifetime.toNat, (Config.reads_of_ok hc).lifetime,
    fun now hnow => Token.isSome_expiresAt hnow.1, fun now e => Token.seconds_of_expiresAt,
    Token.always_expires_iff, fun s hs r name? t hr => ?_⟩
  rw [← lifetime_of_config hs]
  exact login_unanswered hr

def lasting (lifetime : String) : Config.Environment :=
  Config.setting "ACCESS_TOKEN_TTL_SECS" lifetime

def lastingConfig (lifetime : UInt64) : Config := { Config.least with tokenLifetime := lifetime }

theorem lasting_serves (lifetime : UInt64) : ofConfig (lastingConfig lifetime) =
    some ⟨⟨Config.least.secretBytes, lifetime⟩, .anyone, 30⟩ := rfl

theorem day_ends : ∃ c, Config.ofEnvironment (lasting "86400") = .ok c ∧
    ∀ now : Time.Instant, now.Current → (Token.expiresAt c.tokenLifetime now).isSome = true := by
  have hc : Config.ofEnvironment (lasting "86400") = .ok (lastingConfig 86400) :=
    Token.eq_ok_of_toOption (by decide +kernel)
  obtain ⟨n, hn, -, -, halways, -⟩ := lifetime_ends_iff hc
  obtain rfl : 86400 = n := Except.ok.inj hn
  exact ⟨_, hc, halways.mpr (by decide)⟩

theorem long_lifetime_unanswered : ∃ c s,
    Config.ofEnvironment (lasting "10000000000000") = .ok c ∧ ofConfig c = some s ∧
    (∀ now : Time.Instant, now.Current → Token.expiresAt c.tokenLifetime now = none) ∧
    (⟨1740915015, 500000000⟩ : Time.Instant).Current ∧
    (s.handle signingIn).Runs
      [look ⟨"ann@example.com", "old password"⟩ (.ok ⟨[hashedRow oldHash], 1⟩),
        .readClock ⟨1740915015, 500000000⟩] none := by
  have hc : Config.ofEnvironment (lasting "10000000000000") =
      .ok (lastingConfig 10000000000000) := Token.eq_ok_of_toOption (by decide +kernel)
  have hnone : ∀ now : Time.Instant, now.Current → Token.expiresAt 10000000000000 now = none := by
    intro now hnow
    have hshort : Time.Instant.latest < (10000000000000 : UInt64).toNat := by decide
    have hfirst : 0 ≤ now.seconds := hnow.1
    rw [← Option.not_isSome_iff_eq_none, Token.isSome_expiresAt hfirst]
    omega
  have hcurrent : (⟨1740915015, 500000000⟩ : Time.Instant).Current := by decide
  refine ⟨_, _, hc, lasting_serves _, hnone, hcurrent, (login_unanswered
    (signingIn_reaches _)).mpr ⟨[], none, _, hashed oldHash, _, _, .nobody rfl, ?_, rfl⟩⟩
  exact ⟨oldEntry_allowed.read, oldEntry_allowed.found, oldEntry_allowed.accepted, by decide,
    hnone _ hcurrent⟩

end Server

end Api

end CityGuide
