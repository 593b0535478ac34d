import CityGuide.Proofs.Account.FreshHash
import CityGuide.Proofs.Api.SignedRequests
import CityGuide.Proofs.Json.ReadBack
import CityGuide.Proofs.Text.Utf8

namespace CityGuide

namespace Time.Instant

/-- The times that a clock shows from 1970 on; it never shows a leap second. -/
def OnClock (i : Instant) : Prop := 0 ≤ i.seconds ∧ i.nanos < nanosPerSecond

theorem secondsSince_of_nanos_eq {a b : Instant} (h : a.nanos = b.nanos)
    (hb : b.nanos < nanosPerSecond) : secondsSince a b = a.seconds - b.seconds := by
  have hleap : leapBetween a b = 0 := by
    have hnone : ¬ b.nanos ≥ nanosPerSecond := by omega
    simp only [leapBetween, h, if_neg hnone, ite_self]
  rw [secondsSince, nanosSince, hleap, h, Int.add_zero, Int.sub_self, Int.add_zero]
  exact Int.mul_tdiv_cancel _ (by decide)

end Time.Instant

namespace Token

open Crypto

theorem textOfBytes_write (j : Json) : textOfBytes (utf8 j.write) = j.chars := by
  rw [textOfBytes, Json.write, Text.utf8Chars_utf8, List.flatMap_map]
  exact List.flatMap_singleton' _

theorem decodePart_encodePart {α : Type} (dec : Json.Decoder α) {j : Json} (hj : j.Exact) :
    decodePart dec (encodePart j) = (dec (.ofValue j)).mapError fun _ => .malformed := by
  simp only [decodePart, encodePart, Base64.decode_encode, textOfBytes_write,
    Json.decodeChars_chars dec hj]

def isTime (n : Int) : Prop := -(Nat.pow 2 63 : Nat) ≤ n ∧ n < (Nat.pow 2 63 : Nat)

theorem isTime.isWord {n : Int} (hn : isTime n) : Json.isWord n := by
  obtain ⟨hlow, hhigh⟩ := hn
  have hless : Nat.pow 2 63 ≤ Nat.pow 2 64 := by decide
  exact ⟨hlow, by omega⟩

theorem signedWord_of_isTime {n : Int} (hn : isTime n) :
    Json.Decode.signedWord 64 (.number (some (.int n))) = .ok n := by
  obtain ⟨hlow, hhigh⟩ := hn
  have hword : Text.maxWord 63 + 1 = Nat.pow 2 63 := by decide
  have hrange : -(Text.maxWord 63 : Int) - 1 ≤ n ∧ n ≤ Text.maxWord 63 := by omega
  rw [Json.Decode.signedWord, Json.Decode.whole, if_pos hrange]

theorem decode_name (t : UserType) : UserType.decode (.text (some t.name)) = .ok t := by
  cases t <;> rfl

namespace Claims

variable {c : Claims}

theorem exact_toJson (hiat : isTime c.iat) (hexp : isTime c.exp) : c.toJson.Exact := by
  simp [Claims.toJson, UserType.toJson, Json.Exact, Json.ExactMembers, hiat.isWord, hexp.isWord]

theorem decode_toJson (hiat : isTime c.iat) (hexp : isTime c.exp) :
    decode (.ofValue c.toJson) = .ok c := by
  simp [decode, toJson, Json.Document.ofValue, Json.Document.ofMembers, Json.Shape.decode,
    Functor.map, Seq.seq, Json.Shape.seq, Json.Shape.required, Json.Shape.field, Json.Shape.pure,
    Json.Shape.check, Json.Decode.text, signedWord_of_isTime hiat, signedWord_of_isTime hexp,
    UserType.toJson, decode_name, Except.map, Bind.bind, Except.bind]

theorem registered_toJson (c : Claims) : registered (.ofValue c.toJson) = .ok () := by
  simp [registered, anything, toJson, UserType.toJson, Json.Document.ofValue,
    Json.Document.ofMembers, Json.Document.toValue?, Json.Decode.ignore, Json.Shape.decode,
    Functor.map, Seq.seq, Json.Shape.seq, Json.Shape.defaulted, Json.Shape.field, Json.Shape.pure,
    Json.Shape.check, Except.map, Bind.bind, Except.bind]

theorem readsBack (hiat : isTime c.iat) (hexp : isTime c.exp) : c.ReadsBack where
  claims := by
    rw [decodePart_encodePart _ (exact_toJson hiat hexp), decode_toJson hiat hexp, Except.mapError]
  registered := by
    rw [decodePart_encodePart _ (exact_toJson hiat hexp), registered_toJson, Except.mapError]

end Claims

open Time (Instant)

variable {lifetime : UInt64} {now expiry : Instant}

theorem expiresAt_eq_some (h : expiresAt lifetime now = some expiry) :
    expiry.seconds = now.seconds + lifetime.toNat ∧ expiry.seconds ≤ Instant.latest ∧
      (now.nanos < Instant.nanosPerSecond → expiry.nanos = now.nanos) := by
  rw [expiresAt] at h
  split at h
  · simp only [Instant.plusSeconds, Option.ite_none_right_eq_some, Option.some.injEq] at h
    obtain ⟨hrange, rfl⟩ := h
    simp only [Instant.isRepresentable, Bool.and_eq_true, decide_eq_true_eq] at hrange
    refine ⟨rfl, hrange.2, fun hnanos => ?_⟩
    exact if_neg (by simp only [not_and, ge_iff_le]; omega)
  · simp at h

theorem latest_lt : Instant.latest < (Nat.pow 2 63 : Nat) := by decide

theorem claimsFor_readsBack (hnow : now.OnClock) (h : expiresAt lifetime now = some expiry)
    (userId sessionId : Uuid) (userType : UserType) :
    (claimsFor userId userType sessionId now expiry).ReadsBack ∧ 0 ≤ expiry.seconds := by
  obtain ⟨hlater, hlatest, -⟩ := expiresAt_eq_some h
  have hbound := latest_lt
  obtain ⟨hpast, -⟩ := hnow
  have hexp : 0 ≤ expiry.seconds := by omega
  exact ⟨Claims.readsBack ⟨by simp only [claimsFor]; omega, by simp only [claimsFor]; omega⟩
    ⟨by simp only [claimsFor]; omega, by simp only [claimsFor]; omega⟩, hexp⟩

theorem issue_expiresIn (hnow : now.OnClock) (h : expiresAt lifetime now = some expiry)
    (secret : Bytes) (userId sessionId : Uuid) (userType : UserType) :
    (issue secret userId userType sessionId now expiry).expiresIn = lifetime.toNat := by
  obtain ⟨hlater, -, hnanos⟩ := expiresAt_eq_some h
  change Instant.secondsSince expiry now = _
  rw [Instant.secondsSince_of_nanos_eq (hnanos hnow.2) hnow.2, hlater]
  omega

end Token

end CityGuide
