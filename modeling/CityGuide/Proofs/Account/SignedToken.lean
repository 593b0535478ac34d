import CityGuide.Account.Token
import CityGuide.Http.Message

namespace CityGuide

namespace Text

theorem cutOnce_append {sep : Char} {as bs : List Char} (h : sep ∉ as) :
    cutOnce sep (as ++ sep :: bs) = some (as, bs) := by
  induction as with
  | nil => simp [cutOnce]
  | cons a as ih =>
    have ha : a ≠ sep := fun heq => h (heq ▸ List.mem_cons_self ..)
    have has : sep ∉ as := fun hmem => h (List.mem_cons_of_mem _ hmem)
    simp [cutOnce, ha, ih has]

theorem cutLast_append {sep : Char} {as bs : List Char} (h : sep ∉ bs) :
    cutLast sep (as ++ sep :: bs) = some (as, bs) := by
  have hreverse : (as ++ sep :: bs).reverse = bs.reverse ++ sep :: as.reverse := by simp
  rw [cutLast, hreverse, cutOnce_append (by simpa using h)]
  simp

theorem trimChars_of_all {cs : List Char} (h : ∀ c ∈ cs, isBlank c = false) :
    trimChars cs = cs := by
  have hkept : ∀ ds : List Char, (∀ c ∈ ds, isBlank c = false) → dropBlanks ds = ds := by
    intro ds hds
    cases ds with
    | nil => rfl
    | cons d ds => exact dropBlanks_of_head (hds d (List.mem_cons_self ..))
  rw [trimChars, hkept cs h, hkept cs.reverse (by simpa using h), List.reverse_reverse]

end Text

namespace Crypto.Base64

theorem forall_mem_encode {P : Char → Prop} {a : Alphabet} (h : ∀ n, P (a.char n)) (bs : Bytes) :
    ∀ c ∈ encode a bs, P c := by
  intro c hc
  obtain ⟨n, -, rfl⟩ := List.mem_map.mp hc
  exact h n

theorem point_not_mem_encode (bs : Bytes) : '.' ∉ encode .url bs := by
  intro h
  exact forall_mem_encode (P := fun c => c ≠ '.') (by decide) bs _ h rfl

end Crypto.Base64

namespace Token

open Crypto

variable {secret : Bytes} {now : Time.Instant} {c : Claims}

def unsigned (c : Claims) : List Char := encodePart headerJson ++ '.' :: encodePart c.toJson

theorem ofChars?_encode :
    Parts.ofChars? (encode secret c) =
      some ⟨encodePart headerJson, encodePart c.toJson, sign secret (unsigned c)⟩ := by
  have hsignature : Text.cutLast '.' (encode secret c) =
      some (unsigned c, sign secret (unsigned c)) :=
    Text.cutLast_append (Base64.point_not_mem_encode _)
  have hmessage : Text.cutLast '.' (unsigned c) =
      some (encodePart headerJson, encodePart c.toJson) :=
    Text.cutLast_append (Base64.point_not_mem_encode _)
  simp [Parts.ofChars?, hsignature, hmessage]

theorem eq_ok_of_toOption {ε α : Type} {r : Except ε α} {a : α} (h : r.toOption = some a) :
    r = .ok a := by
  cases r with
  | error e => simp [Except.toOption] at h
  | ok b => exact congrArg Except.ok (Option.some.inj h)

theorem header_encodePart : decodePart header (encodePart headerJson) = .ok .hs256 :=
  eq_ok_of_toOption (by decide +kernel)

theorem verify_encode (hc : decodePart Claims.decode (encodePart c.toJson) = .ok c)
    (hr : decodePart registered (encodePart c.toJson) = .ok ()) (hexp : 0 ≤ c.exp)
    (hnow : now.seconds - leeway ≤ c.exp) (hiss : c.iss = issuer) :
    verify secret now (String.ofList (encode secret c)) = .ok c := by
  simp [verify, ofChars?_encode, header_encodePart, hc, hr, hexp, hnow, hiss, Parts.message,
    unsigned, require, Bind.bind, Except.bind]

end Token

end CityGuide
