import CityGuide.Proofs.Account.FreshHash
import CityGuide.Proofs.Api.SignedRequests
import CityGuide.Proofs.Json.Wholeness

namespace CityGuide

namespace Text

theorem cutOnce_eq_some {sep : Char} {cs as bs : List Char} (h : cutOnce sep cs = some (as, bs)) :
    cs = as ++ sep :: bs ∧ sep ∉ as := by
  induction cs generalizing as with
  | nil => simp [cutOnce] at h
  | cons c cs ih =>
    rw [cutOnce] at h
    by_cases heq : c = sep
    · rw [if_pos heq] at h
      obtain ⟨rfl, rfl⟩ := Prod.mk.inj (Option.some.inj h)
      exact ⟨by rw [heq, List.nil_append], List.not_mem_nil⟩
    · rw [if_neg heq] at h
      obtain ⟨⟨as', bs'⟩, hcut, hpair⟩ := Option.map_eq_some_iff.mp h
      obtain ⟨rfl, rfl⟩ := Prod.mk.inj hpair
      obtain ⟨rfl, hnot⟩ := ih hcut
      exact ⟨rfl, List.not_mem_cons_of_ne_of_not_mem (Ne.symm heq) hnot⟩

theorem cutLast_eq_some {sep : Char} {cs as bs : List Char} (h : cutLast sep cs = some (as, bs)) :
    cs = as ++ sep :: bs ∧ sep ∉ bs := by
  obtain ⟨⟨front, back⟩, hcut, hpair⟩ := Option.map_eq_some_iff.mp h
  obtain ⟨rfl, rfl⟩ := Prod.mk.inj hpair
  obtain ⟨hreverse, hnot⟩ := cutOnce_eq_some hcut
  refine ⟨?_, by rwa [List.mem_reverse]⟩
  rw [← List.reverse_reverse cs, hreverse]
  simp

end Text

namespace Crypto.Base64

theorem forall_mem_of_decode {a : Alphabet} {cs : List Char} {bs : Bytes}
    (h : decode a cs = some bs) : ∀ c ∈ cs, ∃ n, a.digit? c = some n := by
  obtain ⟨ns, hns, -⟩ := Option.bind_eq_some_iff.mp h
  clear h
  induction cs generalizing ns with
  | nil => simp
  | cons c cs ih =>
    rw [List.mapM_cons] at hns
    obtain ⟨n, hn, hns⟩ := Option.bind_eq_some_iff.mp hns
    obtain ⟨ns, hns, -⟩ := Option.bind_eq_some_iff.mp hns
    exact List.forall_mem_cons.mpr ⟨⟨n, hn⟩, ih ns hns⟩

theorem point_not_mem_of_decode {cs : List Char} {bs : Bytes} (h : decode .url cs = some bs) :
    '.' ∉ cs := by
  intro hmem
  obtain ⟨n, hn⟩ := forall_mem_of_decode h _ hmem
  revert hn
  decide +revert

end Crypto.Base64

namespace Token

open Crypto Json Json.Decode Json.Shape

def Carries (part : List Char) (d : Document) : Prop :=
  ∃ bs, Base64.decode .url part = some bs ∧ d.Spells (textOfBytes bs)

theorem Carries.unique {part : List Char} {d d' : Document} (h : Carries part d)
    (h' : Carries part d') : d = d' := by
  obtain ⟨bs, hbs, hd⟩ := h
  obtain ⟨bs', hbs', hd'⟩ := h'
  obtain rfl := Option.some.inj (hbs.symm.trans hbs')
  exact (Prod.mk.inj (hd.read.symm.trans hd'.read)).1

section Reading

variable {α : Type} {dec : Decoder α} {part : List Char} {a : α}

theorem decodePart_eq_ok (h : decodePart dec part = .ok a) :
    ∃ bs d, Base64.decode .url part = some bs ∧
      Document.ofChars (textOfBytes bs) = (d, true) ∧ dec d = .ok a := by
  rw [decodePart] at h
  cases hbs : Base64.decode .url part with
  | none => simp [hbs] at h
  | some bs =>
    rw [hbs] at h
    cases hread : decodeChars dec (textOfBytes bs) with
    | error e => simp [hread, Except.mapError] at h
    | ok a' =>
      obtain rfl : a' = a := by simpa [hread, Except.mapError] using h
      obtain ⟨d, hd, hdec⟩ := decodeChars_eq_ok hread
      exact ⟨bs, d, rfl, hd, hdec⟩

theorem carries_of_decodePart [hdec : Decode.Thorough dec] (h : decodePart dec part = .ok a) :
    ∃ d, Carries part d ∧ dec d = .ok a := by
  obtain ⟨bs, d, hbs, hread, hd⟩ := decodePart_eq_ok h
  exact ⟨d, ⟨bs, hbs, hread, hdec.whole hd⟩, hd⟩

theorem Carries.decodePart {d : Document} (hd : Carries part d) (h : decodePart dec part = .ok a) :
    dec d = .ok a := by
  obtain ⟨bs, hbs, hspells⟩ := hd
  obtain ⟨bs', d', hbs', hread, hd'⟩ := decodePart_eq_ok h
  obtain rfl := Option.some.inj (hbs.symm.trans hbs')
  obtain rfl := (Prod.mk.inj (hspells.read.symm.trans hread)).1
  exact hd'

theorem Carries.point_not_mem {d : Document} (hd : Carries part d) : '.' ∉ part := by
  obtain ⟨bs, hbs, -⟩ := hd
  exact Base64.point_not_mem_of_decode hbs

end Reading

inductive GivesAlgorithm : Document → Document → Prop
  | member {ms : List (Option String × Document)} {d : Document} (h : Only ms "alg" d) :
      GivesAlgorithm (.record ms) d
  | item (first d : Document) (more : List Document) : GivesAlgorithm (.list (first :: d :: more)) d

theorem name_of_hs256 {s : String} (h : Algorithm.ofName? s = some .hs256) : s = "HS256" := by
  unfold Algorithm.ofName? at h
  split at h <;> first | rfl | simp at h

instance thorough_publicKey : Decode.Thorough publicKey where
  whole {d _} h := by
    cases d with
    | record ms => exact h
    | null | bool | number | text | list | broken => simp [publicKey] at h

instance thorough_header : Decode.Thorough header := thorough_decode _

theorem names_hs256 {d : Document} (h : choice Algorithm.ofName? d = .ok .hs256) :
    d.Names "HS256" := by
  obtain ⟨s, hs, hpick⟩ := names_of_choice h
  exact name_of_hs256 hpick ▸ hs

section Front

variable {α β : Type} {f : Shape (α → β)} {x : Shape α} {P : β → Prop}

theorem front_members {ms : List (Option String × Document)}
    (h : ∃ b, (f <*> x).fromMembers ms = .ok b ∧ P b) :
    ∃ g, f.fromMembers ms = .ok g ∧ ∃ a, P (g a) := by
  obtain ⟨b, h, hb⟩ := h
  obtain ⟨g, a, hg, -, rfl⟩ := members_seq.mp h
  exact ⟨g, hg, a, hb⟩

theorem front_items {ds : List Document}
    (h : ∃ b rest, (f <*> x).fromItems ds = .ok (b, rest) ∧ P b) :
    ∃ g rest, f.fromItems ds = .ok (g, rest) ∧ ∃ a, P (g a) := by
  obtain ⟨b, rest, h, hb⟩ := h
  obtain ⟨g, mid, a, hg, -, rfl⟩ := items_seq h
  exact ⟨g, mid, hg, a, hb⟩

end Front

theorem algorithm_of_header {d : Document} (h : header d = .ok .hs256) :
    ∃ a, GivesAlgorithm d a ∧ a.Names "HS256" := by
  cases d with
  | record ms =>
    obtain ⟨hcheck, h⟩ := decode_record h
    replace h := front_members ⟨_, h, rfl⟩
    iterate 7 (replace h := front_members h)
    obtain ⟨_, h, _, _, _, _, _, _, _, _, heq⟩ := h
    obtain ⟨_, a, htyp, halg, rfl⟩ := members_seq.mp h
    obtain ⟨_, _, hf, -, rfl⟩ := members_seq.mp htyp
    obtain rfl := Except.ok.inj hf
    obtain rfl : .hs256 = a := heq
    obtain ⟨d, hfind, hd⟩ := members_required halg
    exact ⟨d, .member (only_of_check (by decide) hcheck hfind), names_hs256 hd⟩
  | list ds =>
    replace h := front_items ⟨_, _, decode_list h, rfl⟩
    iterate 7 (replace h := front_items h)
    obtain ⟨_, _, h, _, _, _, _, _, _, _, _, heq⟩ := h
    obtain ⟨_, _, a, htyp, halg, rfl⟩ := items_seq h
    obtain ⟨_, _, _, hf, htyp, rfl⟩ := items_seq htyp
    obtain ⟨rfl, rfl⟩ := Prod.mk.inj (Except.ok.inj hf)
    obtain rfl : .hs256 = a := heq
    obtain ⟨first, rfl, -⟩ := (items_field htyp).resolve_right (by simp)
    obtain ⟨d, rfl, hd⟩ := (items_field halg).resolve_right (by simp)
    exact ⟨d, .item first d _, names_hs256 hd⟩
  | null | bool | number | text | broken => simp [header, Shape.decode] at h

structure Claims.StatedBy (c : Claims) (ms : List (Option String × Document)) : Prop where
  iss : Only ms "iss" (.text (some c.iss))
  sub : Only ms "sub" (.text (some c.sub))
  iat : Only ms "iat" (.number (some (.int c.iat)))
  exp : Only ms "exp" (.number (some (.int c.exp)))
  jti : Only ms "jti" (.text (some c.jti))
  userType : ∃ d, Only ms "user_type" d ∧ d.Names c.userType.name

instance thorough_userType : Decode.Thorough UserType.decode := thorough_choice _

instance thorough_claims : Decode.Thorough Claims.decode := thorough_decode _

theorem name_of_ofName? {s : String} {t : UserType} (h : UserType.ofName? s = some t) :
    s = t.name := by
  unfold UserType.ofName? at h
  split at h <;> simp at h <;> subst h <;> rfl

theorem statedBy_of_decode {c : Claims} {ms : List (Option String × Document)}
    (h : Claims.decode (.record ms) = .ok c) : c.StatedBy ms := by
  obtain ⟨hcheck, h⟩ := decode_record h
  obtain ⟨_, _, hfive, htype, rfl⟩ := members_seq.mp h
  obtain ⟨_, _, hfour, hjti, rfl⟩ := members_seq.mp hfive
  obtain ⟨_, _, hthree, hexp, rfl⟩ := members_seq.mp hfour
  obtain ⟨_, _, htwo, hiat, rfl⟩ := members_seq.mp hthree
  obtain ⟨_, _, hone, hsub, rfl⟩ := members_seq.mp htwo
  obtain ⟨_, _, hnone, hiss, rfl⟩ := members_seq.mp hone
  obtain rfl := Except.ok.inj hnone
  have honly : ∀ key ∈ ["iss", "sub", "iat", "exp", "jti", "user_type"], ∀ d,
      ms.find? (·.1 = some key) = some (some key, d) → Only ms key d :=
    fun key hkey d hd => only_of_check hkey hcheck hd
  have htext : ∀ {key s}, key ∈ ["iss", "sub", "iat", "exp", "jti", "user_type"] →
      (required key Decode.text).fromMembers ms = .ok s → Only ms key (.text (some s)) := by
    intro key s hkey hs
    obtain ⟨d, hd, hread⟩ := members_required hs
    exact text_eq_ok.mp hread ▸ honly key hkey d hd
  have hnumber : ∀ {key n}, key ∈ ["iss", "sub", "iat", "exp", "jti", "user_type"] →
      (required key (signedWord 64)).fromMembers ms = .ok n →
        Only ms key (.number (some (.int n))) := by
    intro key n hkey hn
    obtain ⟨d, hd, hread⟩ := members_required hn
    exact eq_number_of_whole hread ▸ honly key hkey d hd
  obtain ⟨d, hd, hread⟩ := members_required htype
  obtain ⟨name, hname, hpick⟩ := names_of_choice hread
  exact ⟨htext (by decide) hiss, htext (by decide) hsub, hnumber (by decide) hiat,
    hnumber (by decide) hexp, htext (by decide) hjti,
    d, honly _ (by decide) d hd, name_of_ofName? hpick ▸ hname⟩

theorem record_of_payload {d : Document} {c : Claims} (hc : Claims.decode d = .ok c)
    (hr : registered d = .ok ()) : ∃ ms, d = .record ms := by
  cases d with
  | record ms => exact ⟨ms, rfl⟩
  | list ds =>
    obtain ⟨hsix, -⟩ := length_of_decode hc
    obtain ⟨-, hfive⟩ := length_of_decode hr
    omega
  | null | bool | number | text | broken => simp [Claims.decode, Shape.decode] at hc

theorem require_eq_ok {holds : Bool} {why : Refusal} {u : Unit} :
    require holds why = .ok u ↔ holds = true := by
  cases holds <;> simp [require]

structure Genuine (secret : Bytes) (now : Time.Instant) (token : String) (c : Claims)
    (p : Parts) : Prop where
  parts : Text.splitOn '.' token.toList = [p.header, p.payload, p.signature]
  signature : p.signature =
    Base64.encode .url (hmac secret (utf8 (String.ofList (p.header ++ '.' :: p.payload))))
  header : ∃ d a, Carries p.header d ∧ GivesAlgorithm d a ∧ a.Names "HS256"
  payload : ∃ ms, Carries p.payload (.record ms) ∧ c.StatedBy ms
  issuer : c.iss = "locali"
  current : now.seconds - 60 ≤ c.exp

inductive Forged (secret : Bytes) (p : Parts) : Prop
  | algorithm {d : Document} (hd : Carries p.header d)
      (hother : ∀ a, GivesAlgorithm d a → ¬ a.Names "HS256")
  | timeless {d : Document} (hd : Carries p.payload d)
      (hnone : ∀ ms, d = .record ms → ∀ m ∈ ms, m.1 ≠ some "exp")
  | signature (hother : p.signature ≠
      Base64.encode .url (hmac secret (utf8 (String.ofList (p.header ++ '.' :: p.payload)))))

variable {secret : Bytes} {now : Time.Instant} {token : String} {c : Claims} {p : Parts}

theorem Genuine.not_forged (h : Genuine secret now token c p) : ¬ Forged secret p := by
  rintro (⟨hd, hother⟩ | ⟨hd, hnone⟩ | hother)
  · obtain ⟨d', a, hd', ha, hnames⟩ := h.header
    exact hother a (hd.unique hd' ▸ ha) hnames
  · obtain ⟨ms, hms, hstated⟩ := h.payload
    exact hnone ms (hd.unique hms) _ hstated.exp.mem rfl
  · exact hother h.signature

theorem splitOn_of_ofChars? {cs : List Char} (h : Parts.ofChars? cs = some p)
    (hheader : '.' ∉ p.header) :
    Text.splitOn '.' cs = [p.header, p.payload, p.signature] := by
  obtain ⟨⟨message, signature⟩, hlast, h⟩ := Option.bind_eq_some_iff.mp h
  obtain ⟨⟨header, payload⟩, hfirst, h⟩ := Option.bind_eq_some_iff.mp h
  obtain rfl := Option.some.inj h
  obtain ⟨rfl, hsignature⟩ := Text.cutLast_eq_some hlast
  obtain ⟨rfl, hpayload⟩ := Text.cutLast_eq_some hfirst
  rw [List.append_assoc, List.cons_append, Text.splitOn_append hheader,
    Text.splitOn_append hpayload, Text.splitOn_of_notMem hsignature]

structure Verified (secret : Bytes) (now : Time.Instant) (token : String) (c : Claims)
    (p : Parts) : Prop where
  parts : Parts.ofChars? token.toList = some p
  header : decodePart header p.header = .ok .hs256
  signature : p.signature = sign secret p.message
  claims : decodePart Claims.decode p.payload = .ok c
  registered : decodePart registered p.payload = .ok ()
  current : now.seconds - leeway ≤ c.exp
  issuer : c.iss = issuer

theorem verified_of_verify (h : verify secret now token = .ok c) :
    ∃ p, Verified secret now token c p := by
  rw [verify] at h
  cases hparts : Parts.ofChars? token.toList with
  | none =>
    rw [hparts] at h
    cases h
  | some p =>
    rw [hparts] at h
    obtain ⟨_, hp, h⟩ := bind_eq_ok.mp h
    obtain rfl := Except.ok.inj hp
    obtain ⟨algorithm, hheader, h⟩ := bind_eq_ok.mp h
    obtain ⟨_, hs256, h⟩ := bind_eq_ok.mp h
    obtain ⟨_, hsignature, h⟩ := bind_eq_ok.mp h
    obtain ⟨c', hclaims, h⟩ := bind_eq_ok.mp h
    obtain ⟨_, hregistered, h⟩ := bind_eq_ok.mp h
    obtain ⟨_, -, h⟩ := bind_eq_ok.mp h
    obtain ⟨_, hcurrent, h⟩ := bind_eq_ok.mp h
    obtain ⟨_, hissuer, h⟩ := bind_eq_ok.mp h
    obtain rfl := Except.ok.inj h
    simp only [require_eq_ok, decide_eq_true_eq] at hs256 hsignature hcurrent hissuer
    exact ⟨p, hparts, hs256 ▸ hheader, hsignature, hclaims, hregistered, hcurrent, hissuer⟩

theorem Verified.genuine (h : Verified secret now token c p) : Genuine secret now token c p := by
  obtain ⟨header, hheader, hread⟩ := carries_of_decodePart h.header
  obtain ⟨a, hgives, hnames⟩ := algorithm_of_header hread
  obtain ⟨payload, hpayload, hclaims⟩ := carries_of_decodePart h.claims
  obtain ⟨ms, rfl⟩ := record_of_payload hclaims (hpayload.decodePart h.registered)
  exact ⟨splitOn_of_ofChars? h.parts hheader.point_not_mem, h.signature,
    ⟨header, a, hheader, hgives, hnames⟩, ⟨ms, hpayload, statedBy_of_decode hclaims⟩, h.issuer,
    h.current⟩

theorem verify_genuine (h : verify secret now token = .ok c) :
    ∃ p, Genuine secret now token c p ∧ ¬ Forged secret p := by
  obtain ⟨p, hp⟩ := verified_of_verify h
  exact ⟨p, hp.genuine, hp.genuine.not_forged⟩

theorem verify_genuine_visitor :
    verify [] ⟨0, 0⟩ (String.ofList (encode [] Api.Server.visitorClaims)) =
        .ok Api.Server.visitorClaims ∧
      ∃ p, Genuine [] ⟨0, 0⟩ (String.ofList (encode [] Api.Server.visitorClaims))
        Api.Server.visitorClaims p ∧ ¬ Forged [] p := by
  have hread := Api.Server.visitorClaims_readsBack
  have hverified : verify [] ⟨0, 0⟩ (String.ofList (encode [] Api.Server.visitorClaims)) =
      .ok Api.Server.visitorClaims :=
    verify_encode hread.claims hread.registered (by decide) (by decide) rfl
  exact ⟨hverified, verify_genuine hverified⟩

end Token

end CityGuide
