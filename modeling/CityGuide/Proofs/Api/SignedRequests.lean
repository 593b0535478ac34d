import CityGuide.Proofs.Account.SignedToken
import CityGuide.Proofs.Api.Authentication
import CityGuide.Proofs.Uuid

namespace CityGuide

namespace Token

open Crypto

structure Claims.ReadsBack (c : Claims) : Prop where
  claims : decodePart Claims.decode (encodePart c.toJson) = .ok c
  registered : decodePart registered (encodePart c.toJson) = .ok ()

theorem forall_mem_encode {P : Char → Prop} (hpoint : P '.')
    (h : ∀ n, P (Base64.Alphabet.url.char n)) (secret : Bytes) (c : Claims) :
    ∀ x ∈ encode secret c, P x := by
  intro x hx
  simp only [encode, encodePart, sign, List.append_assoc, List.mem_append, List.mem_cons] at hx
  rcases hx with hx | (rfl | hx) | rfl | hx
  · exact Base64.forall_mem_encode h _ x hx
  · exact hpoint
  · exact Base64.forall_mem_encode h _ x hx
  · exact hpoint
  · exact Base64.forall_mem_encode h _ x hx

end Token

namespace Api

open Http (Request Response)
open Store

def carrying (secret : Crypto.Bytes) (claims : Token.Claims) (r : Request) : Request :=
  { r with
    headers := ("authorization", "Bearer " ++ String.ofList (Token.encode secret claims)) ::
      r.headers }

namespace Server

variable {s : Server} {r : Request} {claims : Token.Claims} {now : Time.Instant}

theorem headerText?_signed {secret : Crypto.Bytes}
    (h : r.header? "authorization" =
      some ("Bearer " ++ String.ofList (Token.encode secret claims))) :
    r.headerText? "authorization" =
      some ("Bearer " ++ String.ofList (Token.encode secret claims)) := by
  have hchars : ("Bearer " ++ String.ofList (Token.encode secret claims)).toList.all
      Http.isHeaderChar = true := by
    rw [toList_bearer, String.toList_ofList, List.all_append, List.all_eq_true.mpr
      (Token.forall_mem_encode (by decide) (by decide) secret claims)]
    decide
  rw [Request.headerText?, h, Option.filter_some, if_pos hchars]

theorem carrying_header (secret : Crypto.Bytes) (claims : Token.Claims) (r : Request) :
    (carrying secret claims r).headerText? "authorization" =
      some ("Bearer " ++ String.ofList (Token.encode secret claims)) :=
  headerText?_signed (by simp [carrying, Request.header?])

theorem carrying_trim (secret : Crypto.Bytes) (claims : Token.Claims) :
    Text.trim (String.ofList (Token.encode secret claims)) =
      String.ofList (Token.encode secret claims) := by
  rw [Text.trim, String.toList_ofList, Text.trimChars_of_all
    (Token.forall_mem_encode (by decide) (by decide) secret claims)]

theorem bearer?_signed {secret : Crypto.Bytes}
    (h : r.header? "authorization" =
      some ("Bearer " ++ String.ofList (Token.encode secret claims))) :
    bearer? r = some (String.ofList (Token.encode secret claims)) :=
  bearer?_eq_some.mpr ⟨_, headerText?_signed h, (carrying_trim secret claims).symm⟩

theorem bearer?_carrying (secret : Crypto.Bytes) (claims : Token.Claims) (r : Request) :
    bearer? (carrying secret claims r) = some (String.ofList (Token.encode secret claims)) :=
  bearer?_signed (by simp [carrying, Request.header?])

theorem presents_of_signed {sessionId userId : Uuid} (hr : claims.ReadsBack)
    (hexp : 0 ≤ claims.exp) (hnow : now.seconds - Token.leeway ≤ claims.exp)
    (hiss : claims.iss = Token.issuer) (hsub : claims.sub = userId.text)
    (hjti : claims.jti = sessionId.text) :
    s.Presents (carrying s.policy.secret claims r) now sessionId userId := by
  have hverified : Token.verify s.policy.secret now
      (Text.trim (String.ofList (Token.encode s.policy.secret claims))) = .ok claims := by
    rw [carrying_trim]
    exact Token.verify_encode hr.claims hr.registered hexp hnow hiss
  refine .intro (carrying_header ..) hverified ?_ ?_
  · rw [hsub, Uuid.ofText?_text]
  · rw [hjti, Uuid.ofText?_text]

def typeReply (t : UserType) : Reply := .ok ⟨[[("user_type", .text t.name)]], 1⟩

theorem sessionType_typeReply (t : UserType) : sessionType (typeReply t) = .ok (some t) := by
  cases t <;> rfl

theorem introduces_signed {sessionId userId : Uuid} {userType : UserType} (hr : claims.ReadsBack)
    (hexp : 0 ≤ claims.exp) (hnow : now.seconds - Token.leeway ≤ claims.exp)
    (hiss : claims.iss = Token.issuer) (hsub : claims.sub = userId.text)
    (hjti : claims.jti = sessionId.text) :
    s.Introduces (carrying s.policy.secret claims r)
      [.readClock now, .asked (.run (.activeSession sessionId userId)) (typeReply userType)]
      (some ⟨userId, userType, sessionId⟩) :=
  .known (presents_of_signed hr hexp hnow hiss hsub hjti) (sessionType_typeReply userType)

def visitor (t : UserType) : Caller := ⟨.nil, t, .nil⟩

def visitorClaims : Token.Claims := Token.claimsFor .nil .user .nil ⟨0, 0⟩ ⟨3600, 0⟩

theorem visitorClaims_readsBack : visitorClaims.ReadsBack where
  claims := Token.eq_ok_of_toOption (by decide +kernel)
  registered := Token.eq_ok_of_toOption (by decide +kernel)

def visitorLead (t : UserType) : List Step :=
  [.readClock ⟨0, 0⟩, .asked (.run (.activeSession .nil .nil)) (typeReply t)]

theorem introduces_visitor (s : Server) (r : Request) (t : UserType) :
    s.Introduces (carrying s.policy.secret visitorClaims r) (visitorLead t) (some (visitor t)) :=
  introduces_signed visitorClaims_readsBack (by decide) (by decide) rfl rfl rfl

end Server

end Api

end CityGuide
