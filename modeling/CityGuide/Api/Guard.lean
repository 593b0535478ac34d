import CityGuide.Account.Permission
import CityGuide.Api.Error

namespace CityGuide.Api

structure Caller where
  userId : Uuid
  userType : UserType
  sessionId : Uuid
  deriving DecidableEq, Repr

namespace Caller

def isAdmin (c : Caller) : Bool := c.userType.isAdmin

def requireNamed (c : Caller) (permission : String) : Result Unit :=
  if c.userType.holdsNamed permission then .ok ()
  else .error (.forbidden ("missing permission: " ++ permission))

def require (c : Caller) (p : Permission) : Result Unit := c.requireNamed p.name

def requireOwner (c : Caller) (owner : Uuid) : Result Unit :=
  if c.userType.mayModify c.userId owner then .ok ()
  else .error (.forbidden "not the owner of this resource")

def requireAdmin (c : Caller) : Result Unit :=
  if c.isAdmin then .ok () else .error (.forbidden "admin only")

def scope (c : Caller) (requested : Option String) : Option String :=
  if c.isAdmin then requested else some c.userId.text

end Caller

end CityGuide.Api
