import CityGuide.Account.UserType

namespace CityGuide

inductive Permission where
  | administerUsers
  | manageCategories
  | manageBusinesses
  | manageEvents
  | managePromotions
  | sendNotifications
  | viewAllReports
  | writeReviews
  | createReports
  | bookmarkBusinesses
  | followUsers
  | joinEvents
  deriving DecidableEq, Repr

namespace Permission

def name : Permission → String
  | administerUsers => "administer users"
  | manageCategories => "manage categories"
  | manageBusinesses => "manage businesses"
  | manageEvents => "manage events"
  | managePromotions => "manage promotions"
  | sendNotifications => "send notifications"
  | viewAllReports => "view all reports"
  | writeReviews => "write reviews"
  | createReports => "create reports"
  | bookmarkBusinesses => "bookmark businesses"
  | followUsers => "follow users"
  | joinEvents => "join events"

def ofMembers : List Permission :=
  [writeReviews, createReports, bookmarkBusinesses, followUsers, joinEvents]

def ofBusinesses : List Permission :=
  ofMembers ++ [manageBusinesses, manageEvents, managePromotions, sendNotifications]

end Permission

namespace UserType

def permissions : UserType → List Permission
  | user => Permission.ofMembers
  | business => Permission.ofBusinesses
  | admin => []

def holdsNamed (t : UserType) (name : String) : Bool :=
  t.isAdmin || (t.permissions.map Permission.name).contains name

def holds (t : UserType) (p : Permission) : Bool := t.holdsNamed p.name

def mayModify (t : UserType) (self owner : Uuid) : Bool := t.isAdmin || self = owner

end UserType

end CityGuide
