import CityGuide.Api.Handling
import CityGuide.Guide.Report

namespace CityGuide.Api.Reports

open Store Handling

def create : Handler := fun r => do
  let caller ← read r.caller
  let draft ← read (r.body Report.Draft.decode)
  ofResult (caller.require .createReports)
  ofValid draft.validate
  let report ← ofStore (Report.create caller.userId draft)
  created report.toJson

def scope (caller : Caller) (requested : Option String) : Option String :=
  if caller.userType.holds .viewAllReports then requested else some caller.userId.text

def list : Handler := fun r => do
  let caller ← read r.caller
  let (params, value) ← read (r.query ["business_id", "user_id"])
  let request := ((params.toRequest ["reason"]).eq
    "business_id" ((value "business_id").getD "")).eq
    "user_id" ((scope caller (value "user_id")).getD "")
  let page ← ofList (Report.list request)
  ok (page.toJson Report.toJson)

def owned (caller : Caller) (id : Uuid) : Handling Report := do
  let report ← existing (Report.find id)
  ofResult (caller.requireOwner report.userId)
  pure report

def get : Handler := fun r => do
  let caller ← read r.caller
  let id ← read r.id
  let report ← owned caller id
  ok report.toJson

def update : Handler := fun r => do
  let caller ← read r.caller
  let id ← read r.id
  let change ← read (r.body Report.Change.decode)
  let _ ← owned caller id
  ofValid change.validate
  let report ← existing (Report.update id change)
  ok report.toJson

def delete : Handler := fun r => do
  let caller ← read r.caller
  let id ← read r.id
  let _ ← owned caller id
  removed (Report.delete id)
  ok (deleted "report")

end CityGuide.Api.Reports
