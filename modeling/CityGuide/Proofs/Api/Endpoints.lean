import CityGuide.Api.Server
import Mathlib.Data.List.Nodup

namespace CityGuide.Api

open Http (Method Request)

structure Endpoint where
  method : Method
  pattern : List Segment
  deriving DecidableEq, Repr

namespace Endpoint

def fixed (m : Method) (path : List String) : Endpoint := ⟨m, path.map .fixed⟩

def named (m : Method) (path : List String) : Endpoint := ⟨m, path.map .fixed ++ [.name]⟩

end Endpoint

def served (m : Method) : Method := if m = .head then .get else m

def Route.endpoints (route : Route) : List (Endpoint × Handler) :=
  route.handlers.map fun (m, h) => (⟨m, route.pattern⟩, h)

def endpoints (policy : TokenPolicy) : List (Endpoint × Handler) :=
  (routes policy).flatMap Route.endpoints

theorem endpoints_nodup (policy : TokenPolicy) : ((endpoints policy).map (·.1)).Nodup := by
  simp [endpoints, Route.endpoints, routes, path, named]

def Server.serving? (s : Server) (r : Request) : Option (Endpoint × Handler × Option (List Char)) :=
  (routeOf s.policy r.target).bind fun (route, name?) =>
    (route.handler? r.method).map fun h => (⟨served r.method, route.pattern⟩, h, name?)

def Server.Reaches (s : Server) (r : Request) (e : Endpoint) (name? : Option (List Char)) : Prop :=
  ∃ h, s.serving? r = some (e, h, name?)

theorem Server.reaches_of_segments {s : Server} {r : Request} {segments : List (List Char)}
    {route : Route} {name? : Option (List Char)} {h : Handler}
    (hs : (Http.Target.ofString r.target).segments? = some segments)
    (hf : findRoute (routes s.policy) segments = some (route, name?))
    (hh : route.handler? r.method = some h) :
    s.Reaches r ⟨served r.method, route.pattern⟩ name? := by
  refine ⟨h, ?_⟩
  simp only [serving?, routeOf, hs, Option.bind_some, hf, hh, Option.map_some]

theorem Server.Reaches.endpoint_unique {s : Server} {r : Request} {e e' : Endpoint}
    {name? name?' : Option (List Char)} (h : s.Reaches r e name?) (h' : s.Reaches r e' name?') :
    e = e' := by
  obtain ⟨_, hs⟩ := h
  obtain ⟨_, hs'⟩ := h'
  exact (Prod.mk.inj (Option.some.inj (hs.symm.trans hs'))).1

theorem findRoute_mem {rs : List Route} {segments : List (List Char)} {route : Route}
    {name? : Option (List Char)} (h : findRoute rs segments = some (route, name?)) :
    route ∈ rs := by
  obtain ⟨x, hx, hfit⟩ := List.exists_of_findSome?_eq_some h
  obtain ⟨n?, -, hn⟩ := Option.map_eq_some_iff.mp hfit
  simp only [Prod.mk.injEq] at hn
  exact hn.1 ▸ hx

theorem routeOf_mem {policy : TokenPolicy} {target : String} {route : Route}
    {name? : Option (List Char)} (h : routeOf policy target = some (route, name?)) :
    route ∈ routes policy := by
  obtain ⟨segments, -, hfind⟩ := Option.bind_eq_some_iff.mp h
  exact findRoute_mem hfind

theorem Route.handler?_mem {route : Route} {m : Method} {h : Handler}
    (hh : route.handler? m = some h) : (⟨served m, route.pattern⟩, h) ∈ route.endpoints := by
  obtain ⟨⟨n, k⟩, hfind, rfl⟩ := Option.map_eq_some_iff.mp hh
  have hn : n = served m := by simpa [served] using List.find?_some hfind
  exact List.mem_map.mpr ⟨(n, k), List.mem_of_find?_eq_some hfind, by rw [hn]⟩

theorem Server.serving?_mem {s : Server} {r : Request} {e : Endpoint} {h : Handler}
    {name? : Option (List Char)} (hs : s.serving? r = some (e, h, name?)) :
    (e, h) ∈ endpoints s.policy := by
  obtain ⟨⟨route, n?⟩, hroute, hmap⟩ := Option.bind_eq_some_iff.mp hs
  obtain ⟨k, hk, hkey⟩ := Option.map_eq_some_iff.mp hmap
  simp only [Prod.mk.injEq] at hkey
  obtain ⟨rfl, rfl, -⟩ := hkey
  exact List.mem_flatMap.mpr ⟨route, routeOf_mem hroute, Route.handler?_mem hk⟩

theorem Server.dispatch_of_serving {s : Server} {r : Request} {e : Endpoint} {h : Handler}
    {name? : Option (List Char)} (hs : s.serving? r = some (e, h, name?)) (c? : Option Caller) :
    s.dispatch r c? = respond h ⟨r, c?, name?⟩ := by
  obtain ⟨⟨route, n?⟩, hroute, hmap⟩ := Option.bind_eq_some_iff.mp hs
  obtain ⟨k, hk, hkey⟩ := Option.map_eq_some_iff.mp hmap
  simp only [Prod.mk.injEq] at hkey
  obtain ⟨-, rfl, rfl⟩ := hkey
  simp only [dispatch, hroute, hk]

theorem Server.dispatch_of_not_serving {s : Server} {r : Request} (hs : s.serving? r = none) :
    ∃ response : Http.Response, ∀ c?, s.dispatch r c? = .done response := by
  cases hroute : routeOf s.policy r.target with
  | none => exact ⟨_, fun c? => by simp only [dispatch, hroute]; rfl⟩
  | some found =>
    obtain ⟨route, name?⟩ := found
    have hk : route.handler? r.method = none := by simpa [serving?, hroute] using hs
    exact ⟨_, fun c? => by simp only [dispatch, hroute, hk]; rfl⟩

theorem Server.Reaches.dispatch_eq {s : Server} {r : Request} {e : Endpoint} {h : Handler}
    {name? : Option (List Char)} (hr : s.Reaches r e name?) (hh : (e, h) ∈ endpoints s.policy)
    (c? : Option Caller) : s.dispatch r c? = respond h ⟨r, c?, name?⟩ := by
  obtain ⟨k, hk⟩ := hr
  have heq : (e, h) = (e, k) :=
    List.inj_on_of_nodup_map (endpoints_nodup s.policy) hh (serving?_mem hk) rfl
  rw [(Prod.mk.inj heq).2]
  exact dispatch_of_serving hk c?

end CityGuide.Api
