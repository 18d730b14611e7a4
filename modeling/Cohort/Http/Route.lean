import Cohort.Text.Split

namespace Cohort.Http

inductive Segment where
  | word (w : String)
  | capture

inductive Endpoint where
  | assign (key : String)
  | assignAll
  | convert (key : String)
  | create
  | list
  | getByKey (key : String)
  | get (id : String)
  | update (id : String)
  | start (id : String)
  | pause (id : String)
  | conclude (id : String)
  | archive (id : String)
  | addVariant (id : String)
  | updateVariant (id variant : String)
  | deleteVariant (id variant : String)
  | pin (id : String)
  | statistics (id : String)
deriving DecidableEq, Repr

structure Route where
  method : String
  segments : List Segment
  endpoint : List String → Option Endpoint

def alone (e : Endpoint) : List String → Option Endpoint
  | [] => some e
  | _ => none

def one (f : String → Endpoint) : List String → Option Endpoint
  | [a] => some (f a)
  | _ => none

def two (f : String → String → Endpoint) : List String → Option Endpoint
  | [a, b] => some (f a b)
  | _ => none

open Segment

-- The first route that fits is taken, so the words assign, convert and key stand before the captures that
-- would take them too. The pages on which a framework describes its routes (docs, redoc, openapi.json) are left out.
def routes : List Route := [
  ⟨"POST", [word "experiments", word "assign", capture], one .assign⟩,
  ⟨"POST", [word "experiments", word "assign"], alone .assignAll⟩,
  ⟨"POST", [word "experiments", word "convert", capture], one .convert⟩,
  ⟨"POST", [word "experiments"], alone .create⟩,
  ⟨"GET", [word "experiments"], alone .list⟩,
  ⟨"GET", [word "experiments", word "key", capture], one .getByKey⟩,
  ⟨"GET", [word "experiments", capture], one .get⟩,
  ⟨"PATCH", [word "experiments", capture], one .update⟩,
  ⟨"POST", [word "experiments", capture, word "start"], one .start⟩,
  ⟨"POST", [word "experiments", capture, word "pause"], one .pause⟩,
  ⟨"POST", [word "experiments", capture, word "conclude"], one .conclude⟩,
  ⟨"POST", [word "experiments", capture, word "archive"], one .archive⟩,
  ⟨"POST", [word "experiments", capture, word "variants"], one .addVariant⟩,
  ⟨"PATCH", [word "experiments", capture, word "variants", capture], two .updateVariant⟩,
  ⟨"DELETE", [word "experiments", capture, word "variants", capture], two .deleteVariant⟩,
  ⟨"POST", [word "experiments", capture, word "override"], one .pin⟩,
  ⟨"GET", [word "experiments", capture, word "stats"], one .statistics⟩]

-- What the captures take from the pieces of a path. A capture takes anything but nothing; a word takes itself,
-- and at the end of the path also itself with a line feed behind it.
def capture? : List Segment → List String → Option (List String)
  | [], [] => some []
  | [.word w], [p] => if p = w ∨ p = w ++ "\n" then some [] else none
  | .word w :: segments, p :: ps => if p = w then capture? segments ps else none
  | .capture :: segments, p :: ps =>
    if p = "" then none else (capture? segments ps).map (p :: ·)
  | _, _ => none

def Route.takes (r : Route) (path : String) : Option (List String) :=
  match path.toList with
  | '/' :: rest => capture? r.segments ((Text.splitOn '/' rest).map String.ofList)
  | _ => none

inductive Routing where
  | found (endpoint : Endpoint)
  | wrongMethod
  -- the path would do without the slashes at its end
  | redirected
  | nowhere
deriving DecidableEq, Repr

def known (path : String) : Bool := routes.any fun r => (r.takes path).isSome

def withoutTrailingSlashes (path : String) : String :=
  String.ofList (path.toList.reverse.dropWhile (· = '/')).reverse

def endpoint? (method path : String) : Option Endpoint :=
  routes.findSome? fun r => if r.method = method then (r.takes path).bind r.endpoint else none

def route (method path : String) : Routing :=
  match endpoint? method path with
  | some endpoint => .found endpoint
  | none =>
    if known path then .wrongMethod
    else if known (withoutTrailingSlashes path) then .redirected
    else .nowhere

end Cohort.Http
