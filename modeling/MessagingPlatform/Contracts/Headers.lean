import Mathlib.Data.List.Induction
import MessagingPlatform.Lib.Js

/-! AMQP headers, trace propagation and the messages that the services hand to a channel. -/
namespace MessagingPlatform

/-- A header value as the client library decodes it. `buffer` holds what `toString()` gives;
`json` stands for the nested tables, arrays and booleans of AMQP. -/
inductive HeaderValue where
  | str (value : String)
  | num (value : JsNumber)
  | buffer (text : String)
  | json (value : Json)

abbrev Headers := List (String × HeaderValue)

abbrev TraceCarrier := List (String × String)

namespace Headers

def set : Headers → String → HeaderValue → Headers
  | [], name, value => [(name,value)]
  | (other,old) :: rest, name, value =>
      if other = name then (name,value) :: rest else (other,old) :: set rest name value

/-- `{ ...headers, ...more }`. -/
def spread (headers more : Headers) : Headers :=
  more.foldl (fun merged entry => merged.set entry.1 entry.2) headers

theorem lookup_set {headers : Headers} {name other : String} (differs : other ≠ name)
    (value : HeaderValue) : (headers.set name value).lookup other = headers.lookup other := by
  induction headers with
  | nil => simp [set,List.lookup_cons,beq_false_of_ne differs]
  | cons entry rest ih =>
    obtain ⟨key,old⟩ := entry
    by_cases same : key = name
    · subst same
      simp [set,List.lookup_cons,beq_false_of_ne differs]
    · simp only [set,if_neg same,List.lookup_cons]
      rw [ih]

theorem lookup_set_self (headers : Headers) (name : String) (value : HeaderValue) :
    (headers.set name value).lookup name = some value := by
  induction headers with
  | nil => simp [set]
  | cons entry rest ih =>
    obtain ⟨key,old⟩ := entry
    by_cases same : key = name
    · simp [set,same]
    · simp only [set,if_neg same,List.lookup_cons,beq_false_of_ne (Ne.symm same)]
      exact ih

/-- The last entry for a name wins, and the headers keep what no entry names. -/
theorem lookup_spread_or (headers more : Headers) (name : String) :
    (headers.spread more).lookup name = (more.reverse.lookup name).or (headers.lookup name) := by
  induction more using List.reverseRecOn with
  | nil => rfl
  | append_singleton earlier entry ih =>
    have last : headers.spread (earlier ++ [entry]) = (headers.spread earlier).set entry.1 entry.2 := by
      simp [spread]
    rw [last,List.reverse_append,List.reverse_singleton,List.singleton_append,List.lookup_cons]
    by_cases same : name = entry.1
    · subst same
      simp [lookup_set_self]
    · rw [lookup_set same,ih,beq_false_of_ne same]

theorem lookup_spread {headers more : Headers} {name : String} (absent : name ∉ more.map Prod.fst) :
    (headers.spread more).lookup name = headers.lookup name := by
  induction more generalizing headers with
  | nil => rfl
  | cons entry rest ih =>
    rw [List.map_cons,List.mem_cons,not_or] at absent
    exact (ih absent.2).trans (lookup_set absent.1 entry.2)

end Headers

def injectTraceContext (headers : Headers) (carrier : TraceCarrier) : Headers :=
  headers.spread (carrier.map (fun entry => (entry.1,.str entry.2)))

structure Publication where
  exchange : String
  routingKey : String
  body : Body
  headers : Headers
  persistent : Bool := true
  contentType : Option String := some "application/json"
  expiration : Option String := none

end MessagingPlatform
