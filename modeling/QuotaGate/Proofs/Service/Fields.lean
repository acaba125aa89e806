/-
The fields of an answer.

`Advice.advise` gives each of its three names one value and leaves every other name as
it was; `Service.complete` touches only the length and the methods that are allowed.  So
what an answer says under a name can be told from the answer before either.
-/
import QuotaGate.Service.App

namespace QuotaGate

namespace Headers

/-- Setting a field keeps two lists of fields alike under a name. -/
theorem all_set_congr {hs hs' : Headers} {m : HeaderName} (h : hs.all m = hs'.all m) (n : HeaderName) (v : HeaderValue) :
    (hs.set n v).all m = (hs'.set n v).all m := by
  by_cases hm : m = n
  · subst hm
    rw [all_set_self, all_set_self]
  · rw [all_set_of_ne _ _ hm, all_set_of_ne _ _ hm, h]

end Headers

namespace Advice

open Headers

/-- The names under which `advise` speaks. -/
def names : List HeaderName :=
  [limitName, remainingName, resetName]

variable (hs : Headers) (s : Status)

@[simp] theorem all_advise_limit : (advise hs s).all limitName = [value s.limit] := by
  rw [advise, all_set_of_ne _ _ (by decide), all_set_of_ne _ _ (by decide), all_set_self]

@[simp] theorem all_advise_remaining : (advise hs s).all remainingName = [value s.remaining] := by
  rw [advise, all_set_of_ne _ _ (by decide), all_set_self]

@[simp] theorem all_advise_reset : (advise hs s).all resetName = [value s.resetAt] := by
  rw [advise, all_set_self]

theorem all_advise_of_notMem {n : HeaderName} (hn : n ∉ names) : (advise hs s).all n = hs.all n := by
  simp only [names, List.mem_cons, List.not_mem_nil, or_false, not_or] at hn
  rw [advise, all_set_of_ne _ _ hn.2.2, all_set_of_ne _ _ hn.2.1, all_set_of_ne _ _ hn.1]

/-- Under each of its names `advise` says something. -/
theorem all_advise_ne_nil {n : HeaderName} (hn : n ∈ names) : (advise hs s).all n ≠ [] := by
  simp only [names, List.mem_cons, List.not_mem_nil, or_false] at hn
  rcases hn with rfl | rfl | rfl <;> simp

theorem all_rejection_retry : (rejection s).headers.all retryName = [value s.retryAfter] := by
  rw [rejection, all_advise_of_notMem _ _ (by decide), all_set_self]

theorem all_rejection_contentType : (rejection s).headers.all contentType = [.ofAscii "application/json"] := by
  rw [rejection, all_advise_of_notMem _ _ (by decide), all_set_of_ne _ _ (by decide)]
  rfl

end Advice

namespace Service

open Headers

variable {method : String} {r r' : Response}

theorem all_complete {n : HeaderName} (ha : n ≠ Response.allow) (hl : n ≠ Response.contentLength) :
    (complete method r).headers.all n = r.headers.all n := by
  simp only [complete]
  rw [all_set_of_ne _ _ hl]
  split
  · rfl
  · exact all_set_of_ne _ _ ha

theorem all_complete_of_mem_names {n : HeaderName} (hn : n ∈ Advice.names) :
    (complete method r).headers.all n = r.headers.all n := by
  have hne : n ≠ Response.allow ∧ n ≠ Response.contentLength := by
    revert n
    decide
  exact all_complete hne.1 hne.2

/-- Two answers with the same body that are alike under a name are so when they are
completed. -/
theorem all_complete_congr (hb : r.body = r'.body) {n : HeaderName} (hn : r.headers.all n = r'.headers.all n) :
    (complete method r).headers.all n = (complete method r').headers.all n := by
  simp only [complete, hb]
  refine all_set_congr ?_ _ _
  split
  · exact hn
  · exact all_set_congr hn _ _

@[simp] theorem status_complete : (complete method r).status = r.status := rfl

end Service

end QuotaGate
