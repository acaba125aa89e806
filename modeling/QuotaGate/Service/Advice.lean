/-
What a client is told about its quota.

`advise` puts the three advisory fields on a response; `rejection` is the whole answer
to a request beyond the quota, which also says when to come back.
-/
import QuotaGate.Decision
import QuotaGate.Http.Message
import QuotaGate.Text.Numeral

namespace QuotaGate.Advice

def limitName : HeaderName := ⟨"x-ratelimit-limit"⟩

def remainingName : HeaderName := ⟨"x-ratelimit-remaining"⟩

def resetName : HeaderName := ⟨"x-ratelimit-reset"⟩

def retryName : HeaderName := ⟨"retry-after"⟩

def contentType : HeaderName := ⟨"content-type"⟩

/-- A number as a header value. -/
def value (i : Int) : HeaderValue :=
  .ofAscii (Numeral.ofInt i)

/-- The fields with the status as their only advice. -/
def advise (hs : Headers) (s : Status) : Headers :=
  hs.set limitName (value s.limit)
    |>.set remainingName (value s.remaining)
    |>.set resetName (value s.resetAt)

/-- A response with a body of JSON. -/
def json (status : Nat) (body : String) : Response :=
  { status, body, headers := [(contentType, .ofAscii "application/json")] }

/-- The answer to a request beyond the quota. -/
def rejection (s : Status) : Response :=
  let r := json 429 "\x7b\"code\":\"RATE_LIMIT_EXCEEDED\",\"error\":\"Rate limit exceeded\"\x7d"
  { r with headers := advise (r.headers.set retryName (value s.retryAfter)) s }

/-- A rejection in words. -/
def rejectionMessage : String := "rate limit exceeded"

end QuotaGate.Advice
