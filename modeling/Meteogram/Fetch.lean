import Meteogram.Dataset
import Meteogram.Fetch.Address
import Meteogram.Fetch.Status

/-!
# Fetching datasets

A dataset is fetched by one request. The exchange is a function from addresses to replies, so what a
fetch answers is a function of what the server says.
-/

namespace Meteogram

/-- What comes back for a request. -/
inductive Reply where
  /-- No answer, or one that breaks off. -/
  | unreachable
  | answer (status : Nat) (body : String)
deriving DecidableEq, Repr

/-- The replies of a network to the addresses that are asked for. -/
abbrev Exchange := String → Reply

inductive FetchError where
  | networkRequest (url : String)
  | httpStatus (url : String) (status : Nat)
  | decode (url : String) (cause : Json.Error)
  | noBaseUrl (path : String)
deriving DecidableEq, Repr

def FetchError.message : FetchError → String
  | networkRequest url => "Network request failed for " ++ url
  | httpStatus url status => "HTTP request failed for " ++ url ++ " with status " ++ Status.text status
  | decode url _ => "Response from " ++ url ++ " is not a valid dataset"
  | noBaseUrl path => "No base URL configured, cannot resolve '" ++ path ++ "'"

/-- Fetches from addresses and from paths below a base. -/
structure Fetcher where
  baseUrl : Option String
deriving DecidableEq, Repr, Inhabited

namespace Fetcher

/-- The address of a path. -/
def resolve (f : Fetcher) (path : String) : Except FetchError String :=
  match f.baseUrl with
  | some base => .ok (Address.join base path)
  | none => .error (.noBaseUrl path)

/-- The dataset in the reply to a request. -/
def ofReply (url : String) : Reply → Except FetchError Dataset
  | .unreachable => .error (.networkRequest url)
  | .answer status body =>
    if Status.isFailure status then .error (.httpStatus url status)
    else
      match Dataset.ofJson body with
      | .ok d => .ok d
      | .error e => .error (.decode url e)

/-- The dataset at an address. -/
def fetch (exchange : Exchange) (url : String) : Except FetchError Dataset :=
  ofReply url (exchange url)

/-- The dataset at a path below the base. -/
def fetchPath (f : Fetcher) (exchange : Exchange) (path : String) : Except FetchError Dataset := do
  fetch exchange (← f.resolve path)

/-- The dataset at an address, or at a path below the base. -/
def fetchAny (f : Fetcher) (exchange : Exchange) (url : String) : Except FetchError Dataset :=
  if Address.isAbsolute url then fetch exchange url else f.fetchPath exchange url

end Fetcher

end Meteogram
