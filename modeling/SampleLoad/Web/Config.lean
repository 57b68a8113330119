import SampleLoad.Store.Basic
import SampleLoad.Text.Quoted
import SampleLoad.Time.Duration
import SampleLoad.Url.Basic

/-!
Where the web API is and how to log in. The settings are shown with the password hidden, also one inside
the URL.
-/

namespace SampleLoad

/-- Settings of a connection. -/
structure WebApiConfig where
  url : String := "http://localhost:8080"
  cluster : String := "myCluster"
  database : String := "public"
  user : String := "admin"
  password : String := "admin"
  timeout : Duration := ⟨30, 0⟩
  deriving DecidableEq

/-- The URL with its password hidden. A text without a password, or that is no URL, stays as it is. -/
def maskPassword (url : String) : String :=
  match Url.parse url with
  | .ok u => if u.password?.isSome then (u.withPassword "***").text else url
  | .error _ => url

namespace WebApiConfig

/-- The settings in one line for people. -/
def describe (c : WebApiConfig) : String :=
  maskPassword c.url ++ " (cluster: " ++ c.cluster ++ ", database: " ++ c.database ++ ", user: " ++ c.user ++
    ", password: ***)"

/-- The settings field by field. -/
def fieldText (c : WebApiConfig) : String :=
  "WebApiConfig \x7b url: " ++ Quoted.text c.url ++ ", cluster: " ++ Quoted.text c.cluster ++
    ", database: " ++ Quoted.text c.database ++ ", user: " ++ Quoted.text c.user ++
    ", password: \"****\", timeout: " ++ c.timeout.text ++ " \x7d"

/-- The URL of an endpoint below the database. Every segment is encoded by itself. -/
def endpoint (c : WebApiConfig) (segments : List String) : Except StoreError Url :=
  match Url.parse c.url with
  | .error e => .error (.connection ("Invalid URL '" ++ c.url ++ "': " ++ e.message))
  | .ok u =>
    match u.extend? (["griddb", "v2", c.cluster, "dbs", c.database] ++ segments) with
    | none => .error (.connection ("URL '" ++ c.url ++ "' cannot be a base"))
    | some u => .ok u

end WebApiConfig

end SampleLoad
