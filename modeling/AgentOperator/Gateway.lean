import AgentOperator.Agent.Spec
import AgentOperator.HttpStatus
import AgentOperator.Json.Text
import AgentOperator.Text.Certificate
import AgentOperator.Text.Pem
import AgentOperator.Tls

/-!
AgentOperator.Gateway — the management gateway, which hands out what images are
pulled with.

The request follows from the spec and from the access token, and may be refused
before anything is sent; the credentials follow from what comes back.
-/

namespace AgentOperator.Gateway

/-! ## Requests -/

/-- What is asked, and whom to trust in asking. -/
structure Request where
  url : String
  headers : List (String × String)
  /-- The server's certificate is not looked at. -/
  skipVerify : Bool := false
  /-- Authorities to trust beside the usual ones. -/
  roots : List Bytes := []
deriving DecidableEq

/-- Whether a text may be sent as the value of a header. -/
def isHeaderValue (text : String) : Bool :=
  text.toList.all fun c => (0x20 ≤ c.toNat && c.toNat != 0x7F) || c = '\t'

/-- The authorities in a bundle of certificates. -/
def rootsOf (bundle : String) : Except Error (List Bytes) :=
  let refuse (reason : String) : Except Error (List Bytes) :=
    .error (.invalidArgument ("failed to parse root certificates: " ++ reason))
  match Pem.certificates? bundle with
  | none => refuse "invalid certificate encoding"
  | some roots => if roots.all Certificate.isCertificate then .ok roots else refuse "no certificate"

/-- Where the account's part of the management interface is. -/
def accountUrl (spec : Agent.Spec) : String :=
  let api := spec.gateways.apiGateway
  api.scheme ++ "://" ++ api.host ++ ":" ++ toString api.port.toInt ++ "/" ++ api.adapter ++
    "/v1/orgs/" ++ spec.account

/-- The request for the registry credentials. -/
def Request.forCredentials (spec : Agent.Spec) (accessToken : String) : Except Error Request := do
  let tls := spec.gateways.gatewayTls
  if !isHeaderValue accessToken then
    throw (.invalidArgument "access token is not a valid header value")
  let roots ← rootsOf tls.rootCAsBundle
  return {
    url := accountUrl spec ++ "/management/registry_secret"
    headers := [("content-type", "application/json"), ("x-auth-token", accessToken)]
    skipVerify := tls.insecureSkipVerify
    roots }

/-! ## Replies -/

/-- What the gateway answered. The body may break off. -/
structure Response where
  status : Nat
  body : Except String String

/-- An answer, or why there is none. -/
abbrev Reply := Except String Response

/-- The credentials in the body of an answer. -/
def decodeCredentials (body : String) : Except Error RegistryCredentials :=
  let refuse (reason : String) : Except Error RegistryCredentials :=
    .error (Fault.misencoded ("Failed to parse registry secret JSON: " ++ reason) : Fault)
  match Json.Source.parse? body with
  | none => refuse "no JSON"
  | some s =>
    match RegistryCredentials.codec.read s with
    | .ok credentials => .ok credentials
    | .error cause => refuse cause.message

/-- The credentials in a reply. -/
def Reply.credentials (reply : Reply) : Except Error RegistryCredentials :=
  match reply with
  | .error reason => .error (Fault.http ("Registry secret request failed: " ++ reason) : Fault)
  | .ok response =>
    if HttpStatus.isSuccess response.status then
      match response.body with
      | .ok body => decodeCredentials body
      | .error reason =>
        .error (Fault.http ("Failed to read registry secret response: " ++ reason) : Fault)
    else
      .error (Fault.http ("Api gateway returned " ++ HttpStatus.render response.status ++
        " for the registry secret") : Fault)

end AgentOperator.Gateway
