import AgentOperator.Codec.Described
import AgentOperator.Error

/-!
AgentOperator.Tls — certificates of services and credentials of registries, as
they are kept in secrets.
-/

namespace AgentOperator

/-- The certificate of a service with its key, and the authority that signed
it with its key. -/
structure TlsMaterial where
  caCert : Bytes := []
  caKey : Bytes := []
  signedCert : Bytes := []
  key : Bytes := []
deriving DecidableEq, Inhabited

namespace TlsMaterial

def caCertKey : String := "ca.crt"

def caKeyKey : String := "ca.key"

def signedCertKey : String := "signed_cert"

def keyKey : String := "key"

/-- The material as the data of a secret. -/
def toSecretData (m : TlsMaterial) : Dict Bytes :=
  .ofList
    [(caCertKey, m.caCert), (caKeyKey, m.caKey), (signedCertKey, m.signedCert), (keyKey, m.key)]

/-- One entry of a secret's data, which has to be there. -/
def entry (data : Dict Bytes) (key : String) : Except Error Bytes :=
  match data.get? key with
  | some b => .ok b
  | none => .error (.preconditionMissing ("tls secret is missing the " ++ key ++ " key"))

/-- Reads the material back from the data of a secret. -/
def ofSecretData (data : Dict Bytes) : Except Error TlsMaterial := do
  return {
    caCert := ← entry data caCertKey
    caKey := ← entry data caKeyKey
    signedCert := ← entry data signedCertKey
    key := ← entry data keyKey }

end TlsMaterial

/-- What images are pulled with: the type and the data of a secret. -/
structure RegistryCredentials where
  type : String := ""
  data : Dict Bytes := ∅
deriving DecidableEq, Inhabited

def RegistryCredentials.codec : Codec RegistryCredentials := Record.positionalCodec <|
  RegistryCredentials.mk <$> .mandatory "type" (·.type) .string
    <*> .defaulted "data" (·.data) (.dict .bytes) ∅

end AgentOperator
