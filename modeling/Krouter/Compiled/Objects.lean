import Krouter.Lib.GoMap

/-! The generated objects of the system namespace: their names, labels, data keys and content
addresses. `sum256` is SHA-256 in hexadecimal; byte strings are `String`s. -/

namespace Krouter.Compiled

def dataKey : String := "config.json"
def manifestKey : String := "manifest.json"

def labelManagedBy : String := "app.kubernetes.io/managed-by"
def managedByValue : String := "krouter"
def labelGatewayUID : String := "krouter.link-society.com/gateway-uid"
def labelSourceUID : String := "krouter.link-society.com/source-uid"
def labelGeneration : String := "krouter.link-society.com/generation"
def labelRole : String := "krouter.link-society.com/role"

def roleManifest : String := "manifest"
def roleGatewayCfg : String := "gateway-config"
def roleAttachment : String := "attachment"
def roleTLS : String := "tls"

def portMapAnnotation : String := "krouter.link-society.com/port-map"

def objectKindConfigMap : String := "ConfigMap"
def objectKindSecret : String := "Secret"

def backendClientCertKey : String := "_backend-client.tls.crt"
def backendClientKeyKey : String := "_backend-client.tls.key"

def authSecretKey (identity : String) : String := "auth-" ++ identity ++ ".json"

def manifestName (gatewayUID : String) : String := "krouter-manifest-" ++ gatewayUID

def gatewayConfigName (gatewayUID generation : String) : String :=
  "krouter-gwcfg-" ++ gatewayUID ++ "-" ++ generation

def attachmentName (gatewayUID routeUID generation : String) : String :=
  "krouter-att-" ++ gatewayUID ++ "-" ++ routeUID ++ "-" ++ generation

def tlsSecretName (gatewayUID generation : String) : String :=
  "krouter-tls-" ++ gatewayUID ++ "-" ++ generation

abbrev Labels := GoMap String String

def baseLabels (gatewayUID : String) : Labels :=
  ((∅ : Labels).insert labelManagedBy managedByValue).insert labelGatewayUID gatewayUID

def objectLabels (gatewayUID generation role : String) : Labels :=
  ((baseLabels gatewayUID).insert labelGeneration generation).insert labelRole role

structure ConfigMap where
  name : String
  labels : Labels
  data : GoMap String String
  deriving DecidableEq

structure Secret where
  name : String
  labels : Labels
  data : GoMap String String
  deriving DecidableEq

structure BackendPort where
  name : String
  port : Int32
  appProtocol : Option String
  deriving DecidableEq

structure BackendService where
  ports : List BackendPort
  deriving DecidableEq

variable (sum256 : String → String)

def checksumBytes (data : String) : String := sum256 data

/-- What `ChecksumSecret` hashes: the entries in the order of their keys. -/
def secretText (data : GoMap String String) : String :=
  String.join (data.toList.map fun entry => entry.1 ++ "=" ++ sum256 entry.2 ++ "\n")

def checksumSecret (data : GoMap String String) : String := sum256 (secretText sum256 data)

/-- What `GenerationID` hashes: the attachments in the order of their route UIDs. -/
def generationText (gatewayPayload : String) (attachments : GoMap String String)
    (secretChecksum : String) : String :=
  gatewayPayload ++
    String.join (attachments.toList.map fun entry => "\x00" ++ entry.1 ++ "\x00" ++ entry.2) ++
    "\x00" ++ secretChecksum

def generationID (gatewayPayload : String) (attachments : GoMap String String)
    (secretChecksum : String) : String :=
  String.ofList ((sum256 (generationText gatewayPayload attachments secretChecksum)).toList.take 12)

end Krouter.Compiled
