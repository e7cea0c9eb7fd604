/-
Why an operation on a lab's certificates fails.

* `Error`: one constructor for each cause.
* `Error.kind`: the six kinds that callers branch on.
* `Error.message`: the wording of a cause.
-/
import LabTrust.Failure
import LabTrust.Path
import LabTrust.Text.Quoted

namespace LabTrust

/-- A step of the work with keys and certificates. -/
inductive Stage where
  | keyGeneration
  | requestBuild
  | selfSigning
  | signerConstruction
  | signing
  deriving DecidableEq, Inhabited

/-- The wording of a step. -/
def Stage.name : Stage → String
  | keyGeneration => "key generation"
  | requestBuild => "request build"
  | selfSigning => "self-signing"
  | signerConstruction => "signer construction"
  | signing => "signing"

/-- Why a step of the work with keys and certificates fails. -/
inductive CryptoFault where
  /-- The text holds no usable private key. -/
  | badKey (detail : String)
  /-- A host is neither an address nor a name in ASCII. -/
  | badHost (host : String)
  /-- The text holds no usable authority certificate. -/
  | badAuthority (detail : String)
  /-- The text holds no usable signing request. -/
  | badRequest (detail : String)
  /-- A file of the signer cannot be read. -/
  | unreadable (path : Path) (failure : IoFailure)
  /-- A fault of another kind, in its own words. -/
  | other (report : String)
  deriving DecidableEq, Inhabited

/-- The wording of a fault. -/
def CryptoFault.message : CryptoFault → String
  | badKey detail => "failed to load private key: " ++ detail
  | badHost host => "invalid host: " ++ Text.quote host
  | badAuthority detail => "failed to load CA certificate: " ++ detail
  | badRequest detail => "failed to parse CSR: " ++ detail
  | unreadable path failure => "cannot read " ++ path.text ++ ": " ++ failure.message
  | other report => report

/-- Why an operation fails. -/
inductive Error where
  /-- A validity text has no meaning. -/
  | badExpiry (text : String)
  /-- A validity leads outside the calendar. -/
  | expiryOutOfRange (hours : Int)
  /-- A rendered request cannot be read. -/
  | badDocument (detail : String)
  /-- A template does not follow the template grammar. -/
  | badTemplate (name detail : String)
  /-- A template cannot be filled in. -/
  | unfilledTemplate (name detail : String)
  /-- A default of a node's environment cannot be filled in. -/
  | badDefault (name detail : String)
  /-- The command of a node cannot be filled in. -/
  | badCommand (kind detail : String)
  /-- No key of this algorithm and size is made. -/
  | unsupportedKey (algorithm : String) (size : Nat)
  /-- A request has neither a common name nor a names block. -/
  | missingSubject
  /-- A names block holds an entry without content. -/
  | emptyName
  /-- A request without hosts, where hosts are asked for. -/
  | noHosts (commonName : String)
  /-- The identity to certify has no name. -/
  | namelessInput
  /-- A node name that is not one plain file name. -/
  | badNodeName (name : String)
  /-- The text holds no PEM block. -/
  | badPem (detail : String)
  /-- The PEM block holds something other than a certificate. -/
  | notCertificate (label : String)
  /-- The PEM block does not hold a readable certificate. -/
  | badCertificate (detail : String)
  /-- The alternative names of a certificate cannot be read. -/
  | badAlternativeNames (detail : String)
  /-- A time of a certificate lies outside the calendar. -/
  | timeOutOfRange (seconds : Int)
  /-- The issuer of a certificate is not the subject of the authority. -/
  | issuerMismatch (issuer subject : String)
  /-- The signature of a certificate is not the authority's. -/
  | badSignature (detail : String)
  /-- A step of the work with keys and certificates fails. -/
  | crypto (stage : Stage) (fault : CryptoFault)
  /-- The directory of a node does not exist. -/
  | noNodeDirectory (path : Path)
  /-- The directory of a node is not a directory. -/
  | nodeDirectoryIsFile (path : Path)
  /-- A stored file does not exist. -/
  | noFile (path : Path)
  /-- No node kind has this name. -/
  | unknownKind (kind : String)
  /-- The file system refuses. -/
  | io (path : Path) (failure : IoFailure)
  /-- The settings cannot be read. -/
  | badSettings (detail : String)
  /-- A validity of the settings has no meaning. -/
  | badSettingsExpiry (field text : String)
  deriving DecidableEq, Inhabited

/-- The kinds of failure that callers tell apart. -/
inductive ErrorKind where
  | template
  | invalidRequest
  | crypto
  | notFound
  | io
  | configuration
  deriving DecidableEq, Inhabited

namespace Error

/-- The kind of a failure. -/
def kind : Error → ErrorKind
  | badExpiry _ | expiryOutOfRange _ | badDocument _ | badTemplate _ _ | unfilledTemplate _ _
  | badDefault _ _ | badCommand _ _ => .template
  | unsupportedKey _ _ | missingSubject | emptyName | noHosts _ | namelessInput | badNodeName _
  | badPem _ | notCertificate _ | badCertificate _ | badAlternativeNames _ | timeOutOfRange _
  | issuerMismatch _ _ | badSignature _ => .invalidRequest
  | crypto _ _ => .crypto
  | noNodeDirectory _ | nodeDirectoryIsFile _ | noFile _ | unknownKind _ => .notFound
  | io _ _ => .io
  | badSettings _ | badSettingsExpiry _ _ => .configuration

/-- The wording of a cause, without its kind. -/
def reason : Error → String
  | badExpiry text => "invalid expiry " ++ Text.quote text
  | expiryOutOfRange hours => "invalid expiry " ++ toString hours ++ "h: out of range"
  | badDocument detail => "rendered request is not valid JSON: " ++ detail
  | badTemplate name detail => "failed to parse " ++ name ++ " template: " ++ detail
  | unfilledTemplate name detail => "failed to render " ++ name ++ " template: " ++ detail
  | badDefault name detail => "default env " ++ name ++ ": " ++ detail
  | badCommand kind detail => kind ++ " command: " ++ detail
  | unsupportedKey algorithm size => "unsupported key: " ++ algorithm ++ " " ++ toString size
  | missingSubject => "missing subject information"
  | emptyName => "empty name"
  | noHosts commonName => "request for " ++ commonName ++ " has no hosts"
  | namelessInput => "certificate input has no name"
  | badNodeName name => "invalid node name " ++ Text.quote name
  | badPem detail => "failed to parse PEM: " ++ detail
  | notCertificate label => "expected CERTIFICATE, found " ++ label
  | badCertificate detail => "failed to parse certificate: " ++ detail
  | badAlternativeNames detail => "malformed subject alternative names: " ++ detail
  | timeOutOfRange seconds => "certificate time " ++ toString seconds ++ " is out of range"
  | issuerMismatch issuer subject =>
    "issuer " ++ issuer ++ " does not match CA subject " ++ subject
  | badSignature detail => "signature check failed: " ++ detail
  | crypto _ fault => fault.message
  | noNodeDirectory path => "certificate directory " ++ path.text
  | nodeDirectoryIsFile path => "certificate directory " ++ path.text ++ " is not a directory"
  | noFile path => path.text
  | unknownKind kind => "node kind " ++ kind
  | io _ failure => failure.message
  | badSettings detail => "TOML parse error: " ++ detail
  | badSettingsExpiry field text =>
    field ++ ": template error: invalid expiry " ++ Text.quote text

/-- The wording of a failure. -/
def message (e : Error) : String :=
  match e with
  | crypto stage fault => stage.name ++ " failed: " ++ fault.message
  | io path failure => "io error on " ++ path.text ++ ": " ++ failure.message
  | e =>
    match e.kind with
    | .template => "template error: " ++ e.reason
    | .invalidRequest => "invalid certificate request: " ++ e.reason
    | .notFound => "not found: " ++ e.reason
    | .configuration => "configuration error: " ++ e.reason
    | .crypto | .io => e.reason

end Error

end LabTrust
