import AgentOperator.Duration
import AgentOperator.Path

/-!
AgentOperator.Config — the settings of the operator as a process, read from
its command line and from environment variables.

A setting is given as `--name value` or `--name=value`, at most once; where it
is not given, its environment variable counts, and else its default.
-/

namespace AgentOperator

structure OperatorConfig where
  metricsBindAddress : String := "0.0.0.0:8080"
  /-- The directory with the certificates of each service. -/
  tlsSecretsDir : String := "/etc/cbcontainers/tls"
  requeueSeconds : UInt64 := 300
  /-- Stands in for the version the cluster reports. -/
  kubeletVersion : Option String := none
deriving DecidableEq, Inhabited

/-- Why the settings cannot be read. -/
inductive ArgumentProblem where
  | unknownArgument
  /-- Help was asked for. -/
  | helpRequested
  /-- A value is missing, or empty where it must not be. -/
  | invalidValue
  /-- A value is not of the setting's type. -/
  | unreadableValue
  /-- A setting is given twice. -/
  | repeatedArgument
  /-- A flag without value is given one. -/
  | unneededValue
deriving DecidableEq

/-! ## Settings -/

inductive Setting where
  | metricsBindAddress
  | tlsSecretsDir
  | requeueSeconds
  | kubeletVersion
deriving DecidableEq

namespace Setting

def all : List Setting := [.metricsBindAddress, .tlsSecretsDir, .requeueSeconds, .kubeletVersion]

/-- The name of the setting on the command line, after two dashes. -/
def flag : Setting → String
  | .metricsBindAddress => "metrics-bind-address"
  | .tlsSecretsDir => "tls-secrets-dir"
  | .requeueSeconds => "requeue-seconds"
  | .kubeletVersion => "kubelet-version"

/-- The environment variable of the setting. -/
def environmentName : Setting → String
  | .metricsBindAddress => "METRICS_BIND_ADDRESS"
  | .tlsSecretsDir => "TLS_SECRETS_DIR"
  | .requeueSeconds => "REQUEUE_SECONDS"
  | .kubeletVersion => "KUBELET_VERSION"

def ofFlag? (flag : String) : Option Setting := all.find? (·.flag = flag)

/-- A number of 64 bits in decimal digits, with or without a plus sign. -/
def word64? (text : String) : Option UInt64 :=
  let ds := match text.toList with
    | '+' :: ds => ds
    | ds => ds
  if ds.isEmpty || !ds.all Char.isDigit then none
  else
    let n := Nat.ofDigitChars 10 ds 0
    if n < UInt64.size then some (UInt64.ofNat n) else none

/-- Writes the value of a setting. -/
def write (s : Setting) (value : String) (c : OperatorConfig) :
    Except ArgumentProblem OperatorConfig :=
  match s with
  | .metricsBindAddress => .ok { c with metricsBindAddress := value }
  | .tlsSecretsDir =>
    if value = "" then .error .invalidValue else .ok { c with tlsSecretsDir := value }
  | .requeueSeconds =>
    match word64? value with
    | some n => .ok { c with requeueSeconds := n }
    | none => .error .unreadableValue
  | .kubeletVersion => .ok { c with kubeletVersion := some value }

end Setting

namespace OperatorConfig

/-! ## Command line -/

/-- What a word of the command line is by its looks. -/
inductive Word where
  /-- Only plain words may follow. -/
  | endOfFlags
  | long (name : String) (value : Option String)
  | short (name : Char)
  | plain (text : String)
deriving DecidableEq

def Word.ofString (text : String) : Word :=
  match text.toList with
  | ['-', '-'] => .endOfFlags
  | '-' :: '-' :: cs =>
    match cs.span (· != '=') with
    | (name, '=' :: value) => .long (String.ofList name) (some (String.ofList value))
    | (name, _) => .long (String.ofList name) none
  | '-' :: c :: _ => .short c
  | _ => .plain text

/-- Settings read so far. A flag whose value may still follow, or has followed,
is pending until the next flag. -/
structure Reading where
  config : OperatorConfig := {}
  given : List Setting := []
  pending : Option (Setting × Option String) := none

namespace Reading

/-- Writes the value of a flag, which must not have been given before. -/
def give (s : Setting) (value : String) (r : Reading) : Except ArgumentProblem Reading :=
  if s ∈ r.given then .error .repeatedArgument
  else do
    let config ← s.write value r.config
    return { r with config, given := s :: r.given }

/-- Settles the pending flag, whose value must be there by now. -/
def settle (r : Reading) : Except ArgumentProblem Reading :=
  match r.pending with
  | none => .ok r
  | some (_, none) => .error .invalidValue
  | some (s, some value) => give s value { r with pending := none }

/-- Reads the words of a command line. -/
def words (r : Reading) : List String → Except ArgumentProblem Reading
  | [] => r.settle
  | text :: rest =>
    match Word.ofString text with
    | .endOfFlags => if rest.isEmpty then r.settle else .error .unknownArgument
    | .long name value =>
      match Setting.ofFlag? name, value with
      | some s, none => do
        let r ← r.settle
        words { r with pending := some (s, none) } rest
      | some s, some value => do
        let r ← r.settle
        words (← r.give s value) rest
      | none, none =>
        if name = "help" then r.settle >>= fun _ => .error .helpRequested
        else .error .unknownArgument
      | none, some _ =>
        if name = "help" then .error .unneededValue else .error .unknownArgument
    | .short name =>
      if name = 'h' then r.settle >>= fun _ => .error .helpRequested
      else .error .unknownArgument
    | .plain value =>
      match r.pending with
      | some (s, none) => words { r with pending := some (s, some value) } rest
      | _ => .error .unknownArgument

end Reading

/-! ## Environment -/

/-- Writes the environment's values of settings that were not given. -/
def withEnvironment (environment : String → Option String) (r : Reading) :
    Except ArgumentProblem OperatorConfig :=
  (Setting.all.filter (· ∉ r.given)).foldlM
    (fun config s =>
      match environment s.environmentName with
      | some value => s.write value config
      | none => .ok config)
    r.config

/-- The settings that a command line and an environment give. -/
def parse (arguments : List String) (environment : String → Option String) :
    Except ArgumentProblem OperatorConfig := do
  withEnvironment environment (← Reading.words {} arguments)

/-! ## Use -/

/-- When to look at an agent again. -/
def requeue (c : OperatorConfig) : Duration := .ofSeconds c.requeueSeconds.toNat

/-- Whether two configurations set the same. -/
def same (a b : OperatorConfig) : Bool :=
  decide (a.metricsBindAddress = b.metricsBindAddress) &&
    Path.same a.tlsSecretsDir b.tlsSecretsDir &&
    decide (a.requeueSeconds = b.requeueSeconds) &&
    decide (a.kubeletVersion = b.kubeletVersion)

def isDefault (c : OperatorConfig) : Bool := c.same {}

end OperatorConfig

end AgentOperator
