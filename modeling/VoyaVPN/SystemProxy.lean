import VoyaVPN.AppConfig
import VoyaVPN.IpAddr
import VoyaVPN.PlatformProcess

/-! How a request to change the system proxy is planned: the checks of its ports and exceptions,
the action for each platform and mode, and the commands and scripts that carry it out. -/
namespace SystemProxy

open RustText Entities AppConfig PlatformProcess

def loopback : String := "127.0.0.1"
def localExceptions : String := "<local>"
def windowsInternetSettingsRegPath : String :=
  "HKCU\\Software\\Microsoft\\Windows\\CurrentVersion\\Internet Settings"
def linuxProxyScriptName : String := "proxy_set_linux.sh"
def macosProxyScriptName : String := "proxy_set_osx.sh"

structure SystemProxyRequest where
  targetOs : TargetOs
  item : SystemProxyItem
  forceDisable : Bool
  socksPort : Int
  pacPort : Int
  configDir : String
  scriptDir : String
  pacUrlNonce : String
  deriving DecidableEq, Repr

structure SystemProxyStatus where
  requestedType : SysProxyType
  effectiveType : SysProxyType
  targetOs : TargetOs
  pacAvailable : Bool
  proxy : Option String
  exceptions : String
  pacUrl : Option String
  deriving DecidableEq, Repr

inductive WindowsProxyOption where
  | direct
  | namedProxy
  | pacUrl
  deriving DecidableEq, Repr

structure WindowsProxySettings where
  proxy : String
  exceptions : String
  optionType : WindowsProxyOption
  deriving DecidableEq, Repr

/-- The scripts the application writes itself, `LINUX_PROXY_SCRIPT` and `MACOS_PROXY_SCRIPT`. -/
inductive ProxyScript where
  | linux
  | macos
  deriving DecidableEq, Repr

/-- `generatedScript` stands for the text written to `executable` before it is run. -/
structure ScriptInvocation where
  executable : String
  arguments : List String
  generatedScript : Option ProxyScript
  deriving DecidableEq, Repr

inductive SystemProxyAction where
  | noop
  | windowsSetProxy (settings : WindowsProxySettings)
  | windowsClear
  | windowsSetPac (pacUrl : String)
  | linuxSet (script : ScriptInvocation) (host : String) (port : Int) (exceptions : String)
  | linuxClear (script : ScriptInvocation)
  | macosSet (script : ScriptInvocation) (host : String) (port : Int) (exceptions : String)
  | macosClear (script : ScriptInvocation)
  | macosSetPac (script : ScriptInvocation)
  | unsupportedPac
  deriving DecidableEq, Repr

structure SystemProxyPlan where
  action : SystemProxyAction
  status : SystemProxyStatus
  deriving DecidableEq, Repr

inductive SystemProxyError where
  | invalidPort (port : Int)
  | unsupportedPlatform (targetOs : TargetOs)
  | invalidProxyException (value reason : String)
  | pacUnsupported (targetOs : TargetOs)
  | process (error : ProcessError)
  | commandFailed (context : String) (statusCode : Option Int) (stderr : String)
  | pacListen (port : Int) (source : String)
  | pacSetNonblocking (source : String)
  | pacRead (path source : String)
  | pacWrite (path source : String)
  | lockPoisoned (lock : String)
  deriving DecidableEq, Repr

def pacAvailable : TargetOs → Bool
  | .windows | .macos => true
  | .linux | .other => false

section Exceptions

def asciiAlphanumeric (c : Char) : Bool :=
  ('a' ≤ c && c ≤ 'z') || ('A' ≤ c && c ≤ 'Z') || ('0' ≤ c && c ≤ '9')

/-- Bytes that `u8::is_ascii_whitespace` accepts. -/
def asciiWhitespace (c : Char) : Bool :=
  [0x20, 0x09, 0x0A, 0x0C, 0x0D].contains c.toNat

def containsForbiddenProxyExceptionChar (value : String) : Bool :=
  containsChar value fun c =>
    ("'\"`$\\;|&()[]<>!*?~".toList ++ [Char.ofNat 0x7B, Char.ofNat 0x7D]).contains c ||
      asciiWhitespace c || decide (0x80 ≤ c.toNat)

def isValidHostnameLabel (label : String) : Bool :=
  match label.toList with
  | [] => false
  | first :: rest =>
    decide (label.utf8ByteSize ≤ 63) && asciiAlphanumeric first &&
      rest.all (fun c => asciiAlphanumeric c || c == '-') &&
      asciiAlphanumeric (rest.getLast?.getD first)

def stripTrailingDot (value : String) : String :=
  if endsWith value "." then String.ofList value.toList.dropLast else value

def isValidHostname (value : String) : Bool :=
  let hostname := stripTrailingDot value
  if isEmpty hostname || decide (253 < hostname.utf8ByteSize) then false
  else (split hostname (· == '.')).all isValidHostnameLabel

def maxPrefix : IpAddr.Addr → Nat
  | .v4 _ => 32
  | .v6 _ => 128

def validateCidrException (value : String) : Except SystemProxyError Unit :=
  match splitOnce value '/' with
  | none => .error (.invalidProxyException value "expected a CIDR range")
  | some (ip, length) =>
    if isEmpty length || !length.toList.all (fun c => '0' ≤ c && c ≤ '9') then
      .error (.invalidProxyException value "expected a numeric CIDR prefix length")
    else
      match IpAddr.parse ip with
      | none => .error (.invalidProxyException value "expected a CIDR IP address")
      | some address =>
        match parseU8 length with
        | none => .error (.invalidProxyException value "CIDR prefix length is out of range")
        | some length =>
          if maxPrefix address < length then
            .error (.invalidProxyException value "CIDR prefix length is out of range")
          else .ok ()

def validateProxyException (value : String) : Except SystemProxyError Unit :=
  if isEmpty value then .error (.invalidProxyException value "empty exception entry")
  else if containsForbiddenProxyExceptionChar value then
    .error (.invalidProxyException value "contains forbidden shell or gsettings metacharacters")
  else if containsChar value (· == '/') then validateCidrException value
  else if (IpAddr.parse value).isSome || isValidHostname value then .ok ()
  else
    .error (.invalidProxyException value "expected a hostname, IP address, or CIDR range")

def validatedProxyExceptions (input : String) : Except SystemProxyError (List String) :=
  let trimmed := trim input
  if isEmpty trimmed then .ok []
  else
    (split trimmed (· == ',')).mapM fun raw =>
      (validateProxyException (trim raw)).map fun _ => trim raw

def exceptionsToCsv (entries : List String) : String := ",".intercalate entries

def windowsExceptions (item : SystemProxyItem) (exceptionEntries : List String) : String :=
  let exceptions := ";".intercalate exceptionEntries
  if item.notProxyLocalAddress && isEmpty exceptions then localExceptions
  else if item.notProxyLocalAddress then localExceptions ++ ";" ++ exceptions
  else exceptions

end Exceptions

def buildWindowsProxySettingsWithExceptions (item : SystemProxyItem) (port : Int)
    (exceptionEntries : List String) : WindowsProxySettings :=
  { proxy :=
      if isEmpty (trim item.systemProxyAdvancedProtocol) then loopback ++ ":" ++ toString port
      else
        replace
          (replace (replace item.systemProxyAdvancedProtocol "\x7bip\x7d" loopback)
            "\x7bhttp_port\x7d" (toString port))
          "\x7bsocks_port\x7d" (toString port)
    exceptions := windowsExceptions item exceptionEntries
    optionType := .namedProxy }

def effectiveType (proxyType : SysProxyType) (forceDisable : Bool) : SysProxyType :=
  if forceDisable && proxyType != .unchanged then .forcedClear else proxyType

section Scripts

-- the files that exist when a request is planned
variable (installed : String → Bool)

def customScriptPath (item : SystemProxyItem) : Option String :=
  (item.customSystemProxyScriptPath.filter fun path => !isEmpty (trim path)).filter installed

def scriptTarget (request : SystemProxyRequest) (name : String) (script : ProxyScript) :
    String × Option ProxyScript :=
  match customScriptPath installed request.item with
  | some path => (path, none)
  | none => (request.scriptDir ++ "/" ++ name, some script)

def linuxScriptInvocation (request : SystemProxyRequest) (mode : String)
    (manual : Option (String × Int × String)) : ScriptInvocation :=
  let target := scriptTarget installed request linuxProxyScriptName .linux
  { executable := target.1
    arguments := mode :: (match manual with
      | some (host, port, exceptions) => [host, toString port, exceptions]
      | none => [])
    generatedScript := target.2 }

def macosScriptInvocation (request : SystemProxyRequest) (mode : String)
    (manual : Option (String × Int × String)) : ScriptInvocation :=
  let target := scriptTarget installed request macosProxyScriptName .macos
  { executable := target.1
    arguments := mode :: (match manual with
      | some (host, port, exceptions) =>
        host :: toString port ::
          ((split exceptions (· == ',')).map trim).filter (!isEmpty ·)
      | none => [])
    generatedScript := target.2 }

def macosPacScriptInvocation (request : SystemProxyRequest) (pacUrl : String) :
    ScriptInvocation :=
  let target := scriptTarget installed request macosProxyScriptName .macos
  { executable := target.1
    arguments := ["pac", pacUrl]
    generatedScript := target.2 }

def pacUrl (request : SystemProxyRequest) : String :=
  "http://" ++ loopback ++ ":" ++ toString request.pacPort ++ "/pac?t=" ++ request.pacUrlNonce

def SystemProxyStatus.fromRequestWithExceptions (request : SystemProxyRequest)
    (effectiveType : SysProxyType) (exceptions : String) : SystemProxyStatus :=
  { requestedType := request.item.sysProxyType
    effectiveType
    targetOs := request.targetOs
    pacAvailable := SystemProxy.pacAvailable request.targetOs
    proxy := none
    exceptions
    pacUrl := none }

def planSystemProxy (request : SystemProxyRequest) : Except SystemProxyError SystemProxyPlan :=
  if request.socksPort ≤ 0 then .error (.invalidPort request.socksPort)
  else if request.pacPort ≤ 0 then .error (.invalidPort request.pacPort)
  else
    (validatedProxyExceptions request.item.systemProxyExceptions).bind fun exceptionEntries =>
      let exceptions := exceptionsToCsv exceptionEntries
      let effective := effectiveType request.item.sysProxyType request.forceDisable
      let status := SystemProxyStatus.fromRequestWithExceptions request effective exceptions
      let manual := some (loopback, request.socksPort, exceptions)
      match effective, request.targetOs with
      | .forcedChange, .windows =>
        let settings := buildWindowsProxySettingsWithExceptions request.item request.socksPort
          exceptionEntries
        .ok ⟨.windowsSetProxy settings,
          { status with proxy := some settings.proxy, exceptions := settings.exceptions }⟩
      | .forcedChange, .linux =>
        .ok ⟨.linuxSet (linuxScriptInvocation installed request "manual" manual) loopback
          request.socksPort exceptions, status⟩
      | .forcedChange, .macos =>
        .ok ⟨.macosSet (macosScriptInvocation installed request "set" manual) loopback
          request.socksPort exceptions, status⟩
      | .forcedChange, .other => .error (.unsupportedPlatform .other)
      | .forcedClear, .windows => .ok ⟨.windowsClear, status⟩
      | .forcedClear, .linux =>
        .ok ⟨.linuxClear (linuxScriptInvocation installed request "none" none), status⟩
      | .forcedClear, .macos =>
        .ok ⟨.macosClear (macosScriptInvocation installed request "clear" none), status⟩
      | .forcedClear, .other => .error (.unsupportedPlatform .other)
      | .unchanged, _ => .ok ⟨.noop, status⟩
      | .pac, .windows =>
        let url := pacUrl request
        .ok ⟨.windowsSetPac url,
          { status with proxy := some url, pacUrl := some url, exceptions := "" }⟩
      | .pac, .macos =>
        let url := pacUrl request
        .ok ⟨.macosSetPac (macosPacScriptInvocation installed request url),
          { status with proxy := some url, pacUrl := some url, exceptions := "" }⟩
      | .pac, .other => .error (.unsupportedPlatform .other)
      | .pac, .linux => .ok ⟨.unsupportedPac, { status with effectiveType := .unchanged }⟩

end Scripts

section Commands

/-- A `ProcessSpawn` of the role `sysProxy`. -/
structure ProxySpawn where
  executable : String
  arguments : List String
  generatedScript : Option ProxyScript
  deriving DecidableEq, Repr

def scriptSpawn (script : ScriptInvocation) : ProxySpawn :=
  { executable := script.executable
    arguments := script.arguments
    generatedScript := script.generatedScript }

def registrySet (name valueType value : String) : ProxySpawn :=
  { executable := "reg"
    arguments := ["add", windowsInternetSettingsRegPath, "/v", name, "/t", valueType, "/d", value,
      "/f"]
    generatedScript := none }

def registrySetDword (name : String) (value : Nat) : ProxySpawn :=
  registrySet name "REG_DWORD" (toString value)

def registrySetString (name value : String) : ProxySpawn := registrySet name "REG_SZ" value

def windowsRegistryCommands (settings : WindowsProxySettings) : List ProxySpawn :=
  match settings.optionType with
  | .direct =>
    [registrySetDword "ProxyEnable" 0, registrySetString "ProxyServer" "",
      registrySetString "ProxyOverride" "", registrySetString "AutoConfigURL" ""]
  | .namedProxy =>
    [registrySetDword "ProxyEnable" 1, registrySetString "ProxyServer" settings.proxy,
      registrySetString "ProxyOverride" settings.exceptions, registrySetString "AutoConfigURL" ""]
  | .pacUrl =>
    [registrySetDword "ProxyEnable" 0, registrySetString "ProxyServer" "",
      registrySetString "ProxyOverride" "", registrySetString "AutoConfigURL" settings.proxy]

def windowsClearSettings : WindowsProxySettings :=
  { proxy := "", exceptions := "", optionType := .direct }

end Commands

end SystemProxy
