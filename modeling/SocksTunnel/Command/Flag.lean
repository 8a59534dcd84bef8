import SocksTunnel.Log.Sink
import SocksTunnel.Route.Basic

/-
  SocksTunnel.Command.Flag — the flags of the command line: how each is written, which
  values it takes, what it is for, and its value if it is not given. The settings of a
  run are a value for every flag.

  Proved: setting a flag changes that flag alone (`get_set`).
-/

namespace SocksTunnel

inductive Flag where
  | help
  | version
  | logLevel
  | logFile
  | logFormat
  | proxyHost
  | proxyPort
  | protocol
  | destination
  | destinationPort
  | user
  | connectTimeout
  | writeTimeout
  | readTimeout
  | timeouts
  | payload
  deriving DecidableEq, Repr

namespace Flag

/-- All flags in the order in which they are shown and matched. -/
def all : List Flag :=
  [help, version, logLevel, logFile, logFormat, proxyHost, proxyPort, protocol, destination, destinationPort, user,
    connectTimeout, writeTimeout, readTimeout, timeouts, payload]

/-- The words of a flag. -/
def words : Flag → List String
  | help => ["help"]
  | version => ["version"]
  | logLevel => ["log", "level"]
  | logFile => ["log", "file"]
  | logFormat => ["log", "format"]
  | proxyHost => ["proxy", "hostname"]
  | proxyPort => ["proxy", "port"]
  | protocol => ["protocol"]
  | destination => ["destination"]
  | destinationPort => ["destination", "port"]
  | user => ["ident"]
  | connectTimeout => ["connect", "timeout"]
  | writeTimeout => ["write", "timeout"]
  | readTimeout => ["read", "timeout"]
  | timeouts => ["timeouts"]
  | payload => ["payload"]

def joined (f : Flag) (sep : Char) : Text := [sep].intercalate (f.words.map Text.lit)

/-- The name under which callers override a flag. -/
def key (f : Flag) : Text := f.joined '_'

def longName (f : Flag) : Text := '-' :: '-' :: f.joined '-'

/-- All spellings of a flag. -/
def names (f : Flag) : List Text :=
  match f with
  | help => [['-', 'h'], f.longName]
  | version => [f.longName, ['-', 'v']]
  | f => [f.longName]

/-- The flag of a single letter. -/
def ofLetter? (c : Char) : Option Flag := all.find? fun f => f.names.contains ['-', c]

/-! ## Values -/

/-- What a flag takes: nothing, text, a whole number, a number, or one of the protocols. -/
inductive Kind where
  | switch
  | text
  | whole
  | real
  | choice
  deriving DecidableEq, Repr

def kind : Flag → Kind
  | help => .switch
  | version => .switch
  | proxyPort => .whole
  | protocol => .choice
  | destinationPort => .whole
  | connectTimeout => .real
  | writeTimeout => .real
  | readTimeout => .real
  | _ => .text

def proxyHostDefault : Ipv4 := ⟨127, 0, 0, 1⟩

def proxyPortDefault : Int := 1080

def destinationPortDefault : Int := 80

def default : Flag → Value
  | help => .nothing
  | version => .bool false
  | logLevel => Log.defaultLevel
  | logFile => .nothing
  | logFormat => Log.defaultLayout
  | proxyHost => .text proxyHostDefault.text
  | proxyPort => .int proxyPortDefault
  | protocol => .text (Text.lit Protocol.socks5.name)
  | destination => .nothing
  | destinationPort => .int destinationPortDefault
  | user => .text []
  | connectTimeout => .real Duration.ten.number
  | writeTimeout => .real Duration.ten.number
  | readTimeout => .real Duration.ten.number
  | timeouts => .nothing
  | payload => .nothing

/-! ## Description -/

/-- What stands for the value of a flag. -/
def placeholder (f : Flag) : Text :=
  match f.kind with
  | .switch => []
  | .choice => '\x7b' :: [','].intercalate (Protocol.all.map fun p => Text.lit p.name) ++ ['\x7d']
  | _ => f.key.map Char.toUpper

def purpose : Flag → String
  | help => "show this help message and exit"
  | version => "Prints async_proxy version."
  | logLevel =>
    "Valid options: DEBUG, INFO (default), WARNING, ERROR, CRITICAL. Both upper and lowercase values are allowed. " ++
      "You may also simply use the leading character e.g. --log-level d"
  | logFile => "Default: sys.stdout. Log file destination."
  | logFormat => "Log format for Python logger."
  | proxyHost => "Default: 127.0.0.1. SOCKS proxy server hostname."
  | proxyPort => "Default: 1080. SOCKS proxy server port."
  | protocol => "Default: socks5. Handshake to perform with the proxy server."
  | destination =>
    "Destination address the proxy server must connect to. IPv4 only for SOCKS4. " ++
      "IPv4, IPv6 or domain name for SOCKS5."
  | destinationPort => "Default: 80. Destination port."
  | user => "Default: empty. User id sent with --protocol socks4-ident."
  | connectTimeout => "Default: 10. Seconds to wait for connection with proxy server."
  | writeTimeout => "Default: 10. Seconds to wait for each handshake write."
  | readTimeout => "Default: 10. Seconds to wait for each handshake read."
  | timeouts => "Default: None. Colon separated connect:write:read seconds. Overrides individual timeout flags."
  | payload =>
    "Default: None. Data to send through the tunnel once established. First chunk of response is printed to stdout."

end Flag

/-! ## Settings -/

/-- A value for every flag. -/
structure Settings where
  get : Flag → Value

namespace Settings

def default : Settings := ⟨Flag.default⟩

def set (s : Settings) (f : Flag) (v : Value) : Settings := ⟨fun g => if g = f then v else s.get g⟩

@[simp] theorem get_set (s : Settings) (f g : Flag) (v : Value) :
    (s.set f v).get g = if g = f then v else s.get g := rfl

end Settings

end SocksTunnel
