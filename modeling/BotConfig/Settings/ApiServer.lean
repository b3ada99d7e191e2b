import BotConfig.Decode
import BotConfig.Error

/-!
Remote control over the network.
-/

namespace BotConfig

/-- How much the access log of the server tells. -/
inductive ApiVerbosity where
  | error
  | info
deriving DecidableEq, Inhabited

namespace ApiVerbosity

/-- The levels in the order messages list them. -/
def all : List ApiVerbosity := [.error, .info]

/-- The spelling in documents. -/
def name : ApiVerbosity → String
  | .error => "error"
  | .info => "info"

/-- Read a level. -/
def decode : Decode.Decoder ApiVerbosity :=
  Decode.choice (all.map fun level => ([level.name], level))

end ApiVerbosity

/-- An internet address of four bytes. -/
structure Address where
  first : Nat
  second : Nat
  third : Nat
  fourth : Nat
deriving DecidableEq, Inhabited

namespace Address

/-- The address of the machine itself. -/
def localhost : Address := ⟨127, 0, 0, 1⟩

/-- The text of an address. -/
def text (address : Address) : String :=
  String.intercalate "."
    [toString address.first, toString address.second, toString address.third,
      toString address.fourth]

/-- Whether only the machine itself reaches an address. -/
def isLoopback (address : Address) : Bool := address.first == 127

/-- A byte of an address: one to three digits without a leading zero. -/
def byte? (text : List Char) : Option Nat :=
  match text with
  | [] => none
  | ['0'] => some 0
  | '0' :: _ => none
  | _ =>
      if text.all Char.isDigit ∧ text.length ≤ 3 then
        let value := text.foldl (fun n c => 10 * n + (c.toNat - '0'.toNat)) 0
        if value < 256 then some value else none
      else none

/-- The parts of a text between points. -/
def parts : List Char → List (List Char)
  | [] => [[]]
  | '.' :: rest => [] :: parts rest
  | c :: rest =>
      match parts rest with
      | part :: others => (c :: part) :: others
      | [] => [[c]]

/-- Read an address. -/
def ofText? (text : String) : Option Address :=
  match parts text.toList with
  | [a, b, c, d] => return ⟨← byte? a, ← byte? b, ← byte? c, ← byte? d⟩
  | _ => none

/-- Read an address from a value. -/
def decode : Decode.Decoder Address
  | .text content =>
      match ofText? content with
      | some address => .ok address
      | none => Decode.fail .invalidAddress
  | value => Decode.wrongType value "IPv4 address"

end Address

/-- The settings of the server. -/
structure ApiServer where
  enabled : Bool
  address : Option Address
  port : Option Nat
  username : String
  password : String
  /-- The key that tokens are signed with. -/
  tokenKey : Option String
  websocketTokens : List String
  /-- The origins that browsers may call from. -/
  origins : List String
  verbosity : ApiVerbosity
deriving DecidableEq

namespace ApiServer

/-- A server that does not run. -/
def standard : ApiServer := ⟨false, none, none, "", "", none, [], [], .error⟩

instance : Inhabited ApiServer := ⟨standard⟩

/-- The fields of the section. -/
def record : Decode.Record ApiServer :=
  ApiServer.mk
    <$> .defaulted "enabled" Decode.boolean standard.enabled
    <*> .defaulted "listen_ip_address" (Decode.optional Address.decode) standard.address
    <*> .defaulted "listen_port" (Decode.optional (Decode.unsigned 16)) standard.port
    <*> .defaulted "username" Decode.freeText standard.username
    <*> .defaulted "password" Decode.freeText standard.password
    <*> .defaulted "jwt_secret_key" Decode.optionalFreeText standard.tokenKey
    <*> .defaulted "ws_token" Decode.texts standard.websocketTokens
    <*> .spelledTwoWays "CORS_origins" "cors_origins" (Decode.listOf Decode.text) standard.origins
    <*> .defaulted "verbosity" ApiVerbosity.decode standard.verbosity

/-- Read the section. -/
def decode : Decode.Decoder ApiServer := record.decoder "ApiServerConfig"

/-- Write the section. -/
def encode (server : ApiServer) : Value := .mapping [
  ("enabled", .boolean server.enabled),
  ("listen_ip_address", Encode.optional (fun address => .text address.text) server.address),
  ("listen_port", Encode.optional Encode.natural server.port),
  ("username", .text server.username),
  ("password", .text server.password),
  ("jwt_secret_key", Encode.optional .text server.tokenKey),
  ("ws_token", Encode.listOf .text server.websocketTokens),
  ("CORS_origins", Encode.listOf .text server.origins),
  ("verbosity", .text server.verbosity.name)]

/-- The port that is used when none is given. -/
def standardPort : Nat := 8080

/-- The address that the server listens at. -/
def listenAddress (server : ApiServer) : Address := server.address.getD .localhost

/-- The text of the address and the port that the server listens at. -/
def listenText (server : ApiServer) : String :=
  server.listenAddress.text ++ ":" ++ toString (server.port.getD standardPort)

/-- Whether other machines can reach the server. -/
def isExposed (server : ApiServer) : Bool := !server.listenAddress.isLoopback

/-- Ports below 1024 are not used, and a server that runs has an address, a port, a user name and
a password. -/
def rules (server : ApiServer) : List Rule :=
  ⟨!server.port.any (· < 1024),
    .invalid [.key "api_server", .key "listen_port"] (.between 1024 65535)⟩ ::
  if server.enabled then [
    ⟨server.address.isSome, .missing [.key "api_server", .key "listen_ip_address"]⟩,
    ⟨server.port.isSome, .missing [.key "api_server", .key "listen_port"]⟩,
    ⟨!server.username.isEmpty, .missing [.key "api_server", .key "username"]⟩,
    ⟨!server.password.isEmpty, .missing [.key "api_server", .key "password"]⟩]
  else []

end ApiServer

end BotConfig
