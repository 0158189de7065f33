import SessionBroker.Crypto.Standard
import SessionBroker.Server

/-!
# The command line

`session-broker [--config FILE]` reads requests from standard input, one JSON object a line, and writes
the responses in the same order.
-/

namespace SessionBroker.CommandLine

/-- The configuration file that the arguments name, if they name one. -/
def configPath : List String → Except String (Option String)
  | [] => .ok none
  | ["--config", path] => .ok (some path)
  | _ => .error "usage: session-broker [--config FILE]"

/-- The response to a line, or what is wrong with it. -/
def answerLine (server : Server) (line : String) : StateM Server.State String := do
  match Json.parse? line with
  | some request => return (← server.answer request).compact
  | none => return (Json.object [("error", .str "the line is no JSON")]).compact

def readConfig : Option String → IO (Option BrokerConfig)
  | none => return some .standard
  | some path => return BrokerConfig.ofToml? (← IO.FS.readFile path)

def freshEntropy : IO Entropy := do
  let bytes ← IO.getRandomBytes 8
  return ⟨bytes.data.toList.foldl (fun seed b => seed * 256 + b.toUInt64) 0⟩

partial def loop (server : Server) (s : Server.State) : IO Unit := do
  let output ← IO.getStdout
  let line ← (← IO.getStdin).getLine
  if !line.isEmpty then
    let (response, s) := answerLine server line s
    output.putStrLn response
    output.flush
    loop server s

end SessionBroker.CommandLine

open SessionBroker CommandLine in
def main (arguments : List String) : IO UInt32 := do
  match configPath arguments with
  | .error usage =>
    IO.eprintln usage
    return 2
  | .ok path => match ← readConfig path with
    | none =>
      IO.eprintln "the configuration cannot be read"
      return 1
    | some config =>
      loop (.ofConfig config StandardCipher.cipher trialIssuer) (.initial config (← freshEntropy))
      return 0
