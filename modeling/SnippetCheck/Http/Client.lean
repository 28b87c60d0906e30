import SnippetCheck.Http
import SnippetCheck.Service

/-! The services over HTTP: the primary one at a base address, with a path for each thing that it
can be asked, and the playground at an address of its own. -/

namespace SnippetCheck

/-- The base address without the slashes at its end, to which paths are added. -/
def Config.baseUrl (c : Config) : String :=
  String.ofList (c.primaryUrl.toList.reverse.dropWhile (· == '/')).reverse

namespace Call

def request (c : Config) : Call → Http.Request
  | health => { url := c.baseUrl ++ "/health" }
  | check r => { url := c.baseUrl ++ "/check", body := some r.toJson }
  | execute r => { url := c.playgroundUrl, body := some r.toJson }

def allowance (c : Config) : Call → Nat
  | health => c.healthTimeoutSecs
  | _ => c.requestTimeoutSecs

def ask (c : Config) (t : Http.Transport) (d : Json.Decoder α) (call : Call) : Except Failure α :=
  Http.ask t d (call.allowance c) (call.request c)

def arrivals (c : Config) (t : Http.Transport) (calls : List Call) : List Http.Request :=
  calls.filterMap fun call => Http.arrival? t (call.allowance c) (call.request c)

end Call

def Backends.overHttp (c : Config) (t : Http.Transport) : Backends :=
  { health := Call.health.ask c t .any
    check := fun r => (Call.check r).ask c t CheckReply.decoder
    execute := fun r => (Call.execute r).ask c t ExecuteReply.decoder }

def Service.overHttp (c : Config) : Service := .new c c.baseUrl (some c.playgroundUrl)

end SnippetCheck
