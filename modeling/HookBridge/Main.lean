/-
**The program.**

The outer layer: files, sockets, the clock and the signals.  What is to be done the library decides;
what stands here does it.

Main definitions:

* `HookBridge.Outside.observe` — what the machine has at a path;
* `HookBridge.Outside.carry` — carries a posting to its address;
* `HookBridge.Outside.converse` — answers the request of a connection;
* `HookBridge.Outside.serve` — takes connections until a signal comes;
* `main` — the program.
-/

import HookBridge.Http.Replay
import HookBridge.Http.Wire
import HookBridge.Launch
import HookBridge.Service
import Std.Async
import Std.Time

set_option relaxedAutoImplicit false
set_option autoImplicit false

namespace HookBridge

namespace Outside

open Std.Async Std.Net

/-! ### Files and the log -/

/-- Looks up what the machine has at a path, and on the way to it.  Only a file of which the content
counts is read. -/
def observe (path : String) (reads : Bool) (files : Files) : IO Files := do
  let mut files := files
  for place in Path.passed (files.origin path) (Path.parts path) do
    let file := System.mkFilePath [String.join (place.map ("/" ++ ·))]
    if ← file.isDir then files := files.put place .directory
    else if ← file.pathExists then
      let content ← if reads then IO.FS.readBinFile file else pure .empty
      files := files.put place (.regular content.toList)
  return files

/-- The moment that the clock shows. -/
def now : IO Moment := do
  let t ← Std.Time.DateTime.now
  return ⟨t.year.toInt.toNat, t.month.toNat, t.day.toNat, t.hour.val.toNat, t.minute.val.toNat,
    t.second.val.toNat, t.nanosecond.val.toNat, t.offset.second.val / 60⟩

/-- What a command line makes the program ask for: the files of start-up, the variables of its log
path, and the time. -/
def surroundings (line : CommandLine) : IO Surroundings := do
  let now ← now
  let files : Files := ⟨(Path.parts (← IO.currentDir).toString).filter (· != ""), []⟩
  let files ← match line.configFile with
    | some path => observe path true files
    | none => pure files
  match (Launch.settings files line).toOption.bind (Appender.ofSetting? ·.logDestination) with
  | some (.file path) =>
      let mut environment := []
      for name in LogPath.variableNames path.toList do
        if let some value ← IO.getEnv name then environment := (name, value) :: environment
      let files ← observe (LogPath.fill environment now path) false files
      return ⟨files, environment, now⟩
  | _ => return ⟨files, [], now⟩

/-- Where the lines of an appender go. -/
def stream : Appender → IO IO.FS.Stream
  | .stdout => IO.getStdout
  | .stderr => IO.getStderr
  | .file path => do
      for above in (Path.ancestors path).reverse do
        if above != "" && !(← (System.mkFilePath [above]).isDir) then IO.FS.createDir above
      return .ofHandle (← IO.FS.Handle.mk path .append)

/-- Writes a record of the program's own. -/
def note (output : IO.FS.Stream) (message : String) : IO Unit := do
  let time := (← Std.Time.DateTime.now).format "uuuu-MM-dd'T'HH:mm:ss.SSSZ"
  output.putStr (Host.Record.line time ⟨.info, "bridge", message⟩)
  output.flush

/-- The words for a text that is no document of settings. -/
def complaint (_text : String) : String := "no document of settings"

/-! ### Exchanges -/

/-- A number of bytes to be received at once. -/
def portion : UInt64 := 65536

/-- All that a connection brings until its end. -/
partial def receiveAll (client : TCP.Socket.Client) (done : ByteArray) : Async ByteArray := do
  match ← client.recv? portion with
  | some bytes => receiveAll client (done ++ bytes)
  | none => return done

/-- A connection to the first of a host's addresses that takes one. -/
def connect (u : Http.Url) : Async (Option TCP.Socket.Client) := do
  let name := String.ofList (u.host.toList.filter fun c => c != '[' && c != ']')
  let port := UInt16.ofNat u.port
  for address in ← DNS.getAddrInfo name (toString port) do
    let client ← TCP.Socket.Client.mk
    try
      client.connect (match address with
        | .v4 a => .v4 ⟨a, port⟩
        | .v6 a => .v6 ⟨a, port⟩)
      return some client
    catch _ => continue
  return none

/-- Carries a posting to an address, however long it takes. -/
def talk (u : Http.Url) (posting : Http.Posting) : Async Http.Outcome := do
  let some client ← (try connect u catch _ => pure none) | return .refused
  try
    client.send (ByteArray.mk (Http.Wire.ofPosting u posting).toArray)
    let bytes ← receiveAll client .empty
    match Http.Wire.response? bytes.toList with
    | some (status, body) => return .response status body
    | none => return .closed
  catch _ => return .closed

/-- A time to wait, with an upper bound of some weeks. -/
def waiting (d : Duration) : Std.Time.Millisecond.Offset := .ofNat (min d.toMillis 2147483647)

/-- Carries a posting to its address, and waits no longer than it says. -/
def carry (posting : Http.Posting) : Async Http.Exchange := do
  let begun ← IO.monoNanosNow
  let outcome ← match Http.Url.parse? posting.url with
    | none => pure .noAddress
    | some u =>
        if u.secure then pure .refused
        else Async.race (talk u posting) (do sleep (waiting posting.timeout); return .overdue)
  return ⟨outcome, ⟨(← IO.monoNanosNow) - begun⟩⟩

/-! ### Requests -/

/-- A bridge on replayed exchanges, and its counters. -/
structure Running where
  bridge : Bridge Http.Replay
  metrics : IO.Ref MetricsWorker

/-- Plays the answer to a request against known exchanges. -/
def Running.play (b : Running) (r : Http.Request) (metrics : MetricsWorker)
    (known : List Http.Exchange) : Http.Response × BridgeState Http.Replay :=
  b.bridge.route r ⟨.start known, metrics⟩

/-- The answer to a request.  It is played until all exchanges that it asks for have taken place, and
counted once. -/
partial def Running.answer (b : Running) (r : Http.Request) (known : List Http.Exchange) :
    Async Http.Response := do
  match (b.play r .mute known).2.outside.due with
  | some posting => b.answer r (known ++ [← carry posting])
  | none =>
      b.metrics.modifyGet fun metrics =>
        let (response, s) := b.play r metrics known
        (response, s.metrics)

/-- The most bytes of a request that are looked at. -/
def streamLimit : Nat := 8 * Bridge.bodyLimit

/-- The request that a connection brings, if it brings one. -/
partial def receiveRequest (client : TCP.Socket.Client) (done : ByteArray) :
    Async (Option Http.Request) := do
  match Http.Wire.request done.toList with
  | .complete r => return some r
  | .malformed => return none
  | .incomplete =>
      if streamLimit < done.size then return none
      match ← client.recv? portion with
      | some bytes => receiveRequest client (done ++ bytes)
      | none => return none

/-- Answers the request of a connection. -/
def Running.converse (b : Running) (client : TCP.Socket.Client) : Async Unit := do
  try
    let response ← match (← receiveRequest client .empty).map Http.Request.receive with
      | some (.ok r) => b.answer r []
      | some (.error refusal) => pure (.bare refusal.status)
      | none => pure (.bare Http.Refusal.malformed.status)
    client.send (ByteArray.mk (Http.Wire.ofResponse response).toArray)
    client.shutdown
  catch _ => return

/-! ### Running -/

/-- Takes connections, each in a task of its own. -/
partial def Running.listen (b : Running) (server : TCP.Socket.Server) (active : IO.Ref Nat) :
    Async Unit := do
  let client ← server.accept
  active.modify (· + 1)
  background (t := AsyncTask) do
    b.converse client
    active.modify (· - 1)
  b.listen server active

/-- Waits until nothing is active any more. -/
partial def quiet (active : IO.Ref Nat) : Async Unit := do
  unless (← active.get) == 0 do
    sleep (.ofNat 10)
    quiet active

/-- The next of the signals that end the program. -/
def signalled : Async Unit :=
  Async.raceAll (List.map (fun signal => do
    let waiter ← Signal.Waiter.mk signal false
    let _ ← Async.ofAsyncTask (← waiter.wait)) [Signal.sigterm, Signal.sigint, Signal.sigquit])

/-- A hangup does not end the program. -/
partial def hangups (output : IO.FS.Stream) (waiter : Signal.Waiter) : Async Unit := do
  let _ ← Async.ofAsyncTask (← waiter.wait)
  note output "reading the settings again is not supported"
  hangups output waiter

/-- Takes connections until a signal comes, and ends the answers that have been begun. -/
def serve (s : Settings) (output : IO.FS.Stream) : Async Unit := do
  let server ← TCP.Socket.Server.mk
  server.bind (.v4 ⟨.ofParts 0 0 0 0, s.httpPort⟩)
  server.listen 128
  let metrics ← IO.mkRef (.running .empty)
  let active ← IO.mkRef 0
  let running : Running := ⟨s.bridge Http.Replay.post, metrics⟩
  background (t := AsyncTask) (hangups output (← Signal.Waiter.mk .sighup true))
  background (t := AsyncTask) (running.listen server active)
  note output ("listening on " ++ s.address)
  signalled
  note output "shutting down"
  quiet active

end Outside

end HookBridge

open HookBridge in
/-- The program: start-up, and then the bridge until a signal ends it. -/
def main (arguments : List String) : IO UInt32 := do
  let surroundings ← match CommandLine.read arguments with
    | .ok line => Outside.surroundings line
    | .error _ => pure ⟨.empty, [], ← Outside.now⟩
  match Launch.main Outside.complaint arguments (.start surroundings) with
  | (.error exit, _) =>
      (← IO.getStdout).putStr exit.stdout
      (← IO.getStderr).putStr exit.stderr
      return UInt32.ofNat exit.code
  | (.ok settings, host) =>
      let output ← Outside.stream ((host.logger.map (·.appender)).getD .stdout)
      (Outside.serve settings output).block
      return 0
