import Regroup.Daemon.Controller

/-!
# Scripts of incidents

A script tells the daemon what happens, one incident a line:

    receive PORT HEX    a datagram from the port, with its bytes in hexadecimal digits
    fail NUMBER         receiving fails with the error of that number
    reload              the rules are to be read again
    interrupt           the daemon is to stop
    terminate           the daemon is to stop

Lines of another form are passed over.
-/

namespace Regroup.Daemon

namespace Incident

def ofFields? : List (List Char) → Option Incident
  | [word] =>
    match String.ofList word with
    | "reload" => some .reload
    | "interrupt" => some (.stop .interrupt)
    | "terminate" => some (.stop .terminate)
    | _ => none
  | [word, argument] =>
    if String.ofList word = "fail" then
      (Text.readUInt32? argument).map fun code ↦
        .delivery (.failure (.os (code.toNat : Int)))
    else none
  | [word, port, digits] =>
    if String.ofList word = "receive" then do
      let port ← Text.readUInt32? port
      let bytes ← Bytes.ofHex? digits
      return .delivery (.datagram bytes (some port))
    else none
  | _ => none

/-- The incidents of a script in the order of its lines. -/
def ofScript (script : String) : List Incident :=
  (Text.linesAt '\n' script.toList).filterMap fun line ↦ ofFields? (Text.fields line)

/-- The credential events that an incident brings along. -/
def events : Incident → List Credential.Event
  | delivery (.datagram bytes _) => (Netlink.decode bytes).1
  | delivery (.failure _) | reload | stop _ | fileChange _ _ => []

end Incident

end Regroup.Daemon
