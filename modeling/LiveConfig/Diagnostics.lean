import LiveConfig.Registry.Fleet
import LiveConfig.Text.Quoted
import LiveConfig.Unit.Basic

/-!
Contract: the texts that show clients, units and registries to somebody who looks for a fault.

A record is shown by its name, then its fields with their values between braces. A duration is shown in
whole seconds and the fraction that is left, or in milliseconds below one second.
-/

namespace LiveConfig.Diagnostics

def record (name : String) (fields : List (String × String)) : String :=
  name ++ " \x7b " ++
    String.intercalate ", " (fields.map fun (field, value) => field ++ ": " ++ value) ++ " \x7d"

/-- A value that may be missing. -/
def optional : Option String → String
  | none => "None"
  | some value => "Some(" ++ value ++ ")"

/-- The decimals of a number of thousandths, without trailing zeros. -/
def decimals (thousandths : Nat) : List Char :=
  let digits := (Nat.toDigits 10 (1000 + thousandths)).tail
  (digits.reverse.dropWhile (· = '0')).reverse

/-- A duration of so many milliseconds. -/
def duration (milliseconds : Nat) : String :=
  if milliseconds = 0 then "0ns"
  else if milliseconds < 1000 then toString milliseconds ++ "ms"
  else
    let whole := toString (milliseconds / 1000)
    match decimals (milliseconds % 1000) with
    | [] => whole ++ "s"
    | digits => whole ++ "." ++ .ofList digits ++ "s"

def retryPolicy : RetryPolicy → String
  | .forever interval => record "Forever" [("interval", duration interval)]
  | .bounded maxRetries interval =>
      record "Bounded" [("max_retries", toString maxRetries.toNat), ("interval", duration interval)]

def clientState : ClientState → String
  | .created => "Created"
  | .started => "Started"
  | .closed => "Closed"

def client (client : Client) : String :=
  record "MemoryClient" [("connect_string", Text.quoted client.connectString),
    ("state", clientState client.state), ("retry", retryPolicy client.retry)]

def truth (value : Bool) : String := if value then "true" else "false"

def unit (unit : ConfigUnit) : String :=
  record "NodeSource" [("name", Text.quoted unit.name), ("path", Text.quoted unit.path),
    ("version", optional (unit.snapshot.version.map toString)),
    ("auto_refreshed", truth unit.autoRefreshed),
    ("watch", optional (unit.watch.map fun id => "WatchId(" ++ toString id ++ ")"))]

def registry (registry : Registry) : String :=
  record "ClientRegistry" [("clients", toString registry.size), ("retry", retryPolicy registry.retry),
    ("closing", truth registry.closing)]

end LiveConfig.Diagnostics
