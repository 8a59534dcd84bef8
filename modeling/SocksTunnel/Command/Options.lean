import SocksTunnel.Command.Arguments

/-
  SocksTunnel.Command.Options — the settings of a run, from a command line and from
  options that its caller gives by name. The log is set up first, from the command line
  alone. Then an option takes the place of the flag of its name; user and payload become
  data, which broken text does not, and the timeouts are those given as a whole, or else one
  for each phase.

  Proved: an option wins over its flag (`chosen_option`), and without options the
  command line decides (`chosen_nil`).
-/

namespace SocksTunnel

namespace Settings

abbrev Named := List (Text × Value)

/-- The option of a flag, or the flag itself. -/
def chosen (s : Settings) (opts : Named) (f : Flag) : Value := (opts.lookup f.key).getD (s.get f)

/-- Payload as data, if there is one. -/
def payloadOf : Value → Except Fault Value
  | .nothing => .ok .nothing
  | v => v.toBytes

/-- The timeouts, given as a whole or for each phase. -/
def timeoutsOf (s : Settings) (opts : Named) : Except Failure Timeouts :=
  match s.chosen opts .timeouts with
  | .timeouts t => .ok t
  | .nothing =>
    (Value.timeoutsOf (s.chosen opts .connectTimeout) (s.chosen opts .writeTimeout)
      (s.chosen opts .readTimeout)).mapError .fault
  | v => v.readTimeouts

/-- Flags that an option replaces as it is. -/
def replaceable : List Flag := [.proxyHost, .proxyPort, .protocol, .destination, .destinationPort]

/-- The settings of a run. Timeouts of a bad value are a mistake of usage, but user and payload are not looked after. -/
def resolved (s : Settings) (opts : Named) : Except Stop Settings := do
  let user ← (s.chosen opts .user).toBytes.mapError fun f => .failed (.fault f)
  let payload ← (payloadOf (s.chosen opts .payload)).mapError fun f => .failed (.fault f)
  let t ← (s.timeoutsOf opts).mapError .of
  let s' := replaceable.foldl (fun r f => r.set f (s.chosen opts f)) s
  .ok (((s'.set .user user).set .payload payload).set .timeouts (.timeouts t))

/-- The settings of a run and the log for it. -/
def prepare (words : List Value) (opts : Named) (log : Log) : Except Stop Settings × Log :=
  match Arguments.parse words with
  | .error e => (.error e, log)
  | .ok s =>
    match log.setup (s.get .logFile) (s.get .logLevel) (s.get .logFormat) with
    | (.error f, log) => (.error (Stop.of f), log)
    | (.ok _, log) => (s.resolved opts, log)

theorem chosen_option {s : Settings} {opts : Named} {f : Flag} {v : Value} (h : opts.lookup f.key = some v) :
    s.chosen opts f = v := by
  simp [chosen, h]

theorem chosen_nil (s : Settings) (f : Flag) : s.chosen [] f = s.get f := rfl

end Settings

end SocksTunnel
