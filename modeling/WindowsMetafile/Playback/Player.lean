import WindowsMetafile.Command.Decode
import WindowsMetafile.Metafile.Stream
import WindowsMetafile.Playback.Replay

/-!
# Replaying lists of records

Records are replayed one after the other, up to the record that ends the metafile or up to a limit.
A record that fails is noted and passed over, or ends the replay, as the policy says.

## Main definitions

* `Player` — the policy, the limit, the scale and the decoder of a replay
* `Report` — what is told about a replay
* `Player.play` — the replay of some records in a session
-/

namespace WindowsMetafile

/-- What is done about a record that fails. -/
inductive FaultPolicy
  /-- It is noted and passed over. -/
  | proceed
  /-- It ends the replay. -/
  | stop
  deriving DecidableEq, Repr

/-- A record that failed. -/
structure RecordFailure where
  index : Nat
  opcode : UInt16
  fault : Fault
  deriving DecidableEq, Repr

/-- What is told about a replay. -/
structure Report where
  /-- The number of records looked at. -/
  records : Nat
  /-- The number of records replayed, those without meaning included. -/
  replayed : Nat
  /-- The number of records whose function code has no meaning. -/
  unknown : Nat
  failures : Array RecordFailure
  deriving DecidableEq, Repr

namespace Report

def empty : Report :=
  ⟨0, 0, 0, #[]⟩

/-- Whether no record failed. -/
def clean (report : Report) : Bool :=
  report.failures.isEmpty

end Report

/-- How records are replayed. -/
structure Player where
  policy : FaultPolicy
  /-- The greatest number of records looked at. -/
  limit : Option Nat
  scale : Scale
  decoder : BitmapDecoder

namespace Player

/-- Replays a single record; tells whether its function code has no meaning. -/
def playRecord (player : Player) (record : Record) : Replay Bool := do
  let command ← Replay.lift record.decode
  (command.setScale player.scale.x player.scale.y).replay player.decoder
  return command.action.isUnknown

/-- Whether the limit allows one more record. -/
def allows (player : Player) (records : Nat) : Bool :=
  match player.limit with
  | some limit => records < limit
  | none => true

/-- Replays records after those that a report already tells about. -/
def playOn (player : Player) : List Record → Report → Session → Except Fault Report × Session
  | [], report, session => (.ok report, session)
  | record :: rest, report, session =>
    if player.allows report.records then
      let index := report.records
      let report := { report with records := index + 1 }
      if record.endsStream then (.ok report, session)
      else
        match (player.playRecord record).run.run session with
        | (.ok unknown, session) =>
          player.playOn rest
            { report with
              replayed := report.replayed + 1
              unknown := report.unknown + if unknown then 1 else 0 } session
        | (.error fault, session) =>
          match player.policy with
          | .stop => (.error fault, session)
          | .proceed =>
            player.playOn rest
              { report with failures := report.failures.push ⟨index, record.opcode, fault⟩ } session
    else (.ok report, session)

/-- Replays records in a session. -/
def play (player : Player) (records : List Record) (session : Session) :
    Except Fault Report × Session :=
  player.playOn records .empty session.sync

/-- Replays records in a given context on a fresh canvas. -/
def playIn (player : Player) (context : Context) (records : List Record) :
    Except Fault Report × Session :=
  player.play records ⟨context, .fresh⟩

end Player

end WindowsMetafile
