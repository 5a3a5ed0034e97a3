import Msm8917Common.LocationAPIClientBase
import Msm8917Common.Runs

/-! `mTracking` of the client against the adapter. The flag is set when a start is
issued and cleared by `locAPIStopTracking` only: a start that is refused leaves it
set, and every later start then returns success without doing anything. -/
namespace Msm8917Common.Location.TrackingFlagProofs
open Runs

structure AdapterResponse where
  error : LocationError
  session : Nat
  /-- Whether it answers a start. -/
  starts : Bool
  deriving DecidableEq

/-- A client that tracks, and the adapter behind its `LocationAPI`: whether there is
one, its commands in order, its responses that are still on their way, and the
sessions that it holds for this client. -/
structure TrackingWorld where
  client : LocationAPIClientBase
  available : Bool
  commands : List ApiCall
  responses : List AdapterResponse
  live : List Nat

inductive TrackingInput where
  | startTracking (session : Nat)
  | stopTracking
  | updateTrackingOptions
  | answer (error : LocationError) (responds : Bool)
  | deliver (place : Nat)

namespace TrackingWorld
variable (world : TrackingWorld)

def start (mLocationAPI available : Bool) : TrackingWorld :=
  ⟨.new mLocationAPI, available, [], [], []⟩

/-- A call of the client, with the commands it issues. -/
def call (result : CallResult) : TrackingWorld :=
  { world with
    client := result.client
    commands := world.commands ++ if world.available then result.calls else [] }

/-- Without an adapter `LocationAPI::startTracking` returns zero. -/
def startTracking (session : Nat) : CallResult :=
  world.client.locAPIStartTracking (if world.available then session else 0)

/-- The adapter does its first command. A start is always answered; another command
is not answered if the session is not known. -/
def answer (error : LocationError) (responds : Bool) : TrackingWorld :=
  match world.commands with
  | [] => world
  | .startTracking session :: rest =>
    { world with
      commands := rest
      responses := world.responses ++ [⟨error, session, true⟩]
      live := if error = .success then session :: world.live else world.live }
  | .stopTracking session :: rest =>
    { world with
      commands := rest
      responses := world.responses ++ if responds then [⟨error, session, false⟩] else []
      live := if responds ∧ error = .success then world.live.erase session else world.live }
  | .updateTrackingOptions session :: rest =>
    { world with
      commands := rest
      responses := world.responses ++ if responds then [⟨error, session, false⟩] else [] }
  | _ :: rest => { world with commands := rest }

/-- Any response that is on its way may be the next to arrive. -/
def deliver (place : Nat) : TrackingWorld :=
  match world.responses[place]? with
  | none => world
  | some response =>
    { world with
      client := (world.client.onResponseCb response.error response.session).1
      responses := world.responses.eraseIdx place }

def step (world : TrackingWorld) : TrackingInput → TrackingWorld
  | .startTracking session => world.call (world.startTracking session)
  | .stopTracking => world.call world.client.locAPIStopTracking
  | .updateTrackingOptions => world.call world.client.locAPIUpdateTrackingOptions
  | .answer error responds => world.answer error responds
  | .deliver place => world.deliver place

end TrackingWorld

/-- A start is on its way to the adapter, or the response to one is on its way back. -/
def StartInFlight (commands : List ApiCall) (responses : List AdapterResponse) : Prop :=
  (∃ session, .startTracking session ∈ commands) ∨ ∃ response ∈ responses, response.starts = true

section Step
variable {world : TrackingWorld}

theorem StartInFlight.mono {commands more : List ApiCall} {responses later : List AdapterResponse}
    (commandsKept : ∀ session, .startTracking session ∈ commands → .startTracking session ∈ more)
    (responsesKept : ∀ response ∈ responses, response.starts = true → response ∈ later) :
    StartInFlight commands responses → StartInFlight more later := by
  rintro (⟨session, issued⟩ | ⟨response, onItsWay, starts⟩)
  · exact Or.inl ⟨session, commandsKept session issued⟩
  · exact Or.inr ⟨response, responsesKept response onItsWay starts, starts⟩

/-- What a call issues comes after what is on its way. -/
private theorem StartInFlight.call (result : CallResult) :
    StartInFlight world.commands world.responses →
      StartInFlight (world.call result).commands (world.call result).responses :=
  StartInFlight.mono (fun _ => List.mem_append_left _) fun _ onItsWay _ => onItsWay

end Step

end Msm8917Common.Location.TrackingFlagProofs
