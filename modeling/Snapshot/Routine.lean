import Snapshot.Session.Marker
import Snapshot.Session.Value

/-!
# Routines

A routine is a list of steps, each of them one use of a session.  The same routine
saves and restores: what it does is decided by the mode of the session it runs in.
Every step works on a value of its own, which is what is saved or what is restored
into.
-/

namespace Snapshot

/-- One use of a session. -/
inductive Step where
  | value (layout : Layout)
  | field (layout : Layout) (field : VersionedField layout.Value)
  | block (layout : Layout) (plain : layout.isPlain = true)
  | blocks (item : Layout) (plain : item.isPlain = true)
  | units
  | bytes (length : Nat)
  | bytesField (length : Nat) (field : VersionedField Bytes)
  | variant (enumeration : Enumeration)
  | lend (text : String)
  | marker (expected : String)
  | expect (expected : String)
  | invalidate (reason : String)
  | abandon (reason : String)

/-- What a step answers, apart from the value that it leaves. -/
inductive Reply where
  | done
  | matched (accepted : Bool)
  | checked (outcome : Except Failure Unit)
  | refused (misuse : Misuse)

/-- The failure that a reply hands to the caller, if it is one. -/
def Reply.failure? : Reply → Option Failure
  | .checked (.error failure) => some failure
  | _ => none

namespace Step

/-- What a step works on. -/
@[reducible] def Value : Step → Type
  | .value layout => layout.Value
  | .field layout _ => layout.Value
  | .block layout _ => layout.Value
  | .blocks item _ => List item.Value
  | .units => Nat
  | .bytes length => Fixed UInt8 length
  | .bytesField length _ => Fixed UInt8 length
  | .variant enumeration => enumeration.Variant
  | .lend _ => Unit
  | .marker _ => Unit
  | .expect _ => Unit
  | .invalidate _ => Unit
  | .abandon _ => Unit

variable {σ : Type} [ByteStream σ]

/-- Carries out a step. -/
def run : (step : Step) → step.Value → Session σ → (Reply × step.Value) × Session σ
  | .value layout, given, session =>
      match session.transfer layout given with
      | (left, session) => ((.done, left), session)
  | .field layout gate, given, session =>
      match session.transferField layout gate given with
      | (left, session) => ((.done, left), session)
  | .block layout _, given, session =>
      match session.transferBlock layout given with
      | (left, session) => ((.done, left), session)
  | .blocks item _, given, session =>
      match session.transferBlocks item given with
      | (left, session) => ((.done, left), session)
  | .units, given, session =>
      match session.transferUnits given with
      | (left, session) => ((.done, left), session)
  | .bytes _, given, session =>
      match session.transferBytes given with
      | (left, session) => ((.done, left), session)
  | .bytesField _ gate, given, session =>
      match session.transferBytesField gate given with
      | ((.ok (), left), session) => ((.done, left), session)
      | ((.error misuse, left), session) => ((.refused misuse, left), session)
  | .variant enumeration, given, session =>
      match session.transferVariant enumeration given with
      | (left, session) => ((.done, left), session)
  | .lend text, _, session =>
      match session.lendText text with
      | (.ok (), session) => ((.done, ()), session)
      | (.error misuse, session) => ((.refused misuse, ()), session)
  | .marker expected, _, session =>
      match session.marker expected with
      | (.ok accepted, session) => ((.matched accepted, ()), session)
      | (.error misuse, session) => ((.refused misuse, ()), session)
  | .expect expected, _, session =>
      match session.expectMarker expected with
      | (.ok outcome, session) => ((.checked outcome, ()), session)
      | (.error misuse, session) => ((.refused misuse, ()), session)
  | .invalidate reason, _, session => ((.done, ()), session.invalidate reason)
  | .abandon reason, _, session => ((.checked (.error (.invalid reason)), ()), session)

end Step

/-- Steps in the order in which they run. -/
abbrev Routine := List Step

namespace Routine

/-- One value for each step. -/
@[reducible] def Values : Routine → Type
  | [] => Unit
  | step :: steps => step.Value × Values steps

variable {σ : Type} [ByteStream σ]

/-- Runs every step, whatever the steps answer. -/
def run : (routine : Routine) → routine.Values → Session σ →
    (List Reply × routine.Values) × Session σ
  | [], _, session => (([], ()), session)
  | step :: steps, (given, rest), session =>
      match step.run given session with
      | ((reply, left), session) =>
          match run steps rest session with
          | ((replies, rest), session) => ((reply :: replies, (left, rest)), session)

/-- Runs the steps up to the first one that answers with a failure, and answers
with that failure. -/
def attempt : (routine : Routine) → routine.Values → Session σ →
    (Except Failure Unit × routine.Values) × Session σ
  | [], _, session => ((.ok (), ()), session)
  | step :: steps, (given, rest), session =>
      match step.run given session with
      | ((reply, left), session) =>
          match reply.failure? with
          | some failure => ((.error failure, (left, rest)), session)
          | none =>
              match attempt steps rest session with
              | ((outcome, rest), session) => ((outcome, (left, rest)), session)

end Routine

end Snapshot
