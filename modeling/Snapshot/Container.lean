import Snapshot.Session.Value

/-!
# Containers

A container is a magic of eight bytes, the format version in four, and what a
component stores of itself.  Loading accepts a range of versions, and it touches
the component only after the header was accepted.
-/

namespace Snapshot

/-- The version that is written, and the oldest one that is read. -/
structure FormatVersion where
  current : UInt32
  minimum : UInt32
  deriving DecidableEq, Repr

namespace FormatVersion

/-- Whether state of the given version can be read. -/
def supports (format : FormatVersion) (version : UInt32) : Bool :=
  format.minimum ≤ version && version ≤ format.current

/-- Whether no version at all can be read. -/
def isEmpty (format : FormatVersion) : Bool :=
  format.current < format.minimum

/-- Accepts the versions that can be read. -/
def check (format : FormatVersion) (found : UInt32) : Except Failure Unit :=
  if format.supports found then
    .ok ()
  else
    .error (.unsupportedVersion found format.minimum format.current)

end FormatVersion

namespace Container

/-- The first bytes of every container. -/
def magic : Bytes :=
  [0x53, 0x41, 0x56, 0x53, 0x54, 0x41, 0x54, 0x45]

variable {σ α : Type} [ByteStream σ]

/-- Transfers the header.  The failure of the session comes before a wrong magic. -/
def transferHeader (session : Session σ) : Except Failure UInt32 × Session σ :=
  match session.transferBytes (⟨magic, rfl⟩ : Fixed UInt8 8) with
  | (found, session) =>
      match session.transfer (.scalar .u32) session.version.toBitVec with
      | (version, session) =>
          match session.failure with
          | some failure => (.error failure, session)
          | none =>
              if found.items = magic then
                (.ok ⟨version⟩, session)
              else
                (.error .invalidMagic, session)

/-- Reads the header and answers with the version it states. -/
def readHeader (allocator : Allocator) (stream : σ) : Except Failure UInt32 × Session σ :=
  transferHeader (.start allocator stream .read 0 .standard)

/-- What a component does with a session: it may answer with a failure of its own,
and it leaves the component in a new state. -/
abbrev Body (σ α : Type) : Type :=
  α → Session σ → (Except Failure Unit × α) × Session σ

/-- Writes the header and then the component.  Every outcome comes with the
component and with the session that was open last. -/
def save (allocator : Allocator) (format : FormatVersion) (body : Body σ α)
    (component : α) (stream : σ) : (Except Failure Unit × α) × Session σ :=
  match transferHeader (.start allocator stream .write format.current .standard) with
  | (.error failure, session) => ((.error failure, component), session)
  | (.ok _, session) =>
      match body component session with
      | ((.error failure, component), session) => ((.error failure, component), session)
      | ((.ok (), component), session) => ((session.finish, component), session)

/-- Reads the header, and then the component at the version that the header states.
Answers with that version. -/
def load (allocator : Allocator) (format : FormatVersion) (body : Body σ α)
    (component : α) (stream : σ) : (Except Failure UInt32 × α) × Session σ :=
  match readHeader allocator stream with
  | (.error failure, session) => ((.error failure, component), session)
  | (.ok version, session) =>
      match format.check version with
      | .error failure => ((.error failure, component), session)
      | .ok () =>
          match body component
              (.start allocator session.stream .read version .standard) with
          | ((.error failure, component), session) => ((.error failure, component), session)
          | ((.ok (), component), session) =>
              match session.finish with
              | .error failure => ((.error failure, component), session)
              | .ok () => ((.ok version, component), session.report (.restored version))

end Container

end Snapshot
