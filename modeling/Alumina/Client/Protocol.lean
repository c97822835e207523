import Mathlib
import Alumina.Graph.Wire

/-!
# Protocol and storage data

Statuses, operations and responses of the native protocol, and the content identities a
device stores objects under. The crates that define them are not part of this code: the
types here have the fields and variants this code reads.
-/

namespace Alumina.Client

open Alumina.Graph (Digest)

/-- Typed protocol status. `other` stands for the variants nothing here names. -/
inductive StatusCode where
  | ok | notFound | busy | conflict | deadline | forbiddenState | internal
  | unauthorized | unsupported
  | other (code : UInt16)
  deriving DecidableEq, Repr

/-- The native operations the controllers of this crate emit. -/
inductive Operation where
  | storageInspect | storageBeginUpload | storagePutChunk | storageFinalize
  | jobPrepare | jobStatus | jobCommit | jobConfirm | jobLeaseRenew | jobAbort | jobCancel
  | telemetrySubscribe | telemetryStatus | telemetryPoll | telemetryUnsubscribe
  | waveformConfigure | waveformArm | waveformStatus | waveformRead | waveformStop
  | graphGet | graphInstall | graphActivate | graphStart | graphStop
  | networkStatus | networkScan | networkJoin | networkLeave | networkRecoverAp
  deriving DecidableEq, Repr

/-- One decoded and correlated protocol response. -/
structure Response where
  status : StatusCode
  body : List UInt8
  deriving DecidableEq, Repr

inductive DigestAlgorithm where
  | sha256
  deriving DecidableEq, Repr

structure ContentId where
  algorithm : DigestAlgorithm
  digest : Digest
  deriving DecidableEq, Repr

inductive ObjectKind where
  | machineJobPartition | machineJobManifest | deployedGraph | opaqueData
  deriving DecidableEq, Repr

structure StoredObject where
  kind : ObjectKind
  content : ContentId
  byteLen : UInt64
  deriving DecidableEq, Repr

/-- Exact object and chunk-manifest identity of one publication. -/
structure PublishedObject where
  object : StoredObject
  manifest : ContentId
  deriving DecidableEq, Repr

/-- The content identity of a byte string. -/
def contentOf [Graph.Sha256] (bytes : List UInt8) : ContentId :=
  ⟨.sha256, Graph.Sha256.sha256 bytes⟩

end Alumina.Client
