import ComputeSdk.Model.Bridge.Getters
import ComputeSdk.Model.Bridge.KvBuilders
import ComputeSdk.Model.Bridge.Services

/-! # Timeouts and keepalive of backends

The setters of a backend builder and the getters of the backend that it makes. Durations are
counts of milliseconds. -/

namespace ComputeSdk

open Shared

/-- `std::num::NonZero<u32>`. -/
structure NonZero where
  value : UInt32
  ne_zero : value ≠ 0
  deriving DecidableEq

/-- `NonZero::new(value).unwrap()`. -/
def NonZero.newUnwrap (value : UInt32) : Except Abort NonZero :=
  if h : value ≠ 0 then .ok ⟨value, h⟩
  else .error ⟨"called `Option::unwrap()` on a `None` value"⟩

/-- The setters of the builder of the crate and the getters of its backend. -/
structure BackendOps (F : Crates) where
  connectTimeout : Duration → F.BackendBuilder → F.BackendBuilder
  firstByteTimeout : Duration → F.BackendBuilder → F.BackendBuilder
  betweenBytesTimeout : Duration → F.BackendBuilder → F.BackendBuilder
  httpKeepaliveTime : Duration → F.BackendBuilder → F.BackendBuilder
  tcpKeepaliveEnable : Bool → F.BackendBuilder → F.BackendBuilder
  tcpKeepaliveIntervalSecs : NonZero → F.BackendBuilder → F.BackendBuilder
  tcpKeepaliveProbes : NonZero → F.BackendBuilder → F.BackendBuilder
  tcpKeepaliveTimeSecs : NonZero → F.BackendBuilder → F.BackendBuilder
  getConnectTimeout : F.Backend → Duration
  getFirstByteTimeout : F.Backend → Duration
  getBetweenBytesTimeout : F.Backend → Duration
  getHttpKeepaliveTime : F.Backend → Duration
  getTcpKeepaliveEnable : F.Backend → Bool
  getTcpKeepaliveInterval : F.Backend → Duration
  getTcpKeepaliveProbes : F.Backend → UInt32
  getTcpKeepaliveTime : F.Backend → Duration

variable (F : Crates) (B : BackendOps F)

/-! ## Bridged functions -/

namespace Sys

namespace Backend

def getConnectTimeout (backend : F.Backend) : UInt32 :=
  ensureU32 (B.getConnectTimeout backend).asMillis

def getFirstByteTimeout (backend : F.Backend) : UInt32 :=
  ensureU32 (B.getFirstByteTimeout backend).asMillis

def getBetweenBytesTimeout (backend : F.Backend) : UInt32 :=
  ensureU32 (B.getBetweenBytesTimeout backend).asMillis

def getHttpKeepaliveTime (backend : F.Backend) : UInt32 :=
  ensureU32 (B.getHttpKeepaliveTime backend).asMillis

def getTcpKeepaliveEnable (backend : F.Backend) : Bool := B.getTcpKeepaliveEnable backend

def getTcpKeepaliveInterval (backend : F.Backend) : UInt32 :=
  ensureU32 (B.getTcpKeepaliveInterval backend).asMillis

def getTcpKeepaliveProbes (backend : F.Backend) : UInt32 := B.getTcpKeepaliveProbes backend

def getTcpKeepaliveTime (backend : F.Backend) : UInt32 :=
  ensureU32 (B.getTcpKeepaliveTime backend).asMillis

end Backend

/-- `m_backend_backend_builder_connect_timeout`, and so on. -/
def backendBuilderConnectTimeout (timeout : UInt32) : F.BackendBuilder → F.BackendBuilder :=
  B.connectTimeout (.fromMillis timeout.toUInt64)

def backendBuilderFirstByteTimeout (timeout : UInt32) : F.BackendBuilder → F.BackendBuilder :=
  B.firstByteTimeout (.fromMillis timeout.toUInt64)

def backendBuilderBetweenBytesTimeout (timeout : UInt32) :
    F.BackendBuilder → F.BackendBuilder :=
  B.betweenBytesTimeout (.fromMillis timeout.toUInt64)

def backendBuilderHttpKeepaliveTime (timeout : UInt32) : F.BackendBuilder → F.BackendBuilder :=
  B.httpKeepaliveTime (.fromMillis timeout.toUInt64)

def backendBuilderTcpKeepaliveEnable (value : Bool) : F.BackendBuilder → F.BackendBuilder :=
  B.tcpKeepaliveEnable value

def backendBuilderTcpKeepaliveIntervalSecs (value : UInt32) (builder : F.BackendBuilder) :
    Except Abort F.BackendBuilder :=
  (NonZero.newUnwrap value).map fun value => B.tcpKeepaliveIntervalSecs value builder

def backendBuilderTcpKeepaliveProbes (value : UInt32) (builder : F.BackendBuilder) :
    Except Abort F.BackendBuilder :=
  (NonZero.newUnwrap value).map fun value => B.tcpKeepaliveProbes value builder

def backendBuilderTcpKeepaliveTimeSecs (value : UInt32) (builder : F.BackendBuilder) :
    Except Abort F.BackendBuilder :=
  (NonZero.newUnwrap value).map fun value => B.tcpKeepaliveTimeSecs value builder

end Sys

/-! ## The interface -/

namespace Backend

def getConnectTimeout (backend : F.Backend) : ℕ := (Sys.Backend.getConnectTimeout F B backend).toNat

def getFirstByteTimeout (backend : F.Backend) : ℕ :=
  (Sys.Backend.getFirstByteTimeout F B backend).toNat

/-- It asks the bridge for the other timeout. -/
def getBetweenByteTimeout (backend : F.Backend) : ℕ :=
  (Sys.Backend.getFirstByteTimeout F B backend).toNat

def getHttpKeepaliveTime (backend : F.Backend) : ℕ :=
  (Sys.Backend.getHttpKeepaliveTime F B backend).toNat

def getTcpKeepaliveEnable (backend : F.Backend) : Bool :=
  Sys.Backend.getTcpKeepaliveEnable F B backend

def getTcpKeepaliveInterval (backend : F.Backend) : ℕ :=
  (Sys.Backend.getTcpKeepaliveInterval F B backend).toNat

def getTcpKeepaliveProbes (backend : F.Backend) : UInt32 :=
  Sys.Backend.getTcpKeepaliveProbes F B backend

def getTcpKeepaliveTime (backend : F.Backend) : ℕ :=
  (Sys.Backend.getTcpKeepaliveTime F B backend).toNat

end Backend

namespace BackendBuilder

def connectTimeout (timeout : Int64) : F.BackendBuilder → F.BackendBuilder :=
  Sys.backendBuilderConnectTimeout F B (narrow timeout)

def firstByteTimeout (timeout : Int64) : F.BackendBuilder → F.BackendBuilder :=
  Sys.backendBuilderFirstByteTimeout F B (narrow timeout)

def betweenBytesTimeout (timeout : Int64) : F.BackendBuilder → F.BackendBuilder :=
  Sys.backendBuilderBetweenBytesTimeout F B (narrow timeout)

def httpKeepaliveTime (time : Int64) : F.BackendBuilder → F.BackendBuilder :=
  Sys.backendBuilderHttpKeepaliveTime F B (narrow time)

def tcpKeepaliveEnable (enable : Bool) : F.BackendBuilder → F.BackendBuilder :=
  Sys.backendBuilderTcpKeepaliveEnable F B enable

def tcpKeepaliveIntervalSecs (secs : UInt32) : F.BackendBuilder → Except Abort F.BackendBuilder :=
  Sys.backendBuilderTcpKeepaliveIntervalSecs F B secs

def tcpKeepaliveProbes (probes : UInt32) : F.BackendBuilder → Except Abort F.BackendBuilder :=
  Sys.backendBuilderTcpKeepaliveProbes F B probes

def tcpKeepaliveTimeSecs (secs : UInt32) : F.BackendBuilder → Except Abort F.BackendBuilder :=
  Sys.backendBuilderTcpKeepaliveTimeSecs F B secs

end BackendBuilder

end ComputeSdk
