import Mathlib.Algebra.Group.Int.Defs
import Mathlib.Algebra.Group.Nat.Defs
import TitanSSH.Library.Text
import TitanSSH.Models.Monitor

namespace TitanSSH.Monitor

open Text

/-! The output of one collection, and the snapshot that the worker of a session
makes of it.  Texts are lists of characters, counters are below `2 ^ 64`, and
timestamps count milliseconds. -/

/-- The floating point operations that usages are computed with. -/
structure F64 (Usage : Type) where
  parse : List Char → Option Usage
  ofU64 : ℕ → Usage
  le : Usage → Usage → Bool
  max : Usage → Usage → Usage
  sub : Usage → Usage → Usage
  mul : Usage → Usage → Usage
  div : Usage → Usage → Usage
  round : Usage → Usage

structure NetworkCounter where
  name : String
  receiveBytes : ℕ
  transmitBytes : ℕ
  deriving DecidableEq

structure NetworkSample where
  timestamp : ℤ
  interfaces : List NetworkCounter
  deriving DecidableEq

structure CpuSample where
  total : ℕ
  idle : ℕ
  deriving DecidableEq

def u64Bound : ℕ := 2 ^ 64

def parseU64 (text : List Char) : Option ℕ :=
  (parseUnsigned u64Bound (trim text)).toOption

variable {Usage : Type} (f64 : F64 Usage)

/-- In percent, with one digit after the point. -/
def roundPercent (ratio : Usage) : Usage :=
  let percent := f64.mul ratio (f64.ofU64 100)
  f64.div (f64.round (f64.mul percent (f64.ofU64 10))) (f64.ofU64 10)

def computeCpuUsage (previousSample currentSample : Option CpuSample) :
    Option Usage := do
  let previous ← previousSample
  let current ← currentSample
  let totalDelta := current.total - previous.total
  let idleDelta := current.idle - previous.idle
  if totalDelta = 0 then return f64.ofU64 0
  return roundPercent f64
    (f64.div (f64.ofU64 (totalDelta - idleDelta)) (f64.ofU64 totalDelta))

def resolveMemoryUsage (totalKb availableKb : Option Usage) : Option Usage := do
  let total ← totalKb
  if f64.le total (f64.ofU64 0) then none
  let available ← availableKb
  return roundPercent f64
    (f64.div (f64.max (f64.sub total available) (f64.ofU64 0)) total)

def parseNetworkCounter (value : List Char) : Option NetworkCounter :=
  match value.splitOn ',' with
  | name :: receive :: transmit :: rest => do
      let receiveBytes ← parseU64 receive
      let transmitBytes ← parseU64 transmit
      if trim name ≠ "lo".toList ∧ trim name ≠ [] ∧ rest = [] then
        some ⟨String.ofList (trim name), receiveBytes, transmitBytes⟩
      else none
  | _ => none

def isLoopback (value : List Char) : Bool :=
  (value.splitOn ',').head?.any fun name => trim name == "lo".toList

structure Readings (Usage : Type) where
  memoryTotalKb : Option Usage := none
  memoryAvailableKb : Option Usage := none
  diskUsage : Option Usage := none
  diskAvailableBytes : Option ℕ := none
  diskTotalBytes : Option ℕ := none
  cpuTotal : Option ℕ := none
  cpuIdle : Option ℕ := none

structure NetworkReadings where
  available : Bool := false
  parseFailed : Bool := false
  interfaces : List NetworkCounter := []

def stripPrefix (key : String) (line : List Char) : Option (List Char) :=
  key.toList.isPrefixOf? line

def usageReaders :
    List (String × (List Char → Readings Usage → Readings Usage)) :=
  [("CPU_TOTAL=", fun value usages =>
      { usages with cpuTotal := parseU64 value }),
    ("CPU_IDLE=", fun value usages =>
      { usages with cpuIdle := parseU64 value }),
    ("MEM_TOTAL_KB=", fun value usages =>
      { usages with memoryTotalKb := f64.parse (trim value) }),
    ("MEM_AVAILABLE_KB=", fun value usages =>
      { usages with memoryAvailableKb := f64.parse (trim value) }),
    ("DISK=", fun value usages =>
      { usages with diskUsage := f64.parse (trim value) }),
    ("DISK_AVAIL=", fun value usages =>
      { usages with diskAvailableBytes := parseU64 value }),
    ("DISK_TOTAL=", fun value usages =>
      { usages with diskTotalBytes := parseU64 value })]

def readUsageLine? (line : List Char) (usages : Readings Usage) :
    Option (Readings Usage) :=
  (usageReaders f64).findSome? fun reader =>
    (stripPrefix reader.1 line).map fun value => reader.2 value usages

def readNetworkCounter (value : List Char) (network : NetworkReadings) :
    NetworkReadings :=
  if isLoopback value then network
  else
    match parseNetworkCounter value with
    | some counter =>
        { network with interfaces := network.interfaces ++ [counter] }
    | none => { network with parseFailed := true }

def readNetworkLine (network : NetworkReadings) (line : List Char) :
    NetworkReadings :=
  if line = "NETWORK_STATUS=available".toList then
    { network with available := true }
  else
    match stripPrefix "NET=" line with
    | some value => readNetworkCounter value network
    | none => network

def readLine (readings : Readings Usage × NetworkReadings)
    (line : List Char) : Readings Usage × NetworkReadings :=
  match readUsageLine? f64 line readings.1 with
  | some usages => (usages, readings.2)
  | none => (readings.1, readNetworkLine readings.2 line)

def checkedSubI64 (left right : ℤ) : Option ℤ :=
  if -2 ^ 63 ≤ left - right ∧ left - right < 2 ^ 63 then some (left - right)
  else none

def checkedSubU64 (left right : ℕ) : Option ℕ :=
  if right ≤ left then some (left - right) else none

/-- The product is one of 128 bits, the result one of 64. -/
def rateBetween (previous current : ℕ)
    (previousTimestamp currentTimestamp : ℤ) : Option ℕ := do
  let elapsedMillis ← checkedSubI64 currentTimestamp previousTimestamp
  let delta ← checkedSubU64 current previous
  if 0 < elapsedMillis then
    some (min (delta * 1000 % 2 ^ 128 / elapsedMillis.toNat) (2 ^ 64 - 1) %
      2 ^ 64)
  else none

def computeNetworkRates (previous : Option NetworkSample)
    (current : NetworkSample) : List NetworkInterface :=
  current.interfaces.map fun counter =>
    let previousCounter := previous.bind fun sample =>
      (sample.interfaces.find? (·.name == counter.name)).map fun candidate =>
        (sample, candidate)
    { name := counter.name
      receiveBytesPerSecond := previousCounter.bind fun found =>
        rateBetween found.2.receiveBytes counter.receiveBytes
          found.1.timestamp current.timestamp
      transmitBytesPerSecond := previousCounter.bind fun found =>
        rateBetween found.2.transmitBytes counter.transmitBytes
          found.1.timestamp current.timestamp }

abbrev Parsed (Usage : Type) :=
  MonitorSnapshot Usage × Option CpuSample × Option NetworkSample

def zipCpu : Option ℕ → Option ℕ → Option CpuSample
  | some total, some idle => some ⟨total, idle⟩
  | _, _ => none

def parseSnapshotAt (sessionId : String) (output : List Char)
    (previousCpuSample : Option CpuSample)
    (previousNetworkSample : Option NetworkSample) (timestamp : ℤ) :
    Except AppError (Parsed Usage) :=
  let (usages, network) := (lines output).foldl (readLine f64) ({}, {})
  let currentCpuSample := zipCpu usages.cpuTotal usages.cpuIdle
  let (snapshot, currentNetworkSample) :=
    if network.available && !network.parseFailed then
      let sample : NetworkSample := ⟨timestamp, network.interfaces⟩
      ((⟨true, computeNetworkRates previousNetworkSample sample⟩ :
        NetworkSnapshot), some sample)
    else (⟨false, []⟩, none)
  .ok
    (⟨sessionId, timestamp,
      computeCpuUsage f64 previousCpuSample currentCpuSample,
      resolveMemoryUsage f64 usages.memoryTotalKb usages.memoryAvailableKb,
      usages.diskUsage, usages.diskAvailableBytes, usages.diskTotalBytes,
      snapshot⟩,
      currentCpuSample, currentNetworkSample)

structure Collection where
  output : List Char
  timestamp : ℤ

/-- The snapshots of the monitoring loop, which hands the samples of each round to
the next. -/
def runMonitorLoop (sessionId : String) :
    Option CpuSample → Option NetworkSample → List Collection →
      List (MonitorSnapshot Usage)
  | _, _, [] => []
  | previousCpuSample, previousNetworkSample, collection :: rest =>
      match parseSnapshotAt f64 sessionId collection.output previousCpuSample
          previousNetworkSample collection.timestamp with
      | .error _ => []
      | .ok (snapshot, cpuSample, networkSample) =>
          snapshot :: runMonitorLoop sessionId cpuSample networkSample rest

end TitanSSH.Monitor
